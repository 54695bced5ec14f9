import NomadCsi.Node.Tools

/-!
# What the commands read and change

The session list, the mount table and the path list of multipathd: one command each,
which returns the table of the host or fails, and leaves the tables as they are. Only
`iscsiadm` login and logout change the established sessions (`hostAct_logins`).
-/

namespace NomadCsi.Node

open Lib Lib.Go Driver

abbrev HostEv := Event Cmd Cmd.Reply Host CmdChoice

/-- The same tables, at another time. -/
def Same (h h' : Host) : Prop := ∃ t, h' = { h with now := t }

theorem Same.refl (h : Host) : Same h h := ⟨h.now, rfl⟩

variable {h : Host}

theorem Same.trans {h' h'' : Host} (h1 : Same h h') (h2 : Same h' h'') : Same h h'' := by
  obtain ⟨t, rfl⟩ := h1
  obtain ⟨t', rfl⟩ := h2
  exact ⟨t', rfl⟩

/-- One command `c` was run: it returned `a`, or it failed and so did the operation. -/
def Listed {α : Type} (c : Cmd) (a : α) (h : Host) (tr : List HostEv) (res : Except String α)
    (h' : Host) : Prop :=
  Same h h' ∧ ∃ e, tr = [e] ∧ e.call = c ∧
    ((e.choice.fail = none ∧ res = .ok a) ∨ (e.choice.fail ≠ none ∧ ∃ msg, res = .error msg))

/-- One command `c` was run, and gave `a` unless it failed. -/
def Reads {α : Type} (c : Cmd) (a : α) (h : Host) (tr : List HostEv) (res : Except String α)
    (h' : Host) : Prop :=
  Same h h' ∧ ∃ e, tr = [e] ∧ e.call = c ∧ (e.choice.fail = none → res = .ok a)

def Host.later (h : Host) (ch : CmdChoice) : Host := { h with now := h.now + ch.tick }

variable {c : Cmd} {α : Type}

theorem wp_reading {β : Type} {a : α} {h : Host} {k : c.Reply → Tool α}
    (f : Except ExecError β → c.Reply) (r : Except ExecError β) (hread : ∀ ch, hostAnswer h c ch =
      (f (reading h ch r).1, (reading h ch r).2)) (hok : k (f r) = pure a)
    (herr : ∀ text, ∃ msg, k (f (.error ⟨255, text⟩)) = throw msg) :
    wp hostAct (perform c >>= k : Tool α).run h (Listed c a h) := by
  refine wp_run_bind.2 (wp_perform.2 fun ch => ?_)
  cases hf : ch.fail with
  | none =>
    simp only [hostAct, hread, reading, hf, hok]
    exact ⟨⟨_, rfl⟩, _, rfl, rfl, .inl ⟨hf, rfl⟩⟩
  | some text =>
    obtain ⟨msg, hk⟩ := herr text
    simp only [hostAct, hread, reading, hf, hk]
    exact ⟨⟨_, rfl⟩, _, rfl, rfl, .inr ⟨by simp [hf], msg, rfl⟩⟩

theorem wp_listSessions (h : Host) :
    wp hostAct listSessions.run h (Listed .sessionList h.sessions h) := by
  refine wp_reading id _ (fun _ => rfl) ?_ fun _ => ⟨_, rfl⟩
  cases hl : h.logins with
  | nil =>
    have hnil : h.sessions = [] := by simp [Host.sessions, hl]
    rw [hnil]
    rfl
  | cons _ _ => rfl

/-- The host as the mount listings of a run show it: one that failed shows no mounts, if it shows
anything. -/
def Host.seen (h : Host) (tr : List HostEv) : Host :=
  if ∀ e ∈ tr, e.call = .findmnt → e.choice.fail = none then h else { h with mounts := [] }

theorem Host.seen_append (h : Host) {tr' : List HostEv} (hno : ∀ e ∈ tr', e.call ≠ .findmnt)
    (tr : List HostEv) : h.seen (tr ++ tr') = h.seen tr := by
  unfold Host.seen
  congr 1
  refine propext ⟨fun hall e he => hall e (List.mem_append_left _ he), fun hall e he hc => ?_⟩
  rcases List.mem_append.1 he with he | he
  · exact hall e he hc
  · exact absurd hc (hno e he)

/-- A listing that fails is an error, or shows an empty table. -/
theorem wp_listMounts (h : Host) : wp hostAct listMounts.run h fun tr res h' =>
    Same h h' ∧ ∃ e, tr = [e] ∧ e.call = .findmnt ∧ (res = .ok (h.seen [e]).mounts ∨
      e.choice.fail ≠ none ∧ ∃ msg, res = .error msg) := by
  refine wp_run_bind.2 (wp_perform.2 fun ch => ?_)
  cases hf : ch.fail with
  | none =>
    have hact : hostAct h .findmnt ch =
        (if h.mounts.isEmpty then .error ⟨1, ""⟩ else .ok h.mounts, h.later ch) := by
      simp [hostAct, hostAnswer, hf, Host.later]
    rw [hact]
    cases hm : h.mounts with
    | nil => exact ⟨⟨_, rfl⟩, _, rfl, rfl, .inl (by simp [Host.seen, hf, hm])⟩
    | cons m ms => exact ⟨⟨_, rfl⟩, _, rfl, rfl, .inl (by simp [Host.seen, hf, hm])⟩
  | some text =>
    have hact : hostAct h .findmnt ch =
        (.error ⟨if ch.blind then 1 else 255, text⟩, h.later ch) := by
      simp [hostAct, hostAnswer, hf, Host.later]
    rw [hact]
    cases ch.blind with
    | true => exact ⟨⟨_, rfl⟩, _, rfl, rfl, .inl (by simp [Host.seen, hf])⟩
    | false => exact ⟨⟨_, rfl⟩, _, rfl, rfl, .inr ⟨by simp [hf], _, rfl⟩⟩

theorem reads_listMounts (h : Host) : wp hostAct listMounts.run h (Reads .findmnt h.mounts h) := by
  refine wp_mono (wp_listMounts h) ?_
  rintro tr res h' ⟨hsame, e, rfl, hc, hres⟩
  refine ⟨hsame, e, rfl, hc, fun hf => ?_⟩
  rcases hres with rfl | ⟨hne, -⟩
  · simp [Host.seen, hf]
  · exact absurd hf hne

theorem Listed.reads {a : α} {h' : Host} {tr : List HostEv} {res : Except String α}
    (hl : Listed c a h tr res h') : Reads c a h tr res h' := by
  obtain ⟨hsame, e, rfl, rfl, ⟨-, hres⟩ | ⟨hf, -⟩⟩ := hl
  · exact ⟨hsame, e, rfl, rfl, fun _ => hres⟩
  · exact ⟨hsame, e, rfl, rfl, fun h => absurd h hf⟩

theorem wp_mapWWID (h : Host) (device : String) :
    wp hostAct (mapWWID device).run h (Listed .showPaths (wwidOf h.paths device) h) :=
  wp_reading id _ (fun _ => rfl) rfl fun _ => ⟨_, rfl⟩

theorem wp_members (h : Host) (wwid : String) :
    wp hostAct (members wwid).run h
      (Listed .showPaths ((h.paths.filter (·.2 = wwid)).map (·.1)) h) :=
  wp_reading id _ (fun _ => rfl) rfl fun _ => ⟨_, rfl⟩

/-! ### Which commands the wrappers run -/

theorem calls_logout (p iqn : String) : (logout p iqn).run.Calls (· = .logout p iqn) :=
  calls_reply (calls_perform rfl) (fun _ => trivial) fun _ => calls_ite_throw _ _

theorem calls_listSessions : listSessions.run.Calls (· = .sessionList) :=
  calls_reply (calls_perform rfl) (fun _ => trivial) fun _ => calls_ite_throw _ _

theorem calls_listMounts : listMounts.run.Calls (· = .findmnt) :=
  calls_reply (calls_perform rfl) (fun _ => trivial) fun _ => calls_ite_throw _ _

theorem calls_mapWWID (device : String) : (mapWWID device).run.Calls (· = .showPaths) :=
  calls_run_bind (calls_perform rfl) fun _ =>
    calls_run_bind (calls_outcome _ _) fun _ => trivial

theorem calls_members (wwid : String) : (members wwid).run.Calls (· = .showPaths) :=
  calls_run_bind (calls_perform rfl) fun _ =>
    calls_run_bind (calls_outcome _ _) fun _ => trivial

theorem calls_flush (wwid : String) : (flush wwid).run.Calls (· = .flush wwid) :=
  calls_run_bind (calls_perform rfl) fun _ => calls_outcome _ _

attribute [local irreducible] trimSpace in
theorem calls_sourceDevice (path : String) :
    (sourceDevice path).run.Calls (· = .findmntSource path) := by
  refine calls_run_bind (calls_perform rfl) fun _ => calls_run_bind (calls_outcome _ _) fun out => ?_
  split <;> trivial

theorem calls_isMounted (target : String) :
    (isMounted target).run.Calls (· = .findmntTarget target) :=
  calls_reply (calls_perform rfl) (fun _ => trivial) fun _ => calls_ite_throw _ _

theorem calls_unmount (target : String) : (unmount target).run.Calls
    fun c => c = .findmntTarget target ∨ c = .umount target := by
  have hmounted := (calls_isMounted target).mono
    fun c hc => (.inl hc : c = .findmntTarget target ∨ c = .umount target)
  refine calls_run_bind hmounted fun mounted => ?_
  cases mounted with
  | false => trivial
  | true =>
    refine calls_run_bind (calls_perform (.inr rfl)) fun reply => ?_
    cases reply with
    | ok _ => trivial
    | error e =>
      refine calls_run_bind (calls_attempt hmounted) fun still => ?_
      rcases still with _ | (_ | _)
      all_goals trivial

/-- A command of the node's that changes nothing. -/
def Cmd.looks : Cmd → Bool
  | .sessionList | .showPaths | .findmnt | .findmntTarget _ | .findmntSource _ | .holders _
  | .metaLoad _ | .resolveIQN _ _ _ => true
  | _ => false

/-- A command that looks for a device, or waits for it. -/
def Cmd.waits : Cmd → Bool
  | .showPaths | .resolveIQN _ _ _ | .waitForDevice _ _ | .waitForPath _ | .pause => true
  | _ => false

/-- A command of an attach: of the sessions and maps, or a wait. -/
def Cmd.attaches : Cmd → Bool
  | .discover _ | .login _ _ | .logout _ _ | .flush _ => true
  | c => c.waits

theorem Cmd.attaches_of_waits (hc : c.waits = true) : c.attaches = true := by
  cases c with
  | showPaths | resolveIQN | waitForDevice | waitForPath | pause => rfl
  | _ => cases hc

theorem looks_of {x : Prog Cmd Cmd.Reply α} (hx : x.Calls (· = c)) (hc : c.looks = true) :
    x.Calls (·.looks = true) :=
  hx.mono fun _ h => h ▸ hc

theorem attaches_of {x : Prog Cmd Cmd.Reply α} (hx : x.Calls (· = c)) (hc : c.attaches = true) :
    x.Calls (·.attaches = true) :=
  hx.mono fun _ h => h ▸ hc

/-- The session list, the mount table and the path list did not fail. -/
def Listings (tr : List HostEv) : Prop :=
  ∀ e ∈ tr, e.call = .sessionList ∨ e.call = .findmnt ∨ e.call = .showPaths → e.choice.fail = none

theorem Listings.append {tr tr' : List HostEv} (h : Listings (tr ++ tr')) :
    Listings tr ∧ Listings tr' :=
  ⟨fun e he => h e (List.mem_append_left _ he), fun e he => h e (List.mem_append_right _ he)⟩

theorem Reads.ok {a : α} {h' : Host} {tr : List HostEv} {res : Except String α}
    (hl : Reads c a h tr res h') (hok : Listings tr)
    (hc : c = .sessionList ∨ c = .findmnt ∨ c = .showPaths) : Same h h' ∧ res = .ok a := by
  obtain ⟨hsame, e, rfl, rfl, hres⟩ := hl
  exact ⟨hsame, hres (hok e (.head _) hc)⟩

theorem Listed.ok {a : α} {h' : Host} {tr : List HostEv} {res : Except String α}
    (hl : Listed c a h tr res h') (hok : Listings tr)
    (hc : c = .sessionList ∨ c = .findmnt ∨ c = .showPaths) : Same h h' ∧ res = .ok a :=
  hl.reads.ok hok hc

/-- What `findmnt` reports as the source at a path in this run, if it was asked and did not
fail. -/
def seenSource (h : Host) (tr : List HostEv) (path : String) : Option String :=
  match tr.find? (·.call = .findmntSource path) with
  | some e =>
    if e.choice.fail = none then
      ((h.mountOf path).map fun m => trimSpace m.source).filter (· ≠ "")
    else none
  | none => none

def Cmd.asksSAN : Cmd → Bool
  | .resolveIQN _ _ _ => true
  | _ => false

/-- The IQN that the SAN names in this run. -/
def sanSays (tr : List HostEv) : Option String :=
  (tr.find? (·.call.asksSAN)).bind (·.choice.iqn)

theorem sanSays_append (tr tr' : List HostEv) (h : ∀ e ∈ tr, e.call.asksSAN = false) :
    sanSays (tr ++ tr') = sanSays tr' := by
  have hnone : tr.find? (·.call.asksSAN) = none := by
    rw [List.find?_eq_none]
    intro e he
    simp [h e he]
  rw [sanSays, List.find?_append, hnone]
  rfl

attribute [local irreducible] trimSpace in
theorem wp_sourceDevice (h : Host) (path : String) :
    wp hostAct (sourceDevice path).run h fun tr r h' => Same h h' ∧
      ∃ e, tr = [e] ∧ e.call = .findmntSource path ∧ r.toOption = seenSource h [e] path := by
  refine wp_run_bind.2 (wp_perform.2 fun ch => ?_)
  cases hf : ch.fail with
  | some text =>
    have hact : hostAct h (.findmntSource path) ch = (.error ⟨255, text⟩, h.later ch) := by
      simp [hostAct, hostAnswer, reading, hf, Host.later]
    rw [hact]
    exact ⟨⟨_, rfl⟩, _, rfl, rfl, by simp [seenSource, hf]; rfl⟩
  | none =>
    cases hm : h.mountOf path with
    | none =>
      have hact : hostAct h (.findmntSource path) ch = (.error ⟨1, ""⟩, h.later ch) := by
        simp [hostAct, hostAnswer, reading, hf, hm, Host.later]
      rw [hact]
      exact ⟨⟨_, rfl⟩, _, rfl, rfl, by simp [seenSource, hf, hm]; rfl⟩
    | some m =>
      have hact : hostAct h (.findmntSource path) ch = (.ok m.source, h.later ch) := by
        simp [hostAct, hostAnswer, reading, hf, hm, Host.later]
      rw [hact]
      change wp hostAct (ExceptT.run (if trimSpace m.source = "" then _ else _)) _ _
      split
      · next he => exact ⟨⟨_, rfl⟩, _, rfl, rfl, by simp [seenSource, hf, hm, he]; rfl⟩
      · next he =>
        refine ⟨⟨_, rfl⟩, _, rfl, rfl, ?_⟩
        simp only [seenSource, decide_true, List.find?_cons_of_pos, hf, hm, if_true,
          Option.map_some, Option.filter_some, ne_eq, he, not_false_eq_true]
        rfl

/-! ### The established sessions -/

/-- A session to the target at a portal address. -/
def Host.HasSession (h : Host) (address iqn : String) : Prop :=
  ∃ l ∈ h.logins, l.portal = address ∧ l.iqn = iqn

theorem hostAct_address (h : Host) (c : Cmd) (ch : CmdChoice) :
    (hostAct h c ch).2.address = h.address := by
  unfold hostAct hostAnswer effect reading
  cases c <;> dsimp only <;> (repeat' split) <;> rfl

theorem hostAct_logins (h : Host) (ch : CmdChoice) (hin : ∀ p iqn, c ≠ .login p iqn)
    (hout : ∀ p iqn, c ≠ .logout p iqn) : (hostAct h c ch).2.logins = h.logins := by
  unfold hostAct hostAnswer effect reading
  cases c with
  | login p iqn => exact absurd rfl (hin p iqn)
  | logout p iqn => exact absurd rfl (hout p iqn)
  | _ => first | rfl | (dsimp only; (repeat' split) <;> rfl)

theorem hostAct_stages (h : Host) (ch : CmdChoice) (hsave : ∀ v m, c ≠ .metaSave v m)
    (hdel : ∀ v, c ≠ .metaDelete v) : (hostAct h c ch).2.stages = h.stages := by
  unfold hostAct hostAnswer effect reading
  cases c with
  | metaSave v m => exact absurd rfl (hsave v m)
  | metaDelete v => exact absurd rfl (hdel v)
  | _ => first | rfl | (dsimp only; (repeat' split) <;> rfl)

theorem hasSession_later {ch : CmdChoice} {a i : String} :
    (h.later ch).HasSession a i ↔ h.HasSession a i := Iff.rfl

theorem wp_discover (h : Host) (p : String) :
    wp hostAct (discover p).run h (Listed (.discover p) () h) := by
  refine wp_reading id (.ok ()) (fun ch => ?_) rfl fun _ => ⟨_, rfl⟩
  cases hf : ch.fail <;> simp [hostAnswer, effect, reading, hf]

/-- After a login that did not fail the session is there, beside what was there. A session that
is there already counts as a login. -/
theorem wp_login (h : Host) (p iqn : String) :
    wp hostAct (login p iqn).run h fun tr r h' => (∀ e ∈ tr, e.call = .login p iqn) ∧
      h'.address = h.address ∧ (h.LoggedIn p iqn → r.isOk = true) ∧
      ∀ a i, h'.HasSession a i ↔
        h.HasSession a i ∨ r.isOk = true ∧ a = h.address p ∧ i = iqn := by
  refine wp_run_bind.2 (wp_perform.2 fun ch => ?_)
  by_cases hl : h.LoggedIn p iqn
  · have hact : hostAct h (.login p iqn) ch = (.error ⟨15, "session exists"⟩, h.later ch) := by
      simp [hostAct, hostAnswer, hl, Host.later]
    rw [hact]
    refine ⟨by simp, rfl, fun _ => rfl, fun a i => ?_⟩
    rw [hasSession_later]
    constructor
    · exact .inl
    · rintro (hs | ⟨-, rfl, rfl⟩)
      · exact hs
      · exact hl
  · cases hf : ch.fail with
    | some text =>
      have hact : hostAct h (.login p iqn) ch = (.error ⟨255, text⟩, h.later ch) := by
        simp [hostAct, hostAnswer, hl, effect, hf, Host.later]
      rw [hact]
      exact ⟨by simp, rfl, fun h => absurd h hl, fun a i => ⟨.inl, by rintro (hs | ⟨⟨⟩, -⟩); exact hs⟩⟩
    | none =>
      have hact : hostAct h (.login p iqn) ch = (.ok (), Host.later
          { h with logins := h.logins ++ [⟨h.address p, iqn, ch.luns⟩] } ch) := by
        simp [hostAct, hostAnswer, hl, effect, hf, Host.later]
      rw [hact]
      refine ⟨by simp, rfl, fun _ => rfl, fun a i => ?_⟩
      rw [hasSession_later]
      constructor
      · rintro ⟨l, hmem, rfl, rfl⟩
        rcases mem_snoc.1 hmem with hmem | rfl
        · exact .inl ⟨l, hmem, rfl, rfl⟩
        · exact .inr ⟨rfl, rfl, rfl⟩
      · rintro (⟨l, hmem, hl⟩ | ⟨-, rfl, rfl⟩)
        · exact ⟨l, List.mem_append_left _ hmem, hl⟩
        · exact ⟨_, List.mem_append_right _ (.head _), rfl, rfl⟩

theorem wp_logout (h : Host) (p iqn : String) :
    wp hostAct (logout p iqn).run h fun tr _ h' => (∀ e ∈ tr, e.call = .logout p iqn) ∧
      h'.address = h.address ∧ ((∀ e ∈ tr, e.choice.fail = none) →
        ∀ a i, h'.HasSession a i ↔ h.HasSession a i ∧ ¬ (a = h.address p ∧ i = iqn)) := by
  refine wp_run_bind.2 (wp_perform.2 fun ch => ?_)
  by_cases hl : h.LoggedIn p iqn
  · cases hf : ch.fail with
    | some text =>
      have hact : hostAct h (.logout p iqn) ch = (.error ⟨255, text⟩, h.later ch) := by
        simp [hostAct, hostAnswer, hl, effect, hf, Host.later]
      rw [hact]
      refine ⟨by simp, rfl, fun hok => ?_⟩
      have := hok _ (.head _)
      rw [hf] at this
      cases this
    | none =>
      have hact : hostAct h (.logout p iqn) ch = (.ok (), Host.later { h with
          logins := h.logins.filter fun l => ¬ (l.portal = h.address p ∧ l.iqn = iqn) } ch) := by
        simp [hostAct, hostAnswer, hl, effect, hf, Host.later]
      rw [hact]
      refine ⟨by simp, rfl, fun _ a i => ?_⟩
      rw [hasSession_later]
      constructor
      · rintro ⟨l, hmem, rfl, rfl⟩
        obtain ⟨hmem, hne⟩ := List.mem_filter.1 hmem
        exact ⟨⟨l, hmem, rfl, rfl⟩, of_decide_eq_true hne⟩
      · rintro ⟨⟨l, hmem, rfl, rfl⟩, hne⟩
        exact ⟨l, List.mem_filter.2 ⟨hmem, decide_eq_true hne⟩, rfl, rfl⟩
  · have hact : hostAct h (.logout p iqn) ch =
        (.error ⟨21, "no matching sessions"⟩, h.later ch) := by
      simp [hostAct, hostAnswer, hl, Host.later]
    rw [hact]
    refine ⟨by simp, rfl, fun _ a i => ?_⟩
    rw [hasSession_later]
    constructor
    · intro hs
      refine ⟨hs, ?_⟩
      rintro ⟨rfl, rfl⟩
      exact hl hs
    · exact fun hs => hs.1

end NomadCsi.Node
