import Mathlib.Data.List.Induction
import NomadCsi.Lib.Eval
import NomadCsi.Node.Logic

/-!
# The mount table

`Mount`, `BindMount` and `Unmount` act on the place that their target denotes, but whether
something is mounted there they read off `findmnt`, as the target is spelled.
-/

namespace NomadCsi.Node

open Lib Lib.Go Driver

namespace Host

/-- `findmnt` shows the path itself as a mountpoint. -/
def showsMounted (h : Host) (path : String) : Bool :=
  (h.mountOf path).any fun m => trimSpace m.target = path

/-- The mounts at the place a path denotes, the topmost last. -/
def mountsAt (h : Host) (path : String) : List Mount := h.mounts.filter (·.target = h.real path)

end Host

def Clean (tr : List HostEv) : Prop := ∀ e ∈ tr, e.choice.fail = none

variable {tr : List HostEv}

theorem Clean.append {tr' : List HostEv} : Clean (tr ++ tr') ↔ Clean tr ∧ Clean tr' :=
  List.forall_mem_append

variable {h h' : Host} {α : Type} {a : α}

theorem Listed.ok_of_clean {c : Cmd} {res : Except String α} (hl : Listed c a h tr res h')
    (hc : Clean tr) : res = .ok a := by
  obtain ⟨-, e, rfl, -, ⟨-, hres⟩ | ⟨hf, -⟩⟩ := hl
  · exact hres
  · exact absurd (hc e (.head _)) hf

theorem Listed.eq_of_ok {c : Cmd} {b : α} (hl : Listed c a h tr (.ok b) h') : b = a := by
  obtain ⟨-, e, -, -, ⟨-, hres⟩ | ⟨-, msg, hres⟩⟩ := hl
  · exact Except.ok.inj hres
  · cases hres

/-- One command: it took effect and returned `a`, or it failed and changed nothing. -/
def Done {α : Type} (h : Host) (a : α) (g : CmdChoice → Host) (tr : List HostEv)
    (r : Except String α) (h' : Host) : Prop :=
  ∃ e, tr = [e] ∧ ((e.choice.fail = none ∧ r = .ok a ∧ h' = (g e.choice).later e.choice) ∨
    (e.choice.fail ≠ none ∧ (∃ msg, r = .error msg) ∧ h' = h.later e.choice))

variable {g : CmdChoice → Host}

theorem wp_done {c : Cmd} {k : c.Reply → Tool α} (f : Except ExecError Unit → c.Reply)
    (heffect : ∀ ch, hostAnswer h c ch =
      (f (effect h ch (.ok (), g ch)).1, (effect h ch (.ok (), g ch)).2))
    (hok : k (f (.ok ())) = pure a) (herr : ∀ text, ∃ msg, k (f (.error ⟨255, text⟩)) = throw msg) :
    wp hostAct (perform c >>= k : Tool α).run h (Done h a g) := by
  refine wp_run_bind.2 (wp_perform.2 fun ch => ?_)
  cases hf : ch.fail with
  | none =>
    simp only [hostAct, heffect, effect, hf, hok]
    exact ⟨_, rfl, .inl ⟨hf, rfl, rfl⟩⟩
  | some text =>
    obtain ⟨msg, hk⟩ := herr text
    simp only [hostAct, heffect, effect, hf, hk]
    exact ⟨_, rfl, .inr ⟨by simp [hf], ⟨msg, rfl⟩, rfl⟩⟩

theorem Done.ok_of_clean {r : Except String α} (hd : Done h a g tr r h') (hc : Clean tr) :
    r = .ok a := by
  obtain ⟨e, rfl, ⟨-, hr, -⟩ | ⟨hf, -⟩⟩ := hd
  · exact hr
  · exact absurd (hc e (.head _)) hf

theorem Done.of_ok {b : α} (hd : Done h a g tr (.ok b) h') :
    b = a ∧ ∃ ch, h' = (g ch).later ch := by
  obtain ⟨e, -, ⟨-, hr, hh⟩ | ⟨-, ⟨msg, hr⟩, -⟩⟩ := hd
  · exact ⟨Except.ok.inj hr, _, hh⟩
  · cases hr

/-! ### The mount that serves a path -/

theorem mountOf_snoc (h : Host) (ms : List Mount) (m : Mount) (path : String) :
    Host.mountOf { h with mounts := ms ++ [m] } path =
      if Host.below m.target (h.real path) then
        match Host.mountOf { h with mounts := ms } path with
        | none => some m
        | some b => if b.target.length ≤ m.target.length then some m else some b
      else Host.mountOf { h with mounts := ms } path := by
  unfold Host.mountOf
  rw [List.foldl_append]
  rfl

theorem below_refl (path : String) : Host.below path path = true := by simp [Host.below]

variable {path : String}

/-- What lies above a path is not longer, and the path itself if it is as long. -/
theorem below_length {target : String} (h : Host.below target path = true)
    (habs : hasPrefix path "/" = true) : target.length ≤ path.length ∧
      (target.length = path.length → target = path) := by
  obtain ⟨rest, hpath⟩ : ∃ rest, path.toList = '/' :: rest := by
    have hpre := List.isPrefixOf_iff_prefix.1 habs
    obtain ⟨rest, hrest⟩ := hpre
    exact ⟨rest, hrest.symm⟩
  have hlen : path.length = rest.length + 1 := by
    rw [← String.length_toList, hpath, List.length_cons]
  simp only [Host.below, Bool.or_eq_true, decide_eq_true_eq] at h
  rcases h with (rfl | rfl) | h
  · exact ⟨Nat.le_refl _, fun _ => rfl⟩
  · have hone : ("/" : String).length = 1 := rfl
    refine ⟨by omega, fun heq => ?_⟩
    have hnil : rest = [] := List.eq_nil_of_length_eq_zero (by omega)
    rw [hnil] at hpath
    exact String.toList_inj.1 hpath.symm
  · have hpre := (List.isPrefixOf_iff_prefix.1 h).length_le
    rw [String.toList_append, List.length_append, String.length_toList, String.length_toList,
      String.length_toList] at hpre
    have hone : ("/" : String).length = 1 := rfl
    omega

variable {ms : List Mount}

theorem mountOf_below {m : Mount} (hm : Host.mountOf { h with mounts := ms } path = some m) :
    Host.below m.target (h.real path) = true := by
  induction ms using List.reverseRecOn with
  | nil => cases hm
  | append_singleton ms x ih =>
    rw [mountOf_snoc] at hm
    split at hm
    · next hx =>
      cases hb : Host.mountOf { h with mounts := ms } path with
      | none =>
        rw [hb] at hm
        cases hm
        exact hx
      | some b =>
        rw [hb] at hm
        dsimp only at hm
        split at hm
        · cases hm
          exact hx
        · cases hm
          exact ih hb
    · exact ih hm

variable {source : String}

theorem mountOf_mounted (habs : hasPrefix (h.real path) "/" = true) :
    Host.mountOf { h with mounts := ms ++ [⟨h.real path, source⟩] } path =
      some ⟨h.real path, source⟩ := by
  rw [mountOf_snoc, if_pos (below_refl _)]
  cases hb : Host.mountOf { h with mounts := ms } path with
  | none => rfl
  | some b => exact if_pos (below_length (mountOf_below hb) habs).1

theorem mountOf_target {m : Mount} (hm : m ∈ ms) (ht : m.target = h.real path)
    (habs : hasPrefix (h.real path) "/" = true) :
    ∃ b, Host.mountOf { h with mounts := ms } path = some b ∧ b.target = h.real path := by
  induction ms using List.reverseRecOn with
  | nil => cases hm
  | append_singleton ms x ih =>
    by_cases hx : x.target = h.real path
    · obtain ⟨t, s⟩ := x
      obtain rfl : t = h.real path := hx
      exact ⟨_, mountOf_mounted habs, rfl⟩
    · have hms : m ∈ ms := by
        rcases mem_snoc.1 hm with hm | rfl
        · exact hm
        · exact absurd ht hx
      obtain ⟨b, hb, hbt⟩ := ih hms
      refine ⟨b, ?_, hbt⟩
      rw [mountOf_snoc, hb]
      split
      · next hbelow =>
        obtain ⟨hle, heq⟩ := below_length hbelow habs
        refine if_neg fun hge => hx (heq ?_)
        rw [hbt] at hge
        omega
      · rfl

section

variable {h : Host} {target : String}

/-- What is mounted at its place is shown if it is spelled as `findmnt` prints it. -/
theorem showsMounted_of_mountsAt (habs : hasPrefix (h.real target) "/" = true)
    (hat : h.mountsAt target ≠ []) :
    h.showsMounted target = true ↔ trimSpace (h.real target) = target := by
  obtain ⟨m, hm⟩ := List.exists_mem_of_ne_nil _ hat
  obtain ⟨hmem, hplace⟩ := List.mem_filter.1 hm
  obtain ⟨b, hb, hbt⟩ := mountOf_target hmem (of_decide_eq_true hplace) habs
  have hof : h.mountOf target = some b := hb
  simp [Host.showsMounted, hof, hbt]

theorem Same.real (hs : Same h h') (path : String) : h'.real path = h.real path := by
  obtain ⟨t, rfl⟩ := hs
  rfl

theorem Same.showsMounted (hs : Same h h') (path : String) :
    h'.showsMounted path = h.showsMounted path := by
  obtain ⟨t, rfl⟩ := hs
  rfl

theorem Same.mountsAt (hs : Same h h') (path : String) : h'.mountsAt path = h.mountsAt path := by
  obtain ⟨t, rfl⟩ := hs
  rfl

theorem wp_isMounted (h : Host) (target : String) : wp hostAct (isMounted target).run h
    (Listed (.findmntTarget target) (h.showsMounted target) h) := by
  refine wp_reading id _ (fun _ => rfl) ?_ fun _ => ⟨_, rfl⟩
  rw [Host.showsMounted]
  cases h.mountOf target with
  | none => rfl
  | some m => rfl

/-! ### Mounting -/

/-- `source` came to be mounted at the target, unless something was shown there. -/
def Placed (h : Host) (source target : String) (h' : Host) : Prop :=
  if h.showsMounted target then Same h h'
  else ∃ s t, h.real s = h.real source ∧
    h' = { h with mounts := h.mounts ++ [⟨h.real target, s⟩], now := t }

theorem Placed.same {h0 h₁ h₂ h3 : Host} (h1 : Same h0 h₁) (hp : Placed h₁ source target h₂)
    (h2 : Same h₂ h3) : Placed h0 source target h3 := by
  obtain ⟨t, rfl⟩ := h1
  obtain ⟨t', rfl⟩ := h2
  unfold Placed at hp ⊢
  change if h0.showsMounted target then _ else _ at hp
  split
  · next hs =>
    rw [if_pos hs] at hp
    obtain ⟨t, rfl⟩ := hp
    exact ⟨t', rfl⟩
  · next hs =>
    rw [if_neg hs] at hp
    obtain ⟨s, t, hs, rfl⟩ := hp
    exact ⟨s, t', hs, rfl⟩

theorem real_sourceAs (h : Host) (device : String) (written : Option String) :
    h.real (h.sourceAs device written) = h.real device := by
  unfold Host.sourceAs
  cases written with
  | none => rfl
  | some s =>
    dsimp only
    split
    · next heq => exact heq
    · rfl

/-- What a mount call leaves: it placed its source or failed, and without a fault it did not
fail. -/
def Mounting (h : Host) (source target : String) (tr : List HostEv) (r : Except String Unit)
    (h' : Host) : Prop :=
  (r = .ok () → Placed h source target h') ∧ (Clean tr → r = .ok ())

theorem wp_mkdir (h : Host) (msg target : String) :
    wp hostAct (do outcome msg (← perform (Cmd.mkdir target)) : Tool Unit).run h
      (Done h () fun _ => h) :=
  wp_done id (fun _ => rfl) rfl fun _ => ⟨_, rfl⟩

/-- A program that mounts `source` at `target`, or fails. -/
def Mounts (x : Tool Unit) (source target : String) : Prop :=
  ∀ h, wp hostAct x.run h (Done h () fun ch =>
    { h with mounts := h.mounts ++ [⟨h.real target, h.sourceAs source ch.written⟩] })

theorem mounts_mount (msg fsType : String) (flags : List String) (device target : String) :
    Mounts (do outcome msg (← perform (Cmd.mount fsType flags device target))) device target :=
  fun _ => wp_done id (fun _ => rfl) rfl fun _ => ⟨_, rfl⟩

theorem mounts_bind (msg source target : String) :
    Mounts (do outcome msg (← perform (Cmd.bind source target))) source target :=
  fun _ => wp_done id (fun _ => rfl) rfl fun _ => ⟨_, rfl⟩

theorem wp_unlessMounted {x : Tool Unit} (hx : Mounts x source target) (h : Host) :
    wp hostAct (do if ← isMounted target then return () else x : Tool Unit).run h
      (Mounting h source target) := by
  refine wp_run_bind.2 (wp_mono (wp_isMounted h target) fun tr r h₁ hl => ?_)
  cases r with
  | error msg =>
    refine ⟨nofun, fun hc => ?_⟩
    cases hl.ok_of_clean hc
  | ok mounted =>
    obtain rfl := hl.eq_of_ok
    have hs : Same h h₁ := hl.1
    cases hm : h.showsMounted target with
    | true =>
      refine ⟨fun _ => ?_, fun _ => rfl⟩
      rw [Placed, if_pos hm]
      exact hs
    | false =>
      refine wp_mono (hx h₁) fun tr' r' h₂ hd =>
        ⟨fun hok => ?_, fun hc => hd.ok_of_clean (Clean.append.1 hc).2⟩
      obtain ⟨t, rfl⟩ := hs
      rw [hok] at hd
      obtain ⟨-, ch, rfl⟩ := hd.of_ok
      rw [Placed, if_neg (by simp [hm])]
      exact ⟨_, _, real_sourceAs h source ch.written, rfl⟩

theorem wp_mkdir_mounting {x : Tool Unit} {msg : String} (h : Host)
    (hx : ∀ h, wp hostAct x.run h (Mounting h source target)) :
    wp hostAct ((do outcome msg (← perform (Cmd.mkdir target)) : Tool Unit) >>= fun _ => x).run h
      (Mounting h source target) := by
  refine wp_run_bind.2 (wp_mono (wp_mkdir h msg target) fun tr r h₁ hd => ?_)
  cases r with
  | error msg =>
    refine ⟨nofun, fun hc => ?_⟩
    cases hd.ok_of_clean hc
  | ok u =>
    obtain ⟨-, ch, rfl⟩ := hd.of_ok
    refine wp_mono (hx _) fun tr' r' h₂ hp => ⟨fun hok => ?_, fun hc => hp.2 (Clean.append.1 hc).2⟩
    exact .same ⟨_, rfl⟩ (hp.1 hok) (.refl _)

theorem wp_mount (h : Host) (device target fsType : String) (flags : List String) :
    wp hostAct (mount device target fsType flags).run h (Mounting h device target) := by
  unfold mount
  rw [← bind_assoc]
  exact wp_mkdir_mounting h (wp_unlessMounted (mounts_mount _ _ _ _ _))

theorem wp_remountReadonly (h : Host) (target : String) (readonly : Bool) :
    wp hostAct (remountReadonly target readonly).run h fun tr r h' =>
      (r = .ok () → Same h h') ∧ (Clean tr → r = .ok ()) := by
  unfold remountReadonly
  cases readonly with
  | false => exact ⟨fun _ => .refl h, fun _ => rfl⟩
  | true =>
    have hd : wp hostAct (perform (Cmd.remountReadonly target) >>=
        outcome ("remounting " ++ target ++ " read-only") : Tool Unit).run h
        (Done h () fun _ => h) := wp_done id (fun _ => rfl) rfl fun _ => ⟨_, rfl⟩
    refine wp_mono hd fun tr r h' hd => ⟨fun hok => ?_, hd.ok_of_clean⟩
    rw [hok] at hd
    obtain ⟨-, ch, rfl⟩ := hd.of_ok
    exact ⟨_, rfl⟩

theorem wp_bindMount (h : Host) (source target : String) (isDir readonly : Bool) :
    wp hostAct (bindMount source target isDir readonly).run h (Mounting h source target) := by
  unfold bindMount
  rw [← bind_assoc]
  refine wp_mkdir_mounting h fun h₁ => ?_
  refine wp_run_bind.2 (wp_mono (wp_unlessMounted (mounts_bind _ _ _) h₁) fun tr r h₂ hp => ?_)
  cases r with
  | error msg =>
    refine ⟨nofun, fun hc => ?_⟩
    cases hp.2 hc
  | ok u =>
    refine wp_mono (wp_remountReadonly h₂ target readonly) fun tr' r' h3 hp' => ⟨fun hok => ?_, ?_⟩
    · exact .same (.refl _) (hp.1 rfl) (hp'.1 hok)
    · exact fun hc => hp'.2 (Clean.append.1 hc).2

/-! ### Unmounting -/

theorem filter_eraseP (p : α → Bool) (l : List α) : (l.eraseP p).filter p = (l.filter p).tail := by
  induction l with
  | nil => rfl
  | cons a l ih =>
    cases ha : p a with
    | true => simp [ha]
    | false => simp [ha, ih]

theorem mountsAt_unmountAt (h : Host) (target : String) (t : Int) :
    Host.mountsAt { h.unmountAt target with now := t } target = (h.mountsAt target).dropLast := by
  have hlist : ∀ p : Mount → Bool,
      ((h.mounts.reverse.eraseP p).reverse).filter p = (h.mounts.filter p).dropLast := by
    intro p
    rw [List.filter_reverse, filter_eraseP, List.filter_reverse, List.tail_reverse,
      List.reverse_reverse]
  exact hlist _

theorem any_target_iff (h : Host) (target : String) :
    h.mounts.any (·.target = h.real target) = true ↔ h.mountsAt target ≠ [] := by
  simp [Host.mountsAt]

theorem wp_umountOr_error {h : Host} (hm : h.showsMounted target = true) (e : ExecError) :
    wp hostAct (umountOr target (.error e)).run h fun _ r _ => r ≠ .ok () := by
  refine wp_run_bind.2 (wp_attempt.2 (wp_mono (wp_isMounted h target) fun tr r h₁ hl => ?_))
  cases r with
  | error msg =>
    refine wp_run_throw.2 ?_
    simp
  | ok again =>
    obtain rfl := hl.eq_of_ok
    rw [hm]
    refine wp_run_throw.2 ?_
    simp

theorem wp_umount {h : Host} (hm : h.showsMounted target = true) :
    wp hostAct (perform (Cmd.umount target) >>= umountOr target : Tool Unit).run h fun tr r h' =>
      (r = .ok () → h.mountsAt target ≠ [] ∧ ∃ t, h' = { h.unmountAt target with now := t }) ∧
      (Clean tr → h.mountsAt target ≠ [] → r = .ok ()) := by
  refine wp_run_bind.2 (wp_perform.2 fun ch => ?_)
  have hany := any_target_iff h target
  by_cases hat : h.mountsAt target ≠ []
  · cases hf : ch.fail with
    | none =>
      have hact : hostAct h (.umount target) ch = (.ok (), (h.unmountAt target).later ch) := by
        simp [hostAct, hostAnswer, effect, hf, hany.2 hat, Host.later]
      rw [hact]
      exact ⟨fun _ => ⟨hat, _, rfl⟩, fun _ _ => rfl⟩
    | some text =>
      have hact : hostAct h (.umount target) ch = (.error ⟨255, text⟩, h.later ch) := by
        simp [hostAct, hostAnswer, effect, hf, hany.2 hat, Host.later]
      rw [hact]
      refine wp_mono (wp_umountOr_error (by exact hm) _) fun tr r h' hne => ?_
      refine ⟨fun hok => absurd hok hne, fun hc => ?_⟩
      have := hc _ (.head _)
      simp [hf] at this
  · have hact : hostAct h (.umount target) ch = (.error ⟨32, "not mounted"⟩, h.later ch) := by
      have hnone := mt hany.1 hat
      simp only [hostAct, hostAnswer]
      rw [if_neg hnone]
      rfl
    rw [hact]
    refine wp_mono (wp_umountOr_error (by exact hm) _) fun tr r h' hne => ?_
    exact ⟨fun hok => absurd hok hne, fun _ h => absurd h hat⟩

/-- An unmount that succeeds found nothing shown, or it took the topmost mount away. Without a fault
it fails only where something is shown and nothing mounted. -/
theorem wp_unmount (h : Host) (target : String) :
    wp hostAct (unmount target).run h fun tr r h' =>
      (r = .ok () → (h.showsMounted target = false ∧ Same h h') ∨
        h.mountsAt target ≠ [] ∧ ∃ t, h' = { h.unmountAt target with now := t }) ∧
      (Clean tr → h.mountsAt target ≠ [] → r = .ok ()) := by
  refine wp_run_bind.2 (wp_mono (wp_isMounted h target) fun tr r h₁ hl => ?_)
  cases r with
  | error msg =>
    refine ⟨nofun, fun hc => ?_⟩
    cases hl.ok_of_clean hc
  | ok mounted =>
    obtain rfl := hl.eq_of_ok
    have hs : Same h h₁ := hl.1
    cases hm : h.showsMounted target with
    | false => exact ⟨fun _ => .inl ⟨rfl, hs⟩, fun _ _ => rfl⟩
    | true =>
      refine wp_mono (wp_umount (hs.showsMounted target ▸ hm)) fun tr' r' h₂ hp => ?_
      obtain ⟨t, rfl⟩ := hs
      exact ⟨fun hok => .inr (hp.1 hok), fun hc hat => hp.2 (Clean.append.1 hc).2 hat⟩

end

/-! ### Mounting and unmounting cancel -/

inductive MountCall where
  | mount (device fsType : String) (flags : List String)
  | bind (source : String) (isDir readonly : Bool)

def MountCall.program (target : String) : MountCall → Tool Unit
  | .mount device fsType flags => Node.mount device target fsType flags
  | .bind source isDir readonly => bindMount source target isDir readonly

def mountEach (target : String) : List MountCall → Tool Unit
  | [] => return ()
  | c :: cs => do
    c.program target
    mountEach target cs

theorem MountCall.wp_program (c : MountCall) (h : Host) (target : String) :
    ∃ source, wp hostAct (c.program target).run h (Mounting h source target) := by
  cases c with
  | mount device fsType flags => exact ⟨device, wp_mount h device target fsType flags⟩
  | bind source isDir readonly => exact ⟨source, wp_bindMount h source target isDir readonly⟩

section

variable {target : String}

inductive PlacedEach (target : String) : Nat → Host → Host → Prop where
  | zero (h : Host) : PlacedEach target 0 h h
  | succ {n : Nat} {source : String} {h h₁ h₂ : Host} : Placed h source target h₁ →
      PlacedEach target n h₁ h₂ → PlacedEach target (n + 1) h h₂

theorem wp_mountEach (h : Host) (calls : List MountCall) :
    wp hostAct (mountEach target calls).run h fun tr r h' =>
      (r = .ok () → PlacedEach target calls.length h h') ∧ (Clean tr → r = .ok ()) := by
  induction calls generalizing h with
  | nil => exact ⟨fun _ => .zero h, fun _ => rfl⟩
  | cons c cs ih =>
    obtain ⟨source, hc⟩ := c.wp_program h target
    refine wp_run_bind.2 (wp_mono hc fun tr r h₁ hp => ?_)
    cases r with
    | error msg =>
      refine ⟨nofun, fun hclean => ?_⟩
      cases hp.2 hclean
    | ok u =>
      refine wp_mono (ih h₁) fun tr' r' h₂ hp' => ⟨fun hok => ?_, fun hclean => ?_⟩
      · exact .succ (hp.1 rfl) (hp'.1 hok)
      · exact hp'.2 (Clean.append.1 hclean).2

theorem Placed.mountsAt (hp : Placed h source target h') :
    h'.real target = h.real target ∧ (h'.mountsAt target).length =
      (h.mountsAt target).length + if h.showsMounted target then 0 else 1 := by
  unfold Placed at hp
  split at hp
  · next hs =>
    rw [if_pos hs, hp.mountsAt]
    exact ⟨hp.real target, rfl⟩
  · next hs =>
    rw [if_neg hs]
    obtain ⟨s, t, -, rfl⟩ := hp
    have hlist : ∀ (p : Mount → Bool) (m : Mount), p m = true →
        ((h.mounts ++ [m]).filter p).length = (h.mounts.filter p).length + 1 := by
      intro p m hp
      simp [hp]
    exact ⟨rfl, hlist (fun m => m.target = h.real target) _ (decide_eq_true rfl)⟩

theorem PlacedEach.same {n : Nat} (hp : PlacedEach target n h h')
    (hs : h.showsMounted target = true) : Same h h' := by
  induction hp with
  | zero h => exact .refl h
  | succ hp _ ih =>
    rw [Placed, if_pos hs] at hp
    exact hp.trans (ih (hp.showsMounted target ▸ hs))

theorem exists_clean (x : Tool Unit) (h : Host) :
    ∃ tr r h', Runs hostAct x.run h tr r h' ∧ Clean tr := by
  obtain ⟨tr, hd, hrun⟩ := runs_eval hostAct {} x.run h
  refine ⟨tr, _, _, hrun, fun e he => ?_⟩
  rw [hd e he]

theorem PlacedEach.unmounted {n : Nat} {h₁ : Host} (habs : hasPrefix (h.real target) "/" = true)
    (hp : PlacedEach target (n + 1) h h₁) (hcond : (trimSpace (h.real target) = target ∧ (h.mountsAt
      target).length ≤ 1) ∨ h.mountsAt target = [] ∧ h.showsMounted target = true) :
    (h₁.mountsAt target).length ≤ (h.mountsAt target).length + 1 ∧
    ∀ (tr : List HostEv) (h₂ : Host), Runs hostAct (unmount target).run h₁ tr (.ok ()) h₂ →
      h₂.mountsAt target = [] := by
  -- after the first call the target is shown, with at most one mount there
  have hshown : h₁.showsMounted target = true ∧ (h₁.mountsAt target).length ≤ 1 ∧
      (h₁.mountsAt target).length ≤ (h.mountsAt target).length + 1 := by
    cases hs : h.showsMounted target with
    | true =>
      have hsame := hp.same hs
      rw [hsame.showsMounted, hsame.mountsAt]
      refine ⟨hs, ?_, Nat.le_succ _⟩
      rcases hcond with ⟨-, hle⟩ | ⟨hnil, -⟩
      · exact hle
      · simp [hnil]
    | false =>
      obtain ⟨htrim, -⟩ : trimSpace (h.real target) = target ∧ _ :=
        hcond.resolve_right fun hright => by simp [hs] at hright
      have hnil : h.mountsAt target = [] := by
        by_contra hat
        rw [(showsMounted_of_mountsAt habs hat).2 htrim] at hs
        cases hs
      cases hp with
      | succ hfirst hrest =>
        obtain ⟨hreal, hlen⟩ := hfirst.mountsAt
        rw [hs, hnil] at hlen
        have hone : (Host.mountsAt _ target).length = 1 := hlen
        have hs2 : Host.showsMounted _ target = true :=
          (showsMounted_of_mountsAt (by rw [hreal]; exact habs)
            (fun h => by rw [h] at hone; cases hone)).2 (by rw [hreal]; exact htrim)
        have hsame := hrest.same hs2
        rw [hsame.showsMounted, hsame.mountsAt, hnil]
        exact ⟨hs2, by omega, by simp [hone]⟩
  obtain ⟨hshow, hle, hgrow⟩ := hshown
  refine ⟨hgrow, fun tr h₂ hrun => ?_⟩
  rcases (wp_iff.1 (wp_unmount h₁ target) _ _ _ hrun).1 rfl with ⟨hno, -⟩ | ⟨-, t, rfl⟩
  · rw [hshow] at hno
    cases hno
  · rw [mountsAt_unmountAt]
    refine List.eq_nil_of_length_eq_zero ?_
    rw [List.length_dropLast]
    omega

/-- Calls that mount at a target add at most one mount there, and an unmount that succeeds after them
leaves none, iff the target is spelled as `findmnt` prints the place it denotes and at most one mount
is there to begin with. The one other case is that `findmnt` shows the target although nothing is
mounted at its place: nothing is then mounted nor unmounted. -/
theorem mount_unmount_iff (h : Host) (target : String)
    (habs : hasPrefix (h.real target) "/" = true) :
    (∀ (calls : List MountCall) (tr : List HostEv) (h₁ : Host), calls ≠ [] →
      Runs hostAct (mountEach target calls).run h tr (.ok ()) h₁ →
      (h₁.mountsAt target).length ≤ (h.mountsAt target).length + 1 ∧
      ∀ (tr' : List HostEv) (h₂ : Host), Runs hostAct (unmount target).run h₁ tr' (.ok ()) h₂ →
        h₂.mountsAt target = []) ↔
      (trimSpace (h.real target) = target ∧ (h.mountsAt target).length ≤ 1) ∨
        h.mountsAt target = [] ∧ h.showsMounted target = true := by
  constructor
  · intro hall
    have hruns : ∀ calls, ∃ tr h₁, Runs hostAct (mountEach target calls).run h tr (.ok ()) h₁ := by
      intro calls
      obtain ⟨tr, r, h₁, hrun, hclean⟩ := exists_clean (mountEach target calls) h
      rw [(wp_iff.1 (wp_mountEach h calls) _ _ _ hrun).2 hclean] at hrun
      exact ⟨tr, h₁, hrun⟩
    cases hs : h.showsMounted target with
    | true =>
      obtain ⟨tr, h₁, hrun⟩ := hruns [.mount "" "" []]
      have hsame := ((wp_iff.1 (wp_mountEach h _) _ _ _ hrun).1 rfl).same hs
      by_cases hat : h.mountsAt target = []
      · exact .inr ⟨hat, rfl⟩
      · refine .inl ⟨(showsMounted_of_mountsAt habs hat).1 hs, ?_⟩
        obtain ⟨tr', r, h₂, hun, hclean⟩ := exists_clean (unmount target) h₁
        have hat1 : h₁.mountsAt target ≠ [] := hsame.mountsAt target ▸ hat
        have hspec := wp_iff.1 (wp_unmount h₁ target) _ _ _ hun
        rw [hspec.2 hclean hat1] at hun
        have hgone := (hall _ tr h₁ (by simp) hrun).2 tr' h₂ hun
        rcases hspec.1 (hspec.2 hclean hat1) with ⟨hno, -⟩ | ⟨-, t, rfl⟩
        · rw [hsame.showsMounted, hs] at hno
          cases hno
        · rw [mountsAt_unmountAt, hsame.mountsAt] at hgone
          have hlen := congrArg List.length hgone
          rw [List.length_dropLast, List.length_nil] at hlen
          omega
    | false =>
      by_cases htrim : trimSpace (h.real target) = target
      · refine .inl ⟨htrim, ?_⟩
        by_contra hlt
        have hat : h.mountsAt target ≠ [] := fun hnil => hlt (by simp [hnil])
        rw [(showsMounted_of_mountsAt habs hat).2 htrim] at hs
        cases hs
      · -- neither of two calls sees what the one before it mounted
        exfalso
        obtain ⟨tr, h₁, hrun⟩ := hruns [.mount "" "" [], .mount "" "" []]
        have hgrow := (hall _ tr h₁ (by simp) hrun).1
        have hp := (wp_iff.1 (wp_mountEach h _) _ _ _ hrun).1 rfl
        cases hp with
        | succ hfirst hrest =>
          cases hrest with
          | succ hsecond hrest =>
            cases hrest
            obtain ⟨hreal, hlen⟩ := hfirst.mountsAt
            obtain ⟨-, hlen2⟩ := hsecond.mountsAt
            rw [hs, if_neg (by simp)] at hlen
            have hno : ¬ Host.showsMounted _ target = true := fun hshow =>
              htrim (hreal ▸ (showsMounted_of_mountsAt (by rw [hreal]; exact habs)
                (fun h => by rw [h] at hlen; cases hlen)).1 hshow)
            rw [if_neg hno] at hlen2
            omega
  · intro hcond calls tr h₁ hne hrun
    have hp := (wp_iff.1 (wp_mountEach h calls) _ _ _ hrun).1 rfl
    cases calls with
    | nil => exact absurd rfl hne
    | cons c cs => exact hp.unmounted habs hcond

theorem mount_unmount_stage : hasPrefix ((Host.of [] [] [] 0).real "/stage") "/" = true ∧
    ∀ (calls : List MountCall) (tr : List HostEv) (h₁ : Host), calls ≠ [] →
      Runs hostAct (mountEach "/stage" calls).run (Host.of [] [] [] 0) tr (.ok ()) h₁ →
      (h₁.mountsAt "/stage").length ≤ ((Host.of [] [] [] 0).mountsAt "/stage").length + 1 ∧
      ∀ (tr' : List HostEv) (h₂ : Host), Runs hostAct (unmount "/stage").run h₁ tr' (.ok ()) h₂ →
        h₂.mountsAt "/stage" = [] :=
  ⟨by decide, (mount_unmount_iff _ _ (by decide)).2 (.inl ⟨by decide, by decide⟩)⟩

/-- With a slash at its end the target is never seen as mounted: the unmount leaves the mount. -/
theorem mount_stays_behind : ¬ ∀ (h : Host) (target : String),
    hasPrefix (h.real target) "/" = true →
    ∀ (calls : List MountCall) (tr : List HostEv) (h₁ : Host), calls ≠ [] →
      Runs hostAct (mountEach target calls).run h tr (.ok ()) h₁ →
      (h₁.mountsAt target).length ≤ (h.mountsAt target).length + 1 ∧
      ∀ (tr' : List HostEv) (h₂ : Host), Runs hostAct (unmount target).run h₁ tr' (.ok ()) h₂ →
        h₂.mountsAt target = [] := by
  intro hall
  obtain ⟨tr, u, h₂, hrun, hleft⟩ := runs_ok_of_exec hostAct
    (mountEach "/stage/" [.mount "/dev/sdb" "ext4" []] >>= fun _ => unmount "/stage/").run
    { Host.of [] [] [] 0 with link := fun p => if p = "/stage/" then some "/stage" else none }
    [{}, {}, {}, {}] (fun x => x.2.2.mountsAt "/stage/" ≠ []) (by decide)
  obtain ⟨tr1, u, h₁, tr2, -, hmount, hunmount⟩ := runs_run_bind_ok.1 hrun
  exact hleft ((hall _ _ (by decide) _ _ _ (by simp) hmount).2 _ _ hunmount)

end

end NomadCsi.Node
