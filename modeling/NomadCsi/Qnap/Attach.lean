import NomadCsi.Node.Logic
import NomadCsi.Qnap.Node

/-!
# A failed attach and the sessions that were there

`attach` logs in to every portal that answers discovery and, when the device does not
appear, logs out of all of them again. A login to a session that is there already counts
as one of its own, so the cleanup takes that session too: `attach_failed_iff`.
-/

namespace NomadCsi.Qnap

open Lib Lib.Go Driver Node

def Discovered (tr : List HostEv) (p : String) : Prop :=
  ∃ e ∈ tr, e.call = .discover p ∧ e.choice.fail = none

def LogoutsOk (tr : List HostEv) : Prop :=
  ∀ e ∈ tr, ∀ p iqn, e.call = .logout p iqn → e.choice.fail = none

/-- The same sessions, reached under the same names. -/
structure Kept (h h' : Host) : Prop where
  logins : h'.logins = h.logins
  address : h'.address = h.address

def NeutralCmd (c : Cmd) : Prop :=
  (∀ p iqn, c ≠ .login p iqn) ∧ (∀ p iqn, c ≠ .logout p iqn) ∧ ∀ p, c ≠ .discover p

theorem neutral_of_waits {c : Cmd} (hc : c.waits = true) : NeutralCmd c := by
  refine ⟨fun p iqn h => ?_, fun p iqn h => ?_, fun p h => ?_⟩
  all_goals
    rw [h] at hc
    cases hc

variable {tr tr' : List HostEv}

theorem Discovered.append {p : String} :
    Discovered (tr ++ tr') p ↔ Discovered tr p ∨ Discovered tr' p := by
  unfold Discovered
  constructor
  · rintro ⟨e, he, hc⟩
    rcases List.mem_append.1 he with he | he
    · exact .inl ⟨e, he, hc⟩
    · exact .inr ⟨e, he, hc⟩
  · rintro (⟨e, he, hc⟩ | ⟨e, he, hc⟩)
    · exact ⟨e, List.mem_append_left _ he, hc⟩
    · exact ⟨e, List.mem_append_right _ he, hc⟩

theorem LogoutsOk.append (h : LogoutsOk (tr ++ tr')) : LogoutsOk tr ∧ LogoutsOk tr' :=
  ⟨fun e he => h e (List.mem_append_left _ he), fun e he => h e (List.mem_append_right _ he)⟩

namespace Kept

variable {h h' h'' : Host}

theorem refl (h : Host) : Kept h h := ⟨rfl, rfl⟩

theorem trans (h1 : Kept h h') (h2 : Kept h' h'') : Kept h h'' :=
  ⟨h2.logins.trans h1.logins, h2.address.trans h1.address⟩

theorem hasSession (hk : Kept h h') (a i : String) : h'.HasSession a i ↔ h.HasSession a i := by
  unfold Host.HasSession
  rw [hk.logins]

theorem loggedIn (hk : Kept h h') (p iqn : String) : h'.LoggedIn p iqn ↔ h.LoggedIn p iqn := by
  unfold Host.LoggedIn
  rw [hk.logins, hk.address]

theorem of_runs {α : Type} {x : Prog Cmd Cmd.Reply α} {a : α} (hr : Runs hostAct x h tr a h')
    (hx : x.Calls NeutralCmd) : Kept h h' := by
  have hstep : ∀ s c ch, NeutralCmd c → Kept h s → Kept h (hostAct s c ch).2 :=
    fun s c ch hc hk => hk.trans ⟨hostAct_logins s ch hc.1 hc.2.1, hostAct_address s c ch⟩
  exact (hr.invariant hstep hx (refl h)).2

end Kept

variable {h h' : Host}

theorem not_discovered_of_calls {α : Type} {x : Prog Cmd Cmd.Reply α} {a : α}
    (hr : Runs hostAct x h tr a h') (hx : x.Calls fun c => ∀ p, c ≠ .discover p) (p : String) :
    ¬ Discovered tr p := by
  rintro ⟨e, he, hc, -⟩
  exact hr.calls hx e he p hc

/-! ### Logging in -/

/-- Logging in to `iqn` over `ps` brought up `active`. -/
structure LoggedInto (h : Host) (iqn : String) (tr : List HostEv) (active : List String)
    (h' : Host) : Prop where
  address : h'.address = h.address
  sessions : ∀ a i, h'.HasSession a i ↔
    h.HasSession a i ∨ i = iqn ∧ ∃ p ∈ active, a = h.address p
  discovered : ∀ p ∈ active, Discovered tr p
  found : ∀ p, Discovered tr p → h.LoggedIn p iqn → p ∈ active

theorem wp_loginPortal (h : Host) (p iqn : String) :
    wp hostAct (loginPortal p iqn).run h fun tr r h' => ∃ up, r = .ok up ∧
      LoggedInto h iqn tr (if up then [p] else []) h' ∧ ∀ q, Discovered tr q → q = p := by
  refine wp_run_bind.2 (wp_attempt.2 (wp_mono (wp_discover h p) fun tr1 r1 h1 hp => ?_))
  obtain ⟨⟨t, rfl⟩, e, rfl, hc, hres⟩ := hp
  have honly : ∀ {tr : List HostEv} {q : String}, (∀ e ∈ tr, e.call = .login p iqn) →
      Discovered ([e] ++ tr) q → q = p := by
    rintro tr q hlogin ⟨d, hd, hdc, -⟩
    rcases List.mem_append.1 hd with hd | hd
    · rw [List.mem_singleton.1 hd, hc] at hdc
      injection hdc with hdc
      exact hdc.symm
    · rw [hlogin d hd] at hdc
      cases hdc
  rcases hres with ⟨hf, rfl⟩ | ⟨hf, msg, rfl⟩
  · refine wp_run_bind.2 (wp_attempt.2 (wp_mono (wp_login _ p iqn) fun tr2 r2 h2 hp => ?_))
    obtain ⟨hcalls, haddr, hup, hsess⟩ := hp
    have hdisc : Discovered ([e] ++ tr2) p := ⟨e, by simp, hc, hf⟩
    cases r2 with
    | ok _ =>
      refine ⟨true, rfl, ⟨haddr, ?_, ?_, ?_⟩, ?_⟩
      · intro a i
        have hiff : h2.HasSession a i ↔ h.HasSession a i ∨ true = true ∧ a = h.address p ∧ i = iqn :=
          hsess a i
        simpa [and_comm] using hiff
      · intro q hq
        rw [List.append_nil, List.mem_singleton.1 hq]
        exact hdisc
      · intro q hq _
        rw [List.append_nil] at hq
        exact List.mem_singleton.2 (honly hcalls hq)
      · intro q hq
        rw [List.append_nil] at hq
        exact honly hcalls hq
    | error msg =>
      refine ⟨false, rfl, ⟨haddr, ?_, by simp, ?_⟩, ?_⟩
      · intro a i
        have hiff : h2.HasSession a i ↔ h.HasSession a i ∨ false = true ∧ a = h.address p ∧ i = iqn :=
          hsess a i
        simpa using hiff
      · intro q hq hl
        rw [List.append_nil] at hq
        obtain rfl := honly hcalls hq
        cases hup hl
      · intro q hq
        rw [List.append_nil] at hq
        exact honly hcalls hq
  · have hnone : ∀ q, ¬ Discovered ([e] ++ []) q := by
      rintro q ⟨d, hd, -, hdf⟩
      rw [List.append_nil, List.mem_singleton] at hd
      rw [hd] at hdf
      exact hf hdf
    refine ⟨false, rfl, ⟨rfl, fun a i => ?_, by simp, fun q hq => absurd hq (hnone q)⟩,
      fun q hq => absurd hq (hnone q)⟩
    simp only [Bool.false_eq_true, if_false, List.not_mem_nil, false_and, exists_false, and_false,
      or_false]
    exact Iff.rfl

variable {iqn : String}

theorem LoggedInto.append {h'' : Host} {active active' : List String}
    (h1 : LoggedInto h iqn tr active h') (h2 : LoggedInto h' iqn tr' active' h'') :
    LoggedInto h iqn (tr ++ tr') (active ++ active') h'' where
  address := h2.address.trans h1.address
  sessions a i := by
    rw [h2.sessions, h1.sessions, h1.address]
    simp only [List.mem_append]
    grind
  discovered p hp := by
    rcases List.mem_append.1 hp with hp | hp
    · exact Discovered.append.2 (.inl (h1.discovered p hp))
    · exact Discovered.append.2 (.inr (h2.discovered p hp))
  found p hp hl := by
    rcases Discovered.append.1 hp with hp | hp
    · exact List.mem_append_left _ (h1.found p hp hl)
    · refine List.mem_append_right _ (h2.found p hp ?_)
      have hs : h'.HasSession (h.address p) iqn := (h1.sessions _ _).2 (.inl hl)
      rw [← h1.address] at hs
      exact hs

theorem wp_loginEach (h : Host) (iqn : String) (ps : List String) :
    wp hostAct (loginEach iqn ps).run h fun tr r h' => ∃ active, r = .ok active ∧
      LoggedInto h iqn tr active h' ∧ ∀ p, Discovered tr p → p ∈ ps := by
  induction ps generalizing h with
  | nil =>
    have hnone : ∀ p, ¬ Discovered [] p := fun p ⟨e, he, _⟩ => by cases he
    refine ⟨[], rfl, ⟨rfl, fun a i => by simp, by simp, fun p hp => absurd hp (hnone p)⟩,
      fun p hp => absurd hp (hnone p)⟩
  | cons p ps ih =>
    refine wp_run_bind.2 (wp_mono (wp_loginPortal h p iqn) fun tr1 r1 h1 hp => ?_)
    obtain ⟨up, rfl, hinto, honly⟩ := hp
    refine wp_run_bind.2 (wp_mono (ih h1) fun tr2 r2 h2 hp => ?_)
    obtain ⟨active, rfl, hrest, hmem⟩ := hp
    refine ⟨if up then p :: active else active, rfl, ?_, fun q hq => ?_⟩
    · have happ := hinto.append hrest
      rw [List.append_nil]
      cases up with
      | true | false => exact happ
    · rw [List.append_nil, Discovered.append] at hq
      rcases hq with hq | hq
      · exact honly q hq ▸ .head _
      · exact .tail _ (hmem q hq)

/-! ### Waiting and cleaning up -/

attribute [local irreducible] contextLUN recoverID recoverPortals recoverLUN in
theorem waits_resolveAttachIdentity (n : NodePlugin) (volumeID : String) (vctx : StrMap) :
    (resolveAttachIdentity n volumeID vctx).run.Calls (·.waits = true) := by
  have hiqn : ∀ eid iqn, (recoverIQN n volumeID eid iqn).run.Calls (·.waits = true) := by
    intro eid iqn
    unfold recoverIQN
    split
    · trivial
    · split
      · trivial
      · refine calls_run_bind (calls_perform rfl) fun reply => ?_
        cases reply with
        | some | none => trivial
  unfold resolveAttachIdentity
  dsimp only
  split
  · exact calls_run_bind trivial fun _ => trivial
  · exact calls_run_bind trivial fun eid => calls_run_bind (hiqn _ _) fun iqn =>
      calls_run_bind trivial fun portals => calls_run_bind trivial fun lun => trivial

theorem waits_waitForMapWWID (raw : String) (k : Nat) :
    (waitForMapWWID raw k).run.Calls (·.waits = true) := by
  have hmap : (mapWWID raw).run.Calls (·.waits = true) :=
    (calls_mapWWID raw).mono fun _ hc => hc ▸ rfl
  induction k with
  | zero =>
    refine calls_run_bind hmap fun wwid => ?_
    split <;> trivial
  | succ k ih =>
    refine calls_run_bind hmap fun wwid => ?_
    split
    · trivial
    · refine calls_run_bind (calls_perform rfl) fun done => ?_
      split
      · trivial
      · exact ih

theorem waits_attachDevice (n : NodePlugin) (iqn : String) (lun : Int) :
    (attachDevice n iqn lun).run.Calls (·.waits = true) := by
  refine calls_run_bind (calls_perform rfl) fun reply => ?_
  cases reply with
  | error e => trivial
  | ok raw =>
    change (mapDevice n raw).run.Calls _
    unfold mapDevice
    split
    · refine calls_run_bind (calls_onError (waits_waitForMapWWID raw n.polls)) fun wwid => ?_
      refine calls_run_bind (calls_perform rfl) fun reply => ?_
      cases reply with
      | ok | error => trivial
    · trivial

theorem calls_resolveAttachIdentity (n : NodePlugin) (volumeID : String) (vctx : StrMap) :
    (resolveAttachIdentity n volumeID vctx).run.Calls NeutralCmd :=
  (waits_resolveAttachIdentity n volumeID vctx).mono fun _ => neutral_of_waits

theorem calls_attachDevice (n : NodePlugin) (iqn : String) (lun : Int) :
    (attachDevice n iqn lun).run.Calls NeutralCmd :=
  (waits_attachDevice n iqn lun).mono fun _ => neutral_of_waits

theorem calls_flushMap (n : NodePlugin) (wwid : String) :
    (flushMap n wwid).run.Calls (· = .flush wwid) := by
  unfold flushMap
  split
  · exact calls_run_bind (calls_attempt (calls_flush wwid)) fun _ => trivial
  · trivial

theorem calls_logoutEach (iqn : String) (ps : List String) :
    (logoutEach iqn ps).run.Calls fun c => ∃ p, c = .logout p iqn := by
  induction ps with
  | nil => trivial
  | cons p ps ih =>
    exact calls_run_bind (calls_attempt ((calls_logout p iqn).mono fun _ h => ⟨p, h⟩)) fun _ => ih

theorem wp_flushMap (n : NodePlugin) (wwid : String) (h : Host) :
    wp hostAct (flushMap n wwid).run h fun _ r h' => r = .ok () ∧ Kept h h' := by
  unfold flushMap
  split
  · refine wp_run_bind.2 (wp_attempt.2 (wp_run_bind.2 (wp_perform.2 fun ch => ?_)))
    have hk : Kept h (hostAct h (.flush wwid) ch).2 :=
      ⟨hostAct_logins h ch (by simp) (by simp), hostAct_address h _ ch⟩
    cases (hostAct h (.flush wwid) ch).1 with
    | ok | error => exact ⟨rfl, hk⟩
  · exact ⟨rfl, .refl h⟩

theorem wp_logoutEach (h : Host) (iqn : String) (ps : List String) :
    wp hostAct (logoutEach iqn ps).run h fun tr _ h' => LogoutsOk tr →
      ∀ a i, h'.HasSession a i ↔ h.HasSession a i ∧ ¬ (i = iqn ∧ ∃ p ∈ ps, a = h.address p) := by
  induction ps generalizing h with
  | nil =>
    intro _ a i
    simp
  | cons p ps ih =>
    refine wp_run_bind.2 (wp_attempt.2 (wp_mono (wp_logout h p iqn) fun tr1 r1 h1 hp => ?_))
    obtain ⟨hcalls, haddr, hsess⟩ := hp
    refine wp_mono (ih h1) fun tr2 _ h2 hrest hok a i => ?_
    obtain ⟨hok1, hok2⟩ := hok.append
    have hfirst := hsess (fun e he => hok1 e he p iqn (hcalls e he)) a i
    rw [hrest hok2 a i, hfirst, haddr]
    simp only [List.mem_cons, exists_eq_or_imp]
    grind

/-- A failed attach over portals that are up takes the sessions at all of them away. -/
theorem wp_attachOver (n : NodePlugin) (h : Host) (active : List String) (iqn : String)
    (lun : Int) : wp hostAct (attachOver n active iqn lun).run h fun tr r h' =>
      ∀ err, r = .error err → LogoutsOk tr → ∀ a i, h'.HasSession a i ↔
        h.HasSession a i ∧ ¬ (i = iqn ∧ ∃ p ∈ active, a = h.address p) := by
  refine wp_run_bind.2 (wp_attempt.2 (wp_iff.2 fun tr1 r1 h1 hrun => ?_))
  have hk := Kept.of_runs hrun (calls_attachDevice n iqn lun)
  rcases r1 with ⟨wwid, e⟩ | ⟨dev, wwid⟩
  · have hclean : wp hostAct (cleanupAttach n active iqn wwid).run h1 fun tr _ h' => LogoutsOk tr →
        ∀ a i, h'.HasSession a i ↔
          h.HasSession a i ∧ ¬ (i = iqn ∧ ∃ p ∈ active, a = h.address p) := by
      refine wp_run_bind.2 (wp_mono (wp_flushMap n wwid h1) fun tr2 r2 h2 hp => ?_)
      obtain ⟨rfl, hk2⟩ := hp
      refine wp_mono (wp_logoutEach h2 iqn active) fun tr3 _ h3 hp hok a i => ?_
      rw [hp hok.append.2 a i, (hk.trans hk2).hasSession, (hk.trans hk2).address]
    refine wp_run_bind.2 (wp_mono hclean fun tr2 r2 h2 hp => ?_)
    cases r2 with
    | ok _ =>
      intro err _ hok
      rw [List.append_nil] at hok
      exact hp hok.append.2
    | error e' => exact fun err _ hok => hp hok.append.2
  · intro err herr
    cases herr

/-! ### The sessions after a failed attach -/

theorem calls_attachOver (n : NodePlugin) (active : List String) (iqn : String) (lun : Int) :
    (attachOver n active iqn lun).run.Calls
      fun c => (∀ p, c ≠ .discover p) ∧ ∀ p i, c ≠ .login p i := by
  refine calls_run_bind (calls_attempt ((calls_attachDevice n iqn lun).mono
    fun c hc => ⟨hc.2.2, hc.1⟩)) ?_
  rintro (⟨wwid, e⟩ | ⟨dev, wwid⟩)
  · refine calls_run_bind (calls_run_bind ((calls_flushMap n wwid).mono ?_) fun _ =>
      (calls_logoutEach iqn active).mono ?_) fun _ => trivial
    · rintro c rfl
      simp
    · rintro c ⟨p, rfl⟩
      simp
  · trivial

/-- The sessions after logging in and failing are those before iff no portal that answered
discovery had one to this target. -/
theorem sessions_iff_of_loggedInto {h1 h2 : Host} {active : List String}
    (hinto : LoggedInto h iqn tr active h1) (hout : ∀ a i, h2.HasSession a i ↔ h1.HasSession a i ∧ ¬
      (i = iqn ∧ ∃ p ∈ active, a = h1.address p)) : (∀ a i, h2.HasSession a i ↔ h.HasSession a i) ↔
      ∀ p, Discovered tr p → ¬ h.LoggedIn p iqn := by
  rw [hinto.address] at hout
  constructor
  · intro hsame p hp hl
    have hs : h2.HasSession (h.address p) iqn := (hsame _ _).2 hl
    exact ((hout _ _).1 hs).2 ⟨rfl, p, hinto.found p hp hl, rfl⟩
  · intro hnot a i
    rw [hout, hinto.sessions]
    constructor
    · rintro ⟨hs | hnew, hno⟩
      · exact hs
      · exact absurd hnew hno
    · intro hs
      refine ⟨.inl hs, ?_⟩
      rintro ⟨rfl, p, hp, rfl⟩
      exact hnot p (hinto.discovered p hp) hs

theorem attach_portals_failed {n : NodePlugin} {portals : List String} {lun : Int} {err : Error}
      (hrun : Runs hostAct (loginPortals portals iqn >>= fun active => attachOver n active iqn
      lun).run h tr (.error err) h') (hok : LogoutsOk tr) :
    ((∀ a i, h'.HasSession a i ↔ h.HasSession a i) ↔
      ∀ p, Discovered tr p → ¬ h.LoggedIn p iqn) ∧ ∀ p, Discovered tr p → p ∈ portals := by
  have hlogin : wp hostAct (loginPortals portals iqn).run h fun tr r h' => ∃ active,
      (r = .ok active ∨ (∃ e, r = .error e) ∧ active = []) ∧ LoggedInto h iqn tr active h' ∧
      ∀ p, Discovered tr p → p ∈ portals := by
    refine wp_run_bind.2 (wp_mono (wp_loginEach h iqn portals) fun tr1 r1 h1 hp => ?_)
    obtain ⟨active, rfl, hinto, hmem⟩ := hp
    change wp hostAct (ExceptT.run (if active = [] then _ else _)) _ _
    split
    · next hnil =>
      refine wp_run_throw.2 ?_
      rw [List.append_nil]
      exact ⟨active, .inr ⟨⟨_, rfl⟩, hnil⟩, hinto, hmem⟩
    · refine wp_run_pure.2 ?_
      rw [List.append_nil]
      exact ⟨active, .inl rfl, hinto, hmem⟩
  rcases runs_run_bind.1 hrun with ⟨e, -, hfail⟩ | ⟨tr1, active, h1, tr2, rfl, h1run, h2run⟩
  · obtain ⟨active, hres | ⟨-, rfl⟩, hinto, hmem⟩ := wp_iff.1 hlogin _ _ _ hfail
    · cases hres
    · refine ⟨sessions_iff_of_loggedInto hinto fun a i => ?_, hmem⟩
      simp
  · obtain ⟨active', hres | ⟨⟨e, hres⟩, -⟩, hinto, hmem⟩ := wp_iff.1 hlogin _ _ _ h1run
    rotate_left
    · cases hres
    obtain rfl : active = active' := Except.ok.inj hres
    have hnone := not_discovered_of_calls h2run
      ((calls_attachOver n active iqn lun).mono fun c hc => hc.1)
    have hdisc : ∀ p, Discovered (tr1 ++ tr2) p ↔ Discovered tr1 p := fun p => by
      rw [Discovered.append, or_iff_left (hnone p)]
    simp only [hdisc]
    have hout := wp_iff.1 (wp_attachOver n h1 active iqn lun) _ _ _ h2run err rfl hok.append.2
    exact ⟨sessions_iff_of_loggedInto hinto hout, hmem⟩

/-- A failed attach is the whole of the call it was made for. It leaves the sessions as they were
iff no portal of the volume that answered discovery had a session to its target already. -/
theorem attach_failed_iff {n : NodePlugin} {volumeID : String} {vctx : StrMap} {h h' : Host}
    {tr : List HostEv} {err : Error}
    (hrun : Runs hostAct (attach n volumeID vctx).run h tr (.error err) h') (hok : LogoutsOk tr) :
    ((∀ a i, h'.HasSession a i ↔ h.HasSession a i) ↔
      ∀ (tr1 : List HostEv) (h1 : Host) (portals : List String) (iqn : String) (lun : Int),
        tr1 <+: tr → Runs hostAct (resolveAttachIdentity n volumeID vctx).run h tr1
          (.ok (portals, iqn, lun)) h1 →
        ∀ p ∈ portals, Discovered tr p → ¬ h.LoggedIn p iqn) ∧
    (∀ req : StageRequest, req.volumeID = volumeID → req.volumeContext = vctx →
      Runs hostAct (stageVolume n req).run h tr (.error err) h') ∧
    ∀ req : PublishRequest, req.volumeCapability.accessType = .block →
      req.volumeID = volumeID → req.volumeContext = vctx →
      Runs hostAct (publishVolume n req).run h tr (.error err) h' := by
  refine ⟨?_, ?_, ?_⟩
  · rcases runs_run_bind.1 hrun with ⟨e, -, hfail⟩ | ⟨tr1, id, h1, tr2, rfl, hid, hrest⟩
    · have hk := Kept.of_runs hfail (calls_resolveAttachIdentity n volumeID vctx)
      refine iff_of_true (fun a i => hk.hasSession a i) ?_
      intro tr1 h1 portals iqn lun hpre hid
      obtain ⟨-, hres, -⟩ := hfail.unique hid (List.prefix_refl tr) hpre
      cases hres
    · obtain ⟨portals, iqn, lun⟩ := id
      have hk := Kept.of_runs hid (calls_resolveAttachIdentity n volumeID vctx)
      have hnone := not_discovered_of_calls hid
        ((calls_resolveAttachIdentity n volumeID vctx).mono fun c hc => hc.2.2)
      have hdisc : ∀ p, Discovered (tr1 ++ tr2) p ↔ Discovered tr2 p := fun p => by
        rw [Discovered.append, or_iff_right (hnone p)]
      obtain ⟨hiff, hmem⟩ := attach_portals_failed hrest hok.append.2
      simp only [hk.hasSession, hk.loggedIn] at hiff
      rw [hiff]
      constructor
      · intro hall tr1' h1' portals' iqn' lun' hpre hid' p hp hd
        obtain ⟨-, hres, -⟩ := hid.unique hid' (List.prefix_append tr1 tr2) hpre
        obtain ⟨rfl, hpair⟩ := Prod.mk.inj (Except.ok.inj hres)
        obtain ⟨rfl, -⟩ := Prod.mk.inj hpair
        exact hall p ((hdisc p).1 hd)
      · intro hall p hp
        exact hall tr1 h1 portals iqn lun (List.prefix_append tr1 tr2) hid p (hmem p hp)
          ((hdisc p).2 hp)
  · rintro req rfl rfl
    exact runs_run_bind.2 (.inl ⟨err, rfl, hrun⟩)
  · rintro req hblock rfl rfl
    unfold publishVolume
    rw [if_pos hblock]
    exact runs_run_bind.2 (.inl ⟨err, rfl, hrun⟩)

theorem logoutsOk_of_fails {p : String} {lun : Int}
    (h : ∀ e ∈ tr, e.choice.fail ≠ none → e.call = .discover p ∨ e.call = .waitForDevice iqn lun) :
    LogoutsOk tr := by
  intro e he q i hc
  by_contra hf
  rcases h e he hf with hc' | hc'
  · simp [hc'] at hc
  · simp [hc'] at hc

def twoPortals : StrMap :=
  ((AList.insert "portal" "10.0.0.1,10.0.0.9" ∅).insert "iqn" "iqn.a").insert "lun" "0"

/-- Discovery fails at the portal that has a session, and the device does not appear. -/
theorem attach_failed_undiscovered : ∃ tr err h',
    Runs hostAct (attach .plain "vol1" twoPortals).run (.of [⟨"10.0.0.9", "iqn.a", []⟩] [] [] 0)
      tr (.error err) h' ∧
    ∀ a i, h'.HasSession a i ↔ (Host.of [⟨"10.0.0.9", "iqn.a", []⟩] [] [] 0).HasSession a i := by
  obtain ⟨tr, r, h', hrun, hfail, hnine, hfails⟩ := runs_of_exec hostAct
    (attach .plain "vol1" twoPortals).run (.of [⟨"10.0.0.9", "iqn.a", []⟩] [] [] 0)
    [{}, {}, { fail := some "no route" }, { fail := some "timeout" }, {}]
    (fun x => x.2.1.isOk = false ∧
      (∀ e ∈ x.1, e.choice.fail = none → e.call ≠ .discover "10.0.0.9") ∧
      ∀ e ∈ x.1, e.choice.fail ≠ none →
        e.call = .discover "10.0.0.9" ∨ e.call = .waitForDevice "iqn.a" 0) (by decide)
  cases r with
  | ok v => cases hfail
  | error err =>
    have hok : LogoutsOk tr := logoutsOk_of_fails hfails
    refine ⟨tr, err, h', hrun, (attach_failed_iff hrun hok).1.2 ?_⟩
    intro tr1 h1 portals iqn lun _ _ p _ hd hl
    obtain ⟨e, he, hc, hf⟩ := hd
    obtain ⟨l, hmem, hp, -⟩ := hl
    obtain rfl : l = ⟨"10.0.0.9", "iqn.a", []⟩ := List.mem_singleton.1 hmem
    obtain rfl : "10.0.0.9" = p := hp
    exact hnine e he hf hc

/-- A session that was there is logged out when the device does not appear. -/
theorem attach_failed_takes_session : ¬ ∀ (n : NodePlugin) (volumeID : String) (vctx : StrMap)
    (h h' : Host) (tr : List HostEv) (err : Error),
      Runs hostAct (attach n volumeID vctx).run h tr (.error err) h' → LogoutsOk tr →
      ∀ a i, h'.HasSession a i ↔ h.HasSession a i := by
  intro h
  obtain ⟨tr, r, h', hrun, hfail, hfails, hgone⟩ := runs_of_exec hostAct
    (attach .plain "vol1" twoPortals).run (.of [⟨"10.0.0.1", "iqn.a", []⟩] [] [] 0)
    [{}, {}, { fail := some "no route" }, { fail := some "timeout" }, {}]
    (fun x => x.2.1.isOk = false ∧ (∀ e ∈ x.1, e.choice.fail ≠ none →
      e.call = .discover "10.0.0.9" ∨ e.call = .waitForDevice "iqn.a" 0) ∧ x.2.2.logins = [])
    (by decide)
  cases r with
  | ok v => cases hfail
  | error err =>
    have hok : LogoutsOk tr := logoutsOk_of_fails hfails
    obtain ⟨l, hmem, -⟩ := (h _ _ _ _ _ _ _ hrun hok "10.0.0.1" "iqn.a").2
      ⟨_, .head _, rfl, rfl⟩
    rw [hgone] at hmem
    cases hmem

end NomadCsi.Qnap
