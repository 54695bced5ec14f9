import Mathlib.Data.List.Dedup
import NomadCsi.Node.Backend
import NomadCsi.Qnap.Resolve

/-!
# Sessions left behind by UnstageVolume

StageVolume and a block PublishVolume log in wherever they can; UnstageVolume logs out at
the portals that the last successful attach of a stage recorded. `Recorded` is the invariant under
which the teardown is complete.
-/

namespace NomadCsi.Qnap

open Lib Lib.Go Driver Node

/-- A login of these events opened the session to the target at this address. -/
def Established (iqn : String) (evs : List HostEv) (a : String) : Prop :=
  ∃ e ∈ evs, ∃ p, e.call = .login p iqn ∧ e.choice.fail = none ∧ ¬ e.pre.LoggedIn p iqn ∧
    a = e.pre.address p

variable {evs : List HostEv} {iqn : String}

theorem Established.append {evs' : List HostEv} {a : String} :
    Established iqn (evs ++ evs') a ↔ Established iqn evs a ∨ Established iqn evs' a := by
  unfold Established
  simp only [List.mem_append, or_and_right, exists_or]

variable {tr : List HostEv} {h h' : Host} {α : Type} {x : Prog Cmd Cmd.Reply α}

theorem not_established_of_calls {r : α} (hr : Runs hostAct x h tr r h')
    (hx : x.Calls fun c => ∀ p iqn, c ≠ .login p iqn) (iqn a : String) :
    ¬ Established iqn tr a := by
  rintro ⟨e, he, p, hc, -⟩
  exact hr.calls hx e he p iqn hc

theorem address_of_runs {r : α} (hr : Runs hostAct x h tr r h') : h'.address = h.address :=
  (hr.invariant (I := fun s => s.address = h.address)
    (fun s c ch _ hs => (hostAct_address s c ch).trans hs) x.calls_true rfl).2

def UncachedCmd (c : Cmd) : Prop := (∀ v m, c ≠ .metaSave v m) ∧ ∀ v, c ≠ .metaDelete v

theorem stages_of_runs {r : α} (hr : Runs hostAct x h tr r h') (hx : x.Calls UncachedCmd) :
    h'.stages = h.stages :=
  (hr.invariant (I := fun s => s.stages = h.stages)
    (fun s _ ch hc hs => (hostAct_stages s ch hc.1 hc.2).trans hs) hx rfl).2

/-! ### Logging in -/

/-- Logging in brought up `active`, and every session it opened is at one of these portals. -/
structure Joined (h : Host) (iqn : String) (tr : List HostEv) (active : List String) (h' : Host) :
    Prop extends LoggedInto h iqn tr active h' where
  opened : ∀ a, Established iqn tr a → ¬ h.HasSession a iqn ∧ ∃ p ∈ active, a = h.address p

theorem Joined.append {h'' : Host} {tr' : List HostEv} {active active' : List String}
    (h1 : Joined h iqn tr active h') (h2 : Joined h' iqn tr' active' h'') :
    Joined h iqn (tr ++ tr') (active ++ active') h'' where
  toLoggedInto := h1.toLoggedInto.append h2.toLoggedInto
  opened a ha := by
    rcases Established.append.1 ha with ha | ha
    · obtain ⟨hnew, p, hp, heq⟩ := h1.opened a ha
      exact ⟨hnew, p, List.mem_append_left _ hp, heq⟩
    · obtain ⟨hnew, p, hp, heq⟩ := h2.opened a ha
      rw [h1.address] at heq
      exact ⟨fun hs => hnew ((h1.sessions _ _).2 (.inl hs)), p, List.mem_append_right _ hp, heq⟩

theorem Joined.of_neutral {r : α} (hr : Runs hostAct x h tr r h') (hx : x.Calls NeutralCmd)
    (iqn : String) : Joined h iqn tr [] h' where
  address := (Kept.of_runs hr hx).address
  sessions a i := by
    rw [(Kept.of_runs hr hx).hasSession]
    simp
  discovered := by simp
  found p hp := absurd hp (not_discovered_of_calls hr (hx.mono fun _ hc => hc.2.2) p)
  opened a ha := absurd ha (not_established_of_calls hr (hx.mono fun _ hc => hc.1) iqn a)

theorem opened_login (h : Host) (p iqn : String) :
    wp hostAct (login p iqn).run h fun tr r _ => ∀ a, Established iqn tr a →
      r.isOk = true ∧ ¬ h.HasSession a iqn ∧ a = h.address p := by
  refine wp_run_bind.2 (wp_perform.2 fun ch => ?_)
  -- the one event opens a session only if the command did not fail
  have hone : ∀ a, Established iqn [⟨h, .login p iqn, ch, (hostAct h (.login p iqn) ch).1⟩] a →
      (hostAct h (.login p iqn) ch).1 = .ok () ∧ ¬ h.HasSession a iqn ∧ a = h.address p := by
    rintro a ⟨e, he, q, hc, hf, hnew, rfl⟩
    obtain rfl := List.mem_singleton.1 he
    injection hc with hq _
    subst hq
    have hl : ¬ h.LoggedIn p iqn := hnew
    have hfail : ch.fail = none := hf
    refine ⟨?_, hl, rfl⟩
    simp [hostAct, hostAnswer, hl, effect, hfail]
  generalize hostAct h (.login p iqn) ch = reply at hone ⊢
  obtain ⟨r, h1⟩ := reply
  cases r with
  | ok _ =>
    intro a ha
    exact ⟨rfl, (hone a ha).2⟩
  | error e =>
    change wp hostAct (ExceptT.run (if _ then _ else _)) _ _
    split
    · intro a ha
      cases (hone a ha).1
    · intro a ha
      cases (hone a ha).1

theorem opened_loginPortal (h : Host) (p iqn : String) :
    wp hostAct (loginPortal p iqn).run h fun tr r _ => ∀ a, Established iqn tr a →
      r = .ok true ∧ ¬ h.HasSession a iqn ∧ a = h.address p := by
  refine wp_run_bind.2 (wp_attempt.2 (wp_mono (wp_discover h p) fun tr1 r1 h1 hp => ?_))
  obtain ⟨⟨t, rfl⟩, e, rfl, hc, -⟩ := hp
  have hnone : ∀ a, ¬ Established iqn [e] a := by
    rintro a ⟨d, hd, q, hlogin, -⟩
    rw [List.mem_singleton.1 hd, hc] at hlogin
    cases hlogin
  cases r1 with
  | error msg =>
    intro a ha
    exact absurd ha (hnone a)
  | ok _ =>
    refine wp_run_bind.2 (wp_attempt.2 (wp_mono (opened_login _ p iqn) fun tr2 r2 h2 hp => ?_))
    have hopened : ∀ a, Established iqn ([e] ++ tr2) a →
        r2.isOk = true ∧ ¬ h.HasSession a iqn ∧ a = h.address p := fun a ha =>
      hp a ((Established.append.1 ha).resolve_left (hnone a))
    cases r2 with
    | ok _ =>
      intro a ha
      rw [List.append_nil] at ha
      exact ⟨rfl, (hopened a ha).2⟩
    | error msg =>
      intro a ha
      rw [List.append_nil] at ha
      cases (hopened a ha).1

theorem joined_loginPortal (h : Host) (p iqn : String) :
    wp hostAct (loginPortal p iqn).run h fun tr r h' => ∃ up, r = .ok up ∧
      Joined h iqn tr (if up then [p] else []) h' := by
  refine wp_mono (wp_and (wp_loginPortal h p iqn) (opened_loginPortal h p iqn)) ?_
  rintro tr r h' ⟨⟨up, rfl, hinto, -⟩, hopened⟩
  refine ⟨up, rfl, hinto, fun a ha => ?_⟩
  obtain ⟨hup, hnew, heq⟩ := hopened a ha
  rw [Except.ok.inj hup]
  exact ⟨hnew, p, .head _, heq⟩

theorem joined_loginEach (h : Host) (iqn : String) (ps : List String) :
    wp hostAct (loginEach iqn ps).run h fun tr r h' => ∃ active, r = .ok active ∧
      Joined h iqn tr active h' := by
  induction ps generalizing h with
  | nil =>
    exact ⟨[], rfl, .of_neutral (x := .ret ()) (r := ()) (runs_ret.2 ⟨rfl, rfl, rfl⟩) trivial iqn⟩
  | cons p ps ih =>
    refine wp_run_bind.2 (wp_mono (joined_loginPortal h p iqn) fun tr1 r1 h1 hp => ?_)
    obtain ⟨up, rfl, hfirst⟩ := hp
    refine wp_run_bind.2 (wp_mono (ih h1) fun tr2 r2 h2 hp => ?_)
    obtain ⟨active, rfl, hrest⟩ := hp
    refine ⟨if up then p :: active else active, rfl, ?_⟩
    have happ := hfirst.append hrest
    rw [List.append_nil]
    cases up with
    | true | false => exact happ

/-! ### Attaching -/

/-- After a failed attach: what is left was there before, and was not opened by it. -/
def Undone (h : Host) (iqn : String) (tr : List HostEv) (h' : Host) : Prop :=
  LogoutsOk tr → ∀ a, h'.HasSession a iqn → h.HasSession a iqn ∧ ¬ Established iqn tr a

theorem Joined.undone (hj : Joined h iqn tr [] h') : Undone h iqn tr h' := by
  intro _ a ha
  have hs := (hj.sessions a iqn).1 ha
  simp only [List.not_mem_nil, false_and, exists_false, and_false, or_false] at hs
  exact ⟨hs, fun hest => (hj.opened a hest).1 hs⟩

def Attached (h : Host) (iqn : String) (lun : Int) (tr : List HostEv)
    (r : Except Error (String × StageMeta)) (h' : Host) : Prop :=
  match r with
  | .ok (_, m) => Joined h iqn tr m.portals h' ∧ m.portals ≠ [] ∧ m.iqn = iqn ∧ m.lunNumber = lun
  | .error _ => Undone h iqn tr h'

theorem attached_attachOver (n : NodePlugin) {h1 : Host} {lun : Int} {tr1 : List HostEv}
    {active : List String} (hj : Joined h iqn tr1 active h1) (hne : active ≠ []) :
    wp hostAct (attachOver n active iqn lun).run h1 fun tr r h' =>
      Attached h iqn lun (tr1 ++ tr) r h' := by
  refine wp_iff.2 fun tr r h' hrun => ?_
  cases r with
  | error err =>
    intro hok a ha
    have hout := wp_iff.1 (wp_attachOver n h1 active iqn lun) _ _ _ hrun err rfl hok.append.2
    obtain ⟨hs, hno⟩ := (hout a iqn).1 ha
    rw [hj.address] at hno
    refine ⟨((hj.sessions a iqn).1 hs).resolve_right hno, fun hest => ?_⟩
    have hest1 := (Established.append.1 hest).resolve_right (not_established_of_calls hrun
      ((calls_attachOver n active iqn lun).mono fun _ hc => hc.2) iqn a)
    exact hno ⟨rfl, (hj.opened a hest1).2⟩
  | ok res =>
    obtain ⟨tr2, found, h2, tr3, rfl, hdev, hrest⟩ := runs_run_bind_ok.1 hrun
    have hneutral := Joined.of_neutral hdev (calls_attempt (calls_attachDevice n iqn lun)) iqn
    rcases found with ⟨wwid, e⟩ | ⟨dev, wwid⟩
    · -- an attach that cleans up reports the error
      obtain ⟨_, _, _, _, -, -, hthrow⟩ := runs_run_bind_ok.1 hrest
      cases (runs_ret.1 hthrow).2.1
    · obtain ⟨rfl, hres, rfl⟩ := runs_ret.1 hrest
      cases hres
      rw [List.append_nil]
      have hall := hj.append hneutral
      rw [List.append_nil] at hall
      exact ⟨hall, hne, rfl, rfl⟩

theorem attached_portals (n : NodePlugin) {h1 : Host} {lun : Int} {tr1 : List HostEv}
    (hj : Joined h iqn tr1 [] h1) (ps : List String) :
    wp hostAct (loginPortals ps iqn >>= fun active => attachOver n active iqn lun).run h1
      fun tr r h' => Attached h iqn lun (tr1 ++ tr) r h' := by
  refine wp_run_bind.2 (wp_run_bind.2 (wp_mono (joined_loginEach h1 iqn ps) fun tr2 r2 h2 hp => ?_))
  obtain ⟨active, rfl, hlogin⟩ := hp
  have hall : Joined h iqn (tr1 ++ tr2) active h2 := hj.append hlogin
  change wp hostAct (ExceptT.run (if active = [] then _ else _)) _ _
  split
  · next hnil =>
    subst hnil
    refine wp_run_throw.2 ?_
    rw [List.append_nil]
    exact hall.undone
  · next hne =>
    refine wp_run_pure.2 ?_
    rw [List.append_nil]
    refine wp_mono (attached_attachOver n hall hne) fun tr r h' ha => ?_
    rwa [← List.append_assoc]

theorem attached_attach (n : NodePlugin) {volumeID : String} {vctx : StrMap} {ps : List String}
    {lun : Int} {r : Except Error (String × StageMeta)} (tr' : List HostEv)
    (hrun : Runs hostAct (attach n volumeID vctx).run h tr r h') (hid : ∀ id, attachIdentity n
      volumeID vctx (sanSays (tr ++ tr')) = .ok id → id = (ps, iqn, lun)) :
    Attached h iqn lun tr r h' := by
  rcases runs_run_bind.1 hrun with ⟨e, rfl, hfail⟩ | ⟨tr1, id, h1, tr2, rfl, hres, hrest⟩
  · exact (Joined.of_neutral hfail (calls_resolveAttachIdentity n volumeID vctx) iqn).undone
  · have hj := Joined.of_neutral hres (calls_resolveAttachIdentity n volumeID vctx) iqn
    obtain ⟨-, hval, hasked⟩ := wp_iff.1 (wp_resolveAttachIdentity h) _ _ _ hres
    rw [List.append_assoc] at hid
    obtain rfl := hid id (attachIdentity_append hasked hval.symm (tr2 ++ tr'))
    exact wp_iff.1 (attached_portals n hj ps) _ _ _ hrest

/-! ### A lifetime of the plugin -/

/-- A call that attaches: StageVolume, or PublishVolume of a block volume. -/
inductive AttachCall where
  | stage (req : StageRequest)
  | publish (req : PublishRequest)

namespace AttachCall

def volumeID : AttachCall → String
  | .stage req => req.volumeID
  | .publish req => req.volumeID

def volumeContext : AttachCall → StrMap
  | .stage req => req.volumeContext
  | .publish req => req.volumeContext

def attaches : AttachCall → Bool
  | .stage _ => true
  | .publish req => req.volumeCapability.accessType = .block

def serve (n : NodePlugin) : AttachCall → NodeOp Unit
  | .stage req => stageVolume n req
  | .publish req => publishVolume n req

end AttachCall

/-- A volume with the portals, the target and the LUN number it is attached by. -/
structure Attachment where
  volumeID : String
  portals : List String
  iqn : String
  lun : Int
  named : iqn ≠ ""

structure AttachCall.Of (n : NodePlugin) (v : Attachment) (said : Option String) (c : AttachCall) :
    Prop where
  volume : c.volumeID = v.volumeID
  attaches : c.attaches = true
  identity : ∀ id, attachIdentity n v.volumeID c.volumeContext said = .ok id →
    id = (v.portals, v.iqn, v.lun)

/-- Calls for the volume one after the other, with their events; each meets `Ok`, which is told the
host, the events so far, the call and the events of the call. -/
inductive Lifetime (n : NodePlugin) (v : Attachment)
    (Ok : Host → List HostEv → AttachCall → List HostEv → Prop) (h0 : Host) :
    List HostEv → Host → Prop where
  | start : Lifetime n v Ok h0 [] h0
  | call {evs tr : List HostEv} {h h' : Host} {c : AttachCall} {r : Except Error Unit} :
      Lifetime n v Ok h0 evs h → c.Of n v (sanSays tr) → Runs hostAct (c.serve n).run h tr r h' →
      Ok h evs c tr → Lifetime n v Ok h0 (evs ++ tr) h'

/-- What a call needs to meet. A stage that reaches a portal reaches those of all sessions that the
plugin opened; a publish reaches no portal without a session; no logout fails. -/
def Covering (iqn : String) (h : Host) (evs : List HostEv) (c : AttachCall) (tr : List HostEv) : Prop :=
  LogoutsOk tr ∧ match c with
    | .stage _ => (∃ q, Discovered tr q) → ∀ a, Established iqn evs a → h.HasSession a iqn →
        ∃ p, Discovered tr p ∧ a = h.address p
    | .publish _ => ∀ p, Discovered tr p → h.LoggedIn p iqn

/-- The stage cache covers the sessions that the plugin opened. -/
def Recorded (v : Attachment) (evs : List HostEv) (h : Host) : Prop :=
  ∀ a, Established v.iqn evs a → h.HasSession a v.iqn →
    ∃ m, h.stages.lookup v.volumeID = some m ∧ m.iqn = v.iqn ∧ m.lunNumber = v.lun ∧
      ∃ p ∈ m.portals, a = h.address p

/-- A command that touches neither the sessions nor the stage cache. -/
def CalmCmd (c : Cmd) : Prop := NeutralCmd c ∧ UncachedCmd c

variable {c : Cmd}

theorem calm_of_places (hc : c.places = true) : CalmCmd c := by
  refine ⟨⟨?_, ?_, ?_⟩, ?_, ?_⟩
  all_goals
    intros
    rintro rfl
    cases hc

theorem calm_stageDevice (req : StageRequest) (dev : String) :
    (stageDevice req dev).run.Calls CalmCmd := by
  unfold stageDevice
  split
  · trivial
  · refine calls_run_bind (calls_onError ((calls_formatIfEmpty _ _).mono fun c hc => ?_)) fun _ =>
      calls_onError ((places_mount _ _ _ _).mono fun _ => calm_of_places)
    rcases hc with rfl | rfl
    · simp [CalmCmd, NeutralCmd, UncachedCmd]
    · simp [CalmCmd, NeutralCmd, UncachedCmd]

theorem uncached_attach (n : NodePlugin) (volumeID : String) (vctx : StrMap) :
    (attach n volumeID vctx).run.Calls UncachedCmd := by
  refine (attaches_attach n volumeID vctx).mono fun c hc => ⟨?_, ?_⟩
  all_goals
    intros
    rintro rfl
    cases hc

variable {n : NodePlugin} {v : Attachment}

theorem Recorded.of_failed {vctx : StrMap} {err : Error} (hrec : Recorded v evs h)
    (hrun : Runs hostAct (attach n v.volumeID vctx).run h tr (.error err) h') (hid : ∀ id,
      attachIdentity n v.volumeID vctx (sanSays tr) = .ok id → id = (v.portals, v.iqn, v.lun))
    (hok : LogoutsOk tr) : Recorded v (evs ++ tr) h' := by
  rw [← List.append_nil tr] at hid
  have hundone : Undone h v.iqn tr h' := attached_attach n [] hrun hid
  intro a hest hs
  obtain ⟨hbefore, hnew⟩ := hundone hok a hs
  rw [address_of_runs hrun, stages_of_runs hrun (uncached_attach n _ _)]
  exact hrec a ((Established.append.1 hest).resolve_right hnew) hbefore

variable {m : StageMeta}

/-- A stage whose attach succeeded: its record covers what it reached. -/
theorem recorded_of_joined (hj : Joined h v.iqn tr m.portals h') (hne : m.portals ≠ [])
    (hm : m.iqn = v.iqn ∧ m.lunNumber = v.lun) (hsaved : h'.stages.lookup v.volumeID = some m)
      (hreach : (∃ q, Discovered tr q) → ∀ a, Established v.iqn evs a → h.HasSession a v.iqn → ∃ p,
      Discovered tr p ∧ a = h.address p) : Recorded v (evs ++ tr) h' := by
  intro a hest hs
  refine ⟨m, hsaved, hm.1, hm.2, ?_⟩
  rw [hj.address]
  rcases (hj.sessions a v.iqn).1 hs with hbefore | ⟨-, hactive⟩
  · rcases Established.append.1 hest with hest | hest
    · obtain ⟨q, hq⟩ := List.exists_mem_of_ne_nil _ hne
      obtain ⟨p, hp, rfl⟩ := hreach ⟨q, hj.discovered q hq⟩ a hest hbefore
      exact ⟨p, hj.found p hp hbefore, rfl⟩
    · exact absurd hbefore (hj.opened a hest).1
  · exact hactive

variable {r : Except Error Unit}

/-- A stage attaches, records what it attached by and leaves sessions and cache as they are then. -/
theorem stage_cases {req : StageRequest} (hrun : Runs hostAct (stageVolume n req).run h tr r h') :
    (∃ e, Runs hostAct (attach n req.volumeID req.volumeContext).run h tr (.error e) h') ∨
    ∃ tr1 dev m h1 tr2, tr = tr1 ++ tr2 ∧
      Runs hostAct (attach n req.volumeID req.volumeContext).run h tr1 (.ok (dev, m)) h1 ∧
      (∀ iqn, Joined h1 iqn tr2 [] h') ∧ h'.stages = h1.stages.insert req.volumeID m := by
  rcases runs_run_bind.1 hrun with ⟨e, -, hfail⟩ | ⟨tr1, dm, h1, tr2, rfl, hatt, hrest⟩
  · exact .inl ⟨e, hfail⟩
  obtain ⟨dev, m⟩ := dm
  rcases runs_run_bind.1 hrest with ⟨e, -, hsave⟩ | ⟨tr3, u, h2, tr4, rfl, hsave, hdev⟩
  · obtain ⟨ch, tr', -, hret⟩ := runs_call.1 hsave
    cases (runs_ret.1 hret).2.1
  obtain ⟨ch, tr', rfl, hret⟩ := runs_call.1 hsave
  obtain ⟨rfl, -, rfl⟩ := runs_ret.1 hret
  refine .inr ⟨tr1, dev, m, h1, _, rfl, hatt, fun iqn => .of_neutral hrest (calls_run_bind
    (calls_perform (by simp [NeutralCmd])) fun _ => (calm_stageDevice req dev).mono
    fun _ hc => hc.1) iqn, ?_⟩
  rw [stages_of_runs hdev ((calm_stageDevice req dev).mono fun _ hc => hc.2)]
  rfl

theorem recorded_stage {req : StageRequest} (hrec : Recorded v evs h)
    (hc : AttachCall.Of n v (sanSays tr) (.stage req))
    (hrun : Runs hostAct (stageVolume n req).run h tr r h')
    (hok : Covering v.iqn h evs (.stage req) tr) : Recorded v (evs ++ tr) h' := by
  obtain ⟨hvol, -, hid⟩ := hc
  change req.volumeID = v.volumeID at hvol
  obtain ⟨hlogouts, hreach⟩ := hok
  obtain ⟨e, hfail⟩ | ⟨tr1, dev, m, h1, tr2, rfl, hatt, hrest, hsaved⟩ := stage_cases hrun
  · rw [hvol] at hfail
    exact hrec.of_failed hfail hid hlogouts
  · rw [hvol] at hatt
    obtain ⟨hj, hne, hm⟩ := attached_attach n tr2 hatt hid
    have hall := hj.append (hrest v.iqn)
    rw [List.append_nil] at hall
    refine recorded_of_joined hall hne hm ?_ hreach
    rw [hsaved, hvol]
    exact AList.lookup_insert _

theorem recorded_publish {req : PublishRequest} (hrec : Recorded v evs h)
    (hc : AttachCall.Of n v (sanSays tr) (.publish req))
    (hrun : Runs hostAct (publishVolume n req).run h tr r h')
    (hok : Covering v.iqn h evs (.publish req) tr) : Recorded v (evs ++ tr) h' := by
  obtain ⟨hvol, hblock, hid⟩ := hc
  change req.volumeID = v.volumeID at hvol
  obtain ⟨hlogouts, hreach⟩ := hok
  unfold publishVolume at hrun
  rw [if_pos (of_decide_eq_true hblock), hvol] at hrun
  rcases runs_run_bind.1 hrun with ⟨e, -, hfail⟩ | ⟨tr1, dm, h1, tr2, rfl, hatt, hbind⟩
  · exact hrec.of_failed hfail hid hlogouts
  · obtain ⟨dev, m⟩ := dm
    obtain ⟨hj, -⟩ := attached_attach n tr2 hatt hid
    have hcalm : (bindVolume dev false req).run.Calls CalmCmd :=
      calls_onError ((places_bindMount _ _ _ _).mono fun _ => calm_of_places)
    have hall := hj.append (Joined.of_neutral hbind (hcalm.mono fun _ hc => hc.1) v.iqn)
    rw [List.append_nil] at hall
    have hstages : h'.stages = h.stages := (stages_of_runs hbind (hcalm.mono fun _ hc => hc.2)).trans
      (stages_of_runs hatt (uncached_attach n _ _))
    -- every portal it reached had a session, so that it opened none
    have hactive : ∀ p ∈ m.portals, h.HasSession (h.address p) v.iqn := fun p hp =>
      hreach p (hall.discovered p hp)
    intro a hest hs
    have hbefore : h.HasSession a v.iqn := by
      rcases (hall.sessions a v.iqn).1 hs with hs | ⟨-, p, hp, rfl⟩
      · exact hs
      · exact hactive p hp
    rw [hall.address, hstages]
    refine hrec a ((Established.append.1 hest).resolve_right fun hnew => ?_) hbefore
    exact (hall.opened a hnew).1 hbefore

theorem Lifetime.recorded {h0 : Host} (hl : Lifetime n v (Covering v.iqn) h0 evs h) :
    Recorded v evs h := by
  induction hl with
  | start =>
    rintro a ⟨e, he, -⟩
    cases he
  | @call evs tr h h' c r _ hc hrun hok ih =>
    cases c with
    | stage req => exact recorded_stage ih hc hrun hok
    | publish req => exact recorded_publish ih hc hrun hok

/-! ### The teardown -/

theorem mem_logins_of_act {ch : CmdChoice} {l : Login} (hc : ∀ p iqn, c ≠ .login p iqn)
    (hl : l ∈ (hostAct h c ch).2.logins) : l ∈ h.logins := by
  by_cases hout : ∃ p iqn, c = .logout p iqn
  · obtain ⟨p, iqn, rfl⟩ := hout
    revert hl
    unfold hostAct hostAnswer effect
    dsimp only
    split
    · split
      · exact id
      · exact fun hl => (List.mem_filter.1 hl).1
    · exact id
  · rwa [hostAct_logins h ch hc fun p iqn heq => hout ⟨p, iqn, heq⟩] at hl

theorem hasSession_of_act {ch : CmdChoice} {a i : String} (hc : ∀ p iqn, c ≠ .login p iqn)
    (hs : (hostAct h c ch).2.HasSession a i) : h.HasSession a i := by
  obtain ⟨l, hl, heq⟩ := hs
  exact ⟨l, mem_logins_of_act hc hl, heq⟩

theorem hasSession_of_runs {r : α} (hr : Runs hostAct x h tr r h')
    (hx : x.Calls fun c => ∀ p iqn, c ≠ .login p iqn) {a i : String} (hs : h'.HasSession a i) :
    h.HasSession a i :=
  (hr.invariant (I := fun s => s.HasSession a i → h.HasSession a i)
    (fun _ _ _ hc hI hs => hI (hasSession_of_act hc hs)) hx id).2 hs

theorem no_login_unstageVolume (n : NodePlugin) (req : UnstageRequest) :
    (unstageVolume n req).run.Calls fun c => ∀ p iqn, c ≠ .login p iqn := by
  refine (unstages_unstageVolume n req).mono fun c hc p iqn heq => ?_
  rw [heq] at hc
  cases hc.1

theorem neutral_of_looks (hc : c.looks = true) : NeutralCmd c := by
  refine ⟨?_, ?_, ?_⟩
  all_goals
    intros
    rintro rfl
    cases hc

/-- The LUN is the only one of its target that the session list shows. -/
def OnlyLUN (h : Host) (iqn : String) (lun : Int) : Prop :=
  ∀ s ∈ h.sessions, s.iqn = iqn → s.lun = lun

theorem Kept.onlyLUN (hk : Kept h h') (iqn : String) (lun : Int) :
    OnlyLUN h' iqn lun ↔ OnlyLUN h iqn lun := by
  unfold OnlyLUN Host.sessions
  rw [hk.logins]

theorem dedup_single_iff {l : List Int} {x : Int} :
    l.dedup = [] ∨ l.dedup = [x] ↔ ∀ y ∈ l, y = x := by
  constructor
  · intro h y hy
    have hmem := List.mem_dedup.2 hy
    rcases h with h | h
    · rw [h] at hmem
      cases hmem
    · rw [h] at hmem
      exact List.mem_singleton.1 hmem
  · intro h
    have hall := List.eq_replicate_of_mem fun y hy => h y (List.mem_dedup.1 hy)
    have hone := List.nodup_replicate.1 (hall ▸ List.nodup_dedup l)
    rcases Nat.le_one_iff_eq_zero_or_eq_one.1 hone with hlen | hlen
    · exact .inl (hall.trans (by rw [hlen]; rfl))
    · exact .inr (hall.trans (by rw [hlen]; rfl))

theorem wp_lastLUNOnTarget (h : Host) (iqn : String) (lun : Int) :
    wp hostAct (lastLUNOnTarget iqn lun).run h fun tr r h' => Same h h' ∧
      (∀ e ∈ tr, e.call = .sessionList) ∧ ∃ last, r = .ok last ∧
      (OnlyLUN h iqn lun → last = true) ∧ (Listings tr → last = true → OnlyLUN h iqn lun) := by
  refine wp_run_bind.2 (wp_attempt.2 (wp_mono (wp_listSessions h) fun tr r h' hl => ?_))
  obtain ⟨hsame, e, rfl, hc, ⟨-, rfl⟩ | ⟨hf, msg, rfl⟩⟩ := hl
  · have honly : (∀ y ∈ (h.sessions.filter (·.iqn = iqn)).map (·.lun), y = lun) ↔
        OnlyLUN h iqn lun := by
      rw [List.forall_mem_map]
      simp only [List.mem_filter, decide_eq_true_eq, and_imp]
      rfl
    refine ⟨hsame, by simpa using hc, _, rfl, fun h => ?_, fun _ h => ?_⟩
    · exact decide_eq_true (dedup_single_iff.2 (honly.2 h))
    · exact honly.1 (dedup_single_iff.1 (of_decide_eq_true h))
  · exact ⟨hsame, by simpa using hc, true, rfl, fun _ => rfl,
      fun hok => absurd (hok e (.head _) (.inl hc)) hf⟩

theorem wp_logoutTarget (hiqn : m.iqn ≠ "") (honly : OnlyLUN h m.iqn m.lunNumber) :
    wp hostAct (logoutTarget m).run h fun tr _ h' => LogoutsOk tr →
      ∀ p ∈ portalList m, ¬ h'.HasSession (h.address p) m.iqn := by
  unfold logoutTarget
  rw [if_neg hiqn]
  refine wp_run_bind.2 (wp_mono (wp_lastLUNOnTarget h _ _) fun tr1 r1 h1 hp => ?_)
  obtain ⟨⟨t, rfl⟩, -, last, rfl, hlast, -⟩ := hp
  obtain rfl := hlast honly
  refine wp_mono (wp_logoutEach _ m.iqn (portalList m)) fun tr2 _ h2 hout hok p hp hs => ?_
  exact ((hout hok.append.2 _ _).1 hs).2 ⟨rfl, p, hp, rfl⟩

variable {req : UnstageRequest}

theorem wp_resolveTeardown_warm (n : NodePlugin) (hm : h.stages.lookup req.volumeID = some m) :
    wp hostAct (resolveTeardown n req).run h fun _ r h' => r = .ok (some m) ∧ Same h h' := by
  refine wp_run_bind.2 (wp_perform.2 fun ch => ?_)
  have hact : hostAct h (.metaLoad req.volumeID) ch =
      (h.stages.lookup req.volumeID, h.later ch) := rfl
  rw [hact, hm]
  exact ⟨rfl, ⟨_, rfl⟩⟩

/-- An UnstageVolume by the stage cache comes to the logouts with the sessions it found. -/
theorem runs_unstage_warm (hm : h.stages.lookup req.volumeID = some m)
    (hrun : Runs hostAct (unstageVolume n req).run h tr (.ok ()) h') :
    ∃ tr1 h1 tr2 h2 tr3, tr = tr1 ++ (tr2 ++ tr3) ∧ (∀ e ∈ tr1, NeutralCmd e.call) ∧ Kept h h1 ∧
      Runs hostAct (logoutTarget m).run h1 tr2 (.ok ()) h2 ∧
      Runs hostAct (perform (Cmd.metaDelete req.volumeID) : NodeOp Unit).run h2 tr3 (.ok ()) h' := by
  obtain ⟨tr1, id, h1, tr2, rfl, hid, hrest⟩ := runs_run_bind_ok.1 hrun
  obtain ⟨hfound, hsame⟩ := wp_iff.1 (wp_resolveTeardown_warm n hm) _ _ _ hid
  obtain rfl := Except.ok.inj hfound
  obtain ⟨tr3, u, h2, tr4, rfl, hfree, hrest⟩ := runs_run_bind_ok.1 hrest
  obtain ⟨tr5, u', h3, tr6, rfl, humount, hdetach⟩ := runs_run_bind_ok.1 hrest
  obtain ⟨tr7, u'', h4, tr8, rfl, hflush, hrest⟩ := runs_run_bind_ok.1 hdetach
  obtain ⟨tr9, u3, h5, tr10, rfl, hlogout, hforget⟩ := runs_run_bind_ok.1 hrest
  have hres : (resolveTeardown n req).run.Calls NeutralCmd :=
    (looks_resolveTeardown req).mono fun _ => neutral_of_looks
  have hin : (refuseInUse n req (some m)).run.Calls NeutralCmd := by
    refine calls_run_bind (calls_attempt ((looks_deviceInUse req m).mono
      fun _ => neutral_of_looks)) fun used => ?_
    rcases used with _ | (_ | _)
    all_goals trivial
  have hun : (onError (fun e => internal ("unmount staging: " ++ e))
      (unmount req.stagingTargetPath) : NodeOp Unit).run.Calls NeutralCmd := by
    refine calls_onError ((calls_unmount _).mono ?_)
    rintro c (rfl | rfl)
    · simp [NeutralCmd]
    · simp [NeutralCmd]
  have hfl : (flushMap n m.wwid).run.Calls NeutralCmd :=
    (calls_flushMap n m.wwid).mono (by rintro c rfl; simp [NeutralCmd])
  refine ⟨tr1 ++ (tr3 ++ (tr5 ++ tr7)), h4, tr9, h5, tr10, by simp, ?_, ?_, hlogout, hforget⟩
  · intro e he
    simp only [List.mem_append] at he
    rcases he with he | he | he | he
    · exact hid.calls hres e he
    · exact hfree.calls hin e he
    · exact humount.calls hun e he
    · exact hflush.calls hfl e he
  · exact (((Kept.of_runs hid hres).trans (.of_runs hfree hin)).trans (.of_runs humount hun)).trans
      (.of_runs hflush hfl)

/-- After an UnstageVolume by the stage cache no session is left at a recorded portal. -/
theorem unstage_logs_out_recorded (hm : h.stages.lookup req.volumeID = some m) (hiqn : m.iqn ≠ "")
    (honly : OnlyLUN h m.iqn m.lunNumber)
    (hrun : Runs hostAct (unstageVolume n req).run h tr (.ok ()) h') (hok : LogoutsOk tr) :
    ∀ p ∈ portalList m, ¬ h'.HasSession (h.address p) m.iqn := by
  obtain ⟨tr1, h1, tr2, h2, tr3, rfl, -, hkept, hlogout, hforget⟩ := runs_unstage_warm hm hrun
  intro p hp hs
  have hgone := wp_iff.1 (wp_logoutTarget hiqn ((hkept.onlyLUN _ _).2 honly)) _ _ _ hlogout
    hok.append.2.append.1 p hp
  rw [hkept.address] at hgone
  exact hgone (hasSession_of_runs hforget (calls_perform (by simp)) hs)

/-- Whatever the calls of a lifetime were, if each of them is covering, a successful UnstageVolume
leaves no session to the target that they opened. -/
theorem unstage_leaves_none {n : NodePlugin} {v : Attachment} {h0 h h' : Host}
    {evs tr : List HostEv} {path : String} (hlife : Lifetime n v (Covering v.iqn) h0 evs h)
    (hrun : Runs hostAct (unstageVolume n ⟨v.volumeID, path⟩).run h tr (.ok ()) h')
    (honly : OnlyLUN h v.iqn v.lun) (hok : LogoutsOk tr) (a : String)
    (hest : Established v.iqn evs a) : ¬ h'.HasSession a v.iqn := by
  intro hs
  have hbefore := hasSession_of_runs hrun (no_login_unstageVolume n _) hs
  obtain ⟨m, hm, hiqn, hlun, p, hp, rfl⟩ := hlife.recorded a hest hbefore
  have hgone := unstage_logs_out_recorded hm (hiqn ▸ v.named) (by rw [hiqn, hlun]; exact honly)
    hrun hok p
  have hlist : p ∈ portalList m := by
    unfold portalList
    rw [if_pos (List.ne_nil_of_mem hp)]
    exact hp
  rw [hiqn] at hgone
  exact hgone hlist hs

def atTwoPortals : Attachment := ⟨"vol1", ["10.0.0.1", "10.0.0.9"], "iqn.a", 0, by decide⟩

def stageTwo : AttachCall := .stage ⟨"vol1", "/stage", ⟨.block, "", []⟩, twoPortals⟩

def stageUnstage : NodeOp Unit :=
  stageTwo.serve .single >>= fun _ => unstageVolume .single ⟨"vol1", "/stage"⟩

theorem attachIdentity_twoPortals (said : Option String) :
    attachIdentity .single "vol1" twoPortals said = .ok (["10.0.0.1", "10.0.0.9"], "iqn.a", 0) :=
  attachIdentity_of_none (by rfl) said

theorem stageTwo_of (said : Option String) : stageTwo.Of .single atTwoPortals said :=
  ⟨rfl, rfl, fun _ hid => Except.ok.inj (hid.symm.trans (attachIdentity_twoPortals said))⟩

theorem logoutsOk_of_discover {p : String}
    (h : ∀ e ∈ tr, e.choice.fail ≠ none → e.call = .discover p) : LogoutsOk tr := by
  intro e he q i hc
  by_contra hf
  rw [h e he hf] at hc
  cases hc

theorem unstage_begins (hrun : Runs hostAct (unstageVolume n req).run h tr r h') :
    ∃ e ∈ tr, e.call = .metaLoad req.volumeID ∧ e.pre = h := by
  obtain ⟨ch, tr', rfl, -⟩ := runs_call.1 hrun
  exact ⟨_, .head _, rfl, rfl⟩

/-- Only a discovery at `10.0.0.9` fails, the sessions show LUN 0 alone when the record is read, and
one is opened at `10.0.0.9`. -/
def OpensSecond (tr : List HostEv) : Prop :=
  (∀ e ∈ tr, e.choice.fail ≠ none → e.call = .discover "10.0.0.9") ∧
  (∀ e ∈ tr, e.call = .metaLoad "vol1" → ∀ s ∈ e.pre.sessions, s.iqn = "iqn.a" → s.lun = 0) ∧
  ∃ e ∈ tr, e.call = .login "10.0.0.9" "iqn.a" ∧ e.choice.fail = none ∧
    ¬ e.pre.LoggedIn "10.0.0.9" "iqn.a" ∧ "10.0.0.9" = e.pre.address "10.0.0.9"

instance (tr : List HostEv) : Decidable (OpensSecond tr) := inferInstanceAs (Decidable (_ ∧ _))

theorem unstage_leaves_none_two : ∃ evs h tr h',
    Lifetime .single atTwoPortals (Covering "iqn.a") (.of [] [] [] 0) evs h ∧
    Runs hostAct (unstageVolume .single ⟨"vol1", "/stage"⟩).run h tr (.ok ()) h' ∧
    Established "iqn.a" evs "10.0.0.9" ∧ ¬ h'.HasSession "10.0.0.9" "iqn.a" := by
  obtain ⟨tr, u, h', hrun, hfails, honly, hest⟩ := runs_ok_of_exec hostAct
    stageUnstage.run (.of [] [] [] 0)
    [{}, { luns := [(0, "/dev/sdb")] }, {}, { luns := [(0, "/dev/sdc")] }, { device := "/dev/sdb" },
      {}, {}, {}, {}, {}, {}, {}, {}]
    (fun x => OpensSecond x.1) (by decide)
  have hlogouts := logoutsOk_of_discover hfails
  obtain ⟨tr1, u1, h1, tr2, rfl, hstage, hun⟩ := runs_run_bind_ok.1 hrun
  have hlife : Lifetime .single atTwoPortals (Covering "iqn.a") (.of [] [] [] 0) ([] ++ tr1) h1 := by
    refine .call .start (stageTwo_of _) hstage ⟨hlogouts.append.1, fun _ a ha => ?_⟩
    obtain ⟨e, he, -⟩ := ha
    cases he
  have hest1 : Established "iqn.a" tr1 "10.0.0.9" := by
    obtain ⟨e, he, hc, hopen⟩ := hest
    refine ⟨e, (List.mem_append.1 he).resolve_right fun he2 => ?_, _, hc, hopen⟩
    exact hun.calls (no_login_unstageVolume .single _) e he2 _ _ hc
  obtain ⟨e, he, hc, rfl⟩ := unstage_begins hun
  exact ⟨_, _, _, _, hlife, hun, hest1, unstage_leaves_none hlife hun
    (honly e (List.mem_append_right _ he) hc) hlogouts.append.2 _ hest1⟩

/-- The second of two stages does not reach the portal `10.0.0.9`, and its session stays. -/
theorem unstage_leaves_session : ¬ ∀ (n : NodePlugin) (v : Attachment) (h0 h h' : Host)
    (evs tr : List HostEv) (path : String), h0.stages = ∅ →
      Lifetime n v (fun _ _ _ _ => True) h0 evs h →
      Runs hostAct (unstageVolume n ⟨v.volumeID, path⟩).run h tr (.ok ()) h' →
      OnlyLUN h v.iqn v.lun → LogoutsOk (evs ++ tr) →
      ∀ a, Established v.iqn evs a → ¬ h'.HasSession a v.iqn := by
  intro hall
  obtain ⟨tr, u, h', hrun, ⟨hfails, honly, hest⟩, hleft⟩ := runs_ok_of_exec hostAct
    (stageTwo.serve .single >>= fun _ => stageUnstage).run (.of [] [] [] 0)
    [{}, { luns := [(0, "/dev/sdb")] }, {}, { luns := [(0, "/dev/sdc")] }, { device := "/dev/sdb" },
      {}, {}, {}, { fail := some "no route" }, { device := "/dev/sdb" }, {}, {}, {}, {}, {}, {}, {}]
    (fun x => OpensSecond x.1 ∧ ∃ l ∈ x.2.2.logins, l.portal = "10.0.0.9" ∧ l.iqn = "iqn.a")
    (by decide)
  obtain ⟨tr1, u1, h1, tr2, rfl, hstage, hrest⟩ := runs_run_bind_ok.1 hrun
  obtain ⟨tr3, u2, h2, tr4, rfl, hagain, hun⟩ := runs_run_bind_ok.1 hrest
  have hlife : Lifetime .single atTwoPortals (fun _ _ _ _ => True) (.of [] [] [] 0)
      ([] ++ tr1 ++ tr3) h2 :=
    .call (.call .start (stageTwo_of _) hstage trivial) (stageTwo_of _) hagain trivial
  obtain ⟨e, he, hc, hopen⟩ := hest
  rw [← List.append_assoc] at he
  have he' : e ∈ tr1 ++ tr3 := (List.mem_append.1 he).resolve_right fun he4 =>
    hun.calls (no_login_unstageVolume .single _) e he4 _ _ hc
  obtain ⟨d, hd, hdc, rfl⟩ := unstage_begins hun
  have honly' := honly d (List.mem_append_right _ (List.mem_append_right _ hd)) hdc
  have hlogouts := logoutsOk_of_discover hfails
  rw [← List.append_assoc] at hlogouts
  exact hall _ _ _ _ _ _ _ _ rfl hlife hun honly' hlogouts "10.0.0.9" ⟨e, he', _, hc, hopen⟩ hleft

end NomadCsi.Qnap
