import NomadCsi.Qnap.Attach

/-!
# UnstageVolume and devices in use

`teardown` says which identity UnstageVolume works with, as a function of the tables of the
host, and `wp_resolveTeardown` that the code finds it. UnstageVolume logs out the target of
that identity, after a check that knows a mount of it only by the mapper path of the
identity's WWID (`wp_refuseInUse`, `runs_unstage_logout`).
-/

namespace NomadCsi.Qnap

open Lib Lib.Go Driver Node

/-! ### The identity, from the tables -/

/-- The sessions of this plugin whose device is one of `devs`. -/
def sessionsOn (n : NodePlugin) (h : Host) (devs : List String) : List Session :=
  h.sessions.filter fun s => base s.device ∈ devs ∧ portalOwned s.portal (ourPortals n.cfg)

/-- What the source of the staging mount tells. -/
def fromMount (n : NodePlugin) (h : Host) (source : String) : Option StageMeta :=
  if hasPrefix source "/dev/mapper/" then
    identityOf (sessionsOn n h (((h.paths.filter (·.2 = base source)).map (·.1)).map base))
      (base source)
  else identityOf (sessionsOn n h [base source]) ""

def fromTarget (n : NodePlugin) (h : Host) (iqn : String) : Option StageMeta :=
  let hits := h.sessions.filter fun s => s.iqn = iqn ∧ portalOwned s.portal (ourPortals n.cfg)
  match hits.getLast? with
  | none => none
  | some s =>
    if s.lun < 0 then none
    else some { iqn := iqn, lunNumber := s.lun,
                wwid := if n.useMultipath ∧ s.device ≠ "" then wwidOf h.paths s.device else "",
                portals := sortedKeys (hits.map fun s => normalizePortal s.portal) }

/-- What the SAN tells, which names the target of a volume. -/
def fromSAN (n : NodePlugin) (h : Host) (volumeID : String) (iqn : Option String) :
    Option StageMeta :=
  if ¬ n.hasSAN then none
  else match parseExternalID volumeID with
    | .error _ => none
    | .ok _ => iqn.bind (fromTarget n h)

/-- The identity UnstageVolume works with: the entry of the stage cache, or what the source of the
staging mount tells, or what the SAN tells. -/
def teardown (n : NodePlugin) (req : UnstageRequest) (h : Host) (source iqn : Option String) :
    Option StageMeta :=
  (h.stages.lookup req.volumeID).or
    ((source.bind (fromMount n h)).or (fromSAN n h req.volumeID iqn))

section

variable {n : NodePlugin}

/-- A listing of the paths that may fail. -/
theorem wp_attempt_paths {α β : Type} {x : Tool α} {a : α} {h : Host} (f : Except String α → β)
    {k : Except String α → NodeOp β} (hk : ∀ r, k r = pure (f r))
    (hx : wp hostAct x.run h (Listed .showPaths a h)) :
    wp hostAct (attempt x >>= k).run h fun tr r h' => (∀ e ∈ tr, e.call = .showPaths) ∧
      (Listings tr → Same h h' ∧ r = .ok (f (.ok a))) := by
  refine wp_run_bind.2 (wp_attempt.2 (wp_mono hx fun tr r h' hl => ?_))
  dsimp only
  rw [hk, wp_run_pure, List.append_nil]
  constructor
  · obtain ⟨-, e, rfl, hc, -⟩ := hl
    simpa using hc
  · intro hok
    obtain ⟨hsame, rfl⟩ := hl.ok hok (by simp)
    exact ⟨hsame, rfl⟩

theorem wp_memberDevices (h : Host) (dev : String) :
    wp hostAct (memberDevices dev).run h fun tr r h' => (∀ e ∈ tr, e.call = .showPaths) ∧
      (Listings tr → Same h h' ∧ r = .ok (if hasPrefix dev "/dev/mapper/" then
        (base dev, ((h.paths.filter (·.2 = base dev)).map (·.1)).map base)
        else ("", [base dev]))) := by
  unfold memberDevices
  split
  · exact wp_attempt_paths (fun r => (base dev, (r.toOption.getD []).map base))
      (by rintro (_ | _) <;> rfl) (wp_members h (base dev))
  · exact ⟨by simp, fun _ => ⟨.refl h, rfl⟩⟩

/-- The commands that tell about sessions and maps. -/
def ListCmd (c : Cmd) : Prop := c = .sessionList ∨ c = .showPaths

theorem wp_reconstructFromMount (h : Host) (path : String) :
    wp hostAct (reconstructFromMount n path).run h fun tr r h' => ∃ e rest, tr = e :: rest ∧
      e.call = .findmntSource path ∧ (∀ d ∈ rest, ListCmd d.call) ∧
      (Listings rest → Same h h' ∧ r = .ok ((seenSource h [e] path).bind (fromMount n h))) := by
  refine wp_run_bind.2 (wp_attempt.2 (wp_mono (wp_sourceDevice h path) fun tr r h1 hp => ?_))
  obtain ⟨⟨t, rfl⟩, e, rfl, hc, hseen⟩ := hp
  cases r with
  | error msg =>
    refine ⟨e, [], rfl, hc, by simp, fun _ => ⟨⟨t, rfl⟩, ?_⟩⟩
    rw [← hseen]
    rfl
  | ok dev =>
    refine wp_run_bind.2 (wp_attempt.2 (wp_mono (wp_listSessions _) fun tr2 r2 h2 hl => ?_))
    have hcalls : ∀ d ∈ tr2, ListCmd d.call := by
      obtain ⟨-, d, rfl, hd, -⟩ := hl
      simpa [ListCmd] using .inl hd
    cases r2 with
    | error msg =>
      refine ⟨e, tr2, by simp, hc, hcalls, fun hok => ?_⟩
      cases (hl.ok hok (by simp)).2
    | ok sessions =>
      refine wp_run_bind.2 (wp_mono (wp_memberDevices h2 dev) fun tr3 r3 h3 hp => ?_)
      obtain ⟨hcalls3, hmem⟩ := hp
      have hall : ∀ d ∈ tr2 ++ tr3, ListCmd d.call := by
        intro d hd
        rcases List.mem_append.1 hd with hd | hd
        · exact hcalls d hd
        · exact .inr (hcalls3 d hd)
      cases r3 with
      | error err =>
        refine ⟨e, tr2 ++ tr3, by simp, hc, hall, fun hok => ?_⟩
        cases (hmem hok.append.2).2
      | ok res =>
        refine ⟨e, tr2 ++ tr3, by simp, hc, hall, fun hok => ?_⟩
        obtain ⟨⟨t2, rfl⟩, hsess⟩ := hl.ok hok.append.1 (by simp)
        obtain ⟨⟨t3, rfl⟩, hres⟩ := hmem hok.append.2
        rw [Except.ok.inj hsess, Except.ok.inj hres, ← hseen]
        refine ⟨⟨t3, rfl⟩, congrArg Except.ok ?_⟩
        change _ = fromMount n h dev
        unfold fromMount
        split
        · rfl
        · rfl

theorem wp_sessionWWID (h : Host) (device : String) :
    wp hostAct (sessionWWID n device).run h fun tr r h' => (∀ e ∈ tr, e.call = .showPaths) ∧
      (Listings tr → Same h h' ∧ r = .ok (if n.useMultipath ∧ device ≠ "" then
        wwidOf h.paths device else "")) := by
  unfold sessionWWID
  split
  · exact wp_attempt_paths (fun r => r.toOption.getD "") (by rintro (_ | _) <;> rfl)
      (wp_mapWWID h device)
  · exact ⟨by simp, fun _ => ⟨.refl h, rfl⟩⟩

theorem wp_identityOnTarget (h : Host) (iqn : String) :
    wp hostAct (identityOnTarget n iqn h.sessions).run h fun tr r h' =>
      (∀ e ∈ tr, e.call = .showPaths) ∧
      (Listings tr → Same h h' ∧ r = .ok (fromTarget n h iqn)) := by
  unfold identityOnTarget fromTarget
  dsimp only
  generalize h.sessions.filter (fun s => s.iqn = iqn ∧ portalOwned s.portal (ourPortals n.cfg)) =
    hits
  cases hits.getLast? with
  | none => exact ⟨by simp, fun _ => ⟨.refl h, rfl⟩⟩
  | some s =>
    dsimp only
    by_cases hlun : s.lun < 0
    · rw [if_pos hlun, if_pos hlun]
      exact ⟨by simp, fun _ => ⟨.refl h, rfl⟩⟩
    · rw [if_neg hlun, if_neg hlun]
      refine wp_run_bind.2 (wp_mono (wp_sessionWWID h s.device) fun tr r h' hp => ?_)
      obtain ⟨hcalls, hres⟩ := hp
      cases r with
      | error err =>
        refine ⟨hcalls, fun hok => ?_⟩
        cases (hres hok).2
      | ok wwid =>
        refine wp_run_pure.2 ?_
        rw [List.append_nil]
        refine ⟨hcalls, fun hok => ?_⟩
        obtain ⟨hsame, hw⟩ := hres hok
        rw [Except.ok.inj hw]
        exact ⟨hsame, rfl⟩

theorem wp_reconstructFromSAN (h : Host) (volumeID : String) :
    wp hostAct (reconstructFromSAN n volumeID).run h fun tr r h' => Listings tr →
      Same h h' ∧ ∀ tr', r = .ok (fromSAN n h volumeID (sanSays (tr ++ tr'))) := by
  unfold reconstructFromSAN fromSAN
  split
  · exact fun _ => ⟨.refl h, fun _ => rfl⟩
  · cases parseExternalID volumeID with
    | error e => exact fun _ => ⟨.refl h, fun _ => rfl⟩
    | ok eid =>
      refine wp_run_bind.2 (wp_perform.2 fun ch => ?_)
      -- the SAN's answer is the choice of this call
      cases hiqn : ch.iqn with
      | none =>
        have hact : hostAct h (.resolveIQN eid.lunIndex eid.targetIndex eid.lunName) ch =
            (none, h.later ch) := by
          simp [hostAct, hostAnswer, hiqn, Host.later]
        rw [hact]
        intro _
        refine ⟨⟨_, rfl⟩, fun tr' => ?_⟩
        change _ = Except.ok (ch.iqn.bind _)
        rw [hiqn]
        rfl
      | some iqn =>
        have hact : hostAct h (.resolveIQN eid.lunIndex eid.targetIndex eid.lunName) ch =
            (some iqn, h.later ch) := by
          simp [hostAct, hostAnswer, hiqn, Host.later]
        rw [hact]
        refine wp_run_bind.2 (wp_attempt.2 (wp_mono (wp_listSessions _) fun tr2 r2 h2 hl => ?_))
        cases r2 with
        | error msg =>
          intro hok
          cases (hl.ok hok.append.2.append.1 (by simp)).2
        | ok sessions =>
          refine wp_iff.2 fun tr3 r3 h3 hrun hok => ?_
          obtain ⟨⟨t2, rfl⟩, hsess⟩ := hl.ok hok.append.2.append.1 (by simp)
          rw [Except.ok.inj hsess] at hrun
          have hspec := wp_iff.1 (wp_identityOnTarget { h with now := t2 } iqn) _ _ _ hrun
          obtain ⟨⟨t3, rfl⟩, hres⟩ := hspec.2 hok.append.2.append.2
          refine ⟨⟨t3, rfl⟩, fun tr' => ?_⟩
          change r3 = Except.ok (ch.iqn.bind _)
          rw [hres, hiqn]
          rfl

theorem wp_resolveTeardown (h : Host) (req : UnstageRequest) :
    wp hostAct (resolveTeardown n req).run h fun tr r h' => Listings tr → Same h h' ∧ ∀ tr',
      r = .ok (teardown n req h (seenSource h (tr ++ tr') req.stagingTargetPath)
        (sanSays (tr ++ tr'))) := by
  refine wp_run_bind.2 (wp_perform.2 fun ch => ?_)
  have hact : hostAct h (.metaLoad req.volumeID) ch =
      (h.stages.lookup req.volumeID, h.later ch) := rfl
  rw [hact]
  unfold teardown
  cases h.stages.lookup req.volumeID with
  | some m => exact fun _ => ⟨⟨_, rfl⟩, fun tr' => rfl⟩
  | none =>
    refine wp_run_bind.2 (wp_mono (wp_reconstructFromMount _ req.stagingTargetPath) ?_)
    rintro tr1 r1 h1 ⟨e, rest, rfl, hc, hrest, hmount⟩
    -- the first question about the staging mount is the one asked here
    have hseen : ∀ (e0 : HostEv) (tr' : List HostEv), e0.call = .metaLoad req.volumeID →
        seenSource h (e0 :: e :: tr') req.stagingTargetPath =
          seenSource h [e] req.stagingTargetPath := by
      intro e0 tr' h0
      simp [seenSource, h0, hc]
    have hskip : ∀ (e0 : HostEv) (tr' : List HostEv), e0.call = .metaLoad req.volumeID →
        sanSays (e0 :: e :: (rest ++ tr')) = sanSays tr' := by
      intro e0 tr' h0
      refine sanSays_append (e0 :: e :: rest) tr' fun d hd => ?_
      rcases List.mem_cons.1 hd with rfl | hd
      · simp [h0, Cmd.asksSAN]
      · rcases List.mem_cons.1 hd with rfl | hd
        · simp [hc, Cmd.asksSAN]
        · rcases hrest d hd with hd | hd
          · simp [hd, Cmd.asksSAN]
          · simp [hd, Cmd.asksSAN]
    have hlist : ∀ (e0 : HostEv) (tr' : List HostEv), Listings ([e0] ++ (e :: rest ++ tr')) →
        Listings rest ∧ Listings tr' := by
      intro e0 tr' hok
      have hok' : Listings ([e0, e] ++ (rest ++ tr')) := hok
      exact hok'.append.2.append
    cases r1 with
    | error err =>
      intro hok
      cases (hmount (hlist _ [] (by simpa using hok)).1).2
    | ok id =>
      cases id with
      | some m =>
        intro hok
        obtain ⟨⟨t, rfl⟩, hres⟩ := hmount (hlist _ _ hok).1
        refine ⟨⟨t, rfl⟩, fun tr' => ?_⟩
        have hbind : (seenSource h [e] req.stagingTargetPath).bind (fromMount n h) = some m :=
          (Except.ok.inj hres).symm
        simp only [List.append_nil, List.cons_append, List.nil_append]
        rw [hseen _ _ rfl, hbind]
        rfl
      | none =>
        refine wp_iff.2 fun tr2 r2 h2 hrun hok => ?_
        obtain ⟨⟨t, rfl⟩, hres⟩ := hmount (hlist _ _ hok).1
        have hspec := wp_iff.1 (wp_reconstructFromSAN _ req.volumeID) _ _ _ hrun
        obtain ⟨⟨t2, rfl⟩, hsan⟩ := hspec (hlist _ _ hok).2
        refine ⟨⟨t2, rfl⟩, fun tr' => ?_⟩
        have hbind : (seenSource h [e] req.stagingTargetPath).bind (fromMount n h) = none :=
          (Except.ok.inj hres).symm
        simp only [List.cons_append, List.nil_append, List.append_assoc]
        rw [hseen _ _ rfl, hbind, hskip _ _ rfl]
        exact hsan tr'

/-! ### What is logged out -/

theorem looks_resolveTeardown (req : UnstageRequest) :
    (resolveTeardown n req).run.Calls (·.looks = true) := by
  have hsessions : listSessions.run.Calls (·.looks = true) := looks_of calls_listSessions rfl
  have hmembers : ∀ dev, (memberDevices dev).run.Calls (·.looks = true) := by
    intro dev
    unfold memberDevices
    split
    · refine calls_run_bind (calls_attempt (looks_of (calls_members (base dev)) rfl)) fun reply => ?_
      cases reply with
      | ok | error => trivial
    · trivial
  have htarget : ∀ iqn sessions, (identityOnTarget n iqn sessions).run.Calls (·.looks = true) := by
    intro iqn sessions
    unfold identityOnTarget
    dsimp only
    split
    · trivial
    · split
      · trivial
      · refine calls_run_bind ?_ fun _ => trivial
        unfold sessionWWID
        split
        · refine calls_run_bind (calls_attempt (looks_of (calls_mapWWID _) rfl)) fun reply => ?_
          cases reply with
          | ok | error => trivial
        · trivial
  have hmount : (reconstructFromMount n req.stagingTargetPath).run.Calls (·.looks = true) := by
    refine calls_run_bind (calls_attempt (looks_of (calls_sourceDevice _) rfl)) fun reply => ?_
    cases reply with
    | error msg => trivial
    | ok dev =>
      refine calls_run_bind (calls_attempt hsessions) fun reply => ?_
      cases reply with
      | error msg => trivial
      | ok sessions => exact calls_run_bind (hmembers dev) fun _ => trivial
  have hsan : (reconstructFromSAN n req.volumeID).run.Calls (·.looks = true) := by
    unfold reconstructFromSAN
    split
    · trivial
    · split
      · trivial
      · refine calls_run_bind (calls_perform rfl) fun reply => ?_
        cases reply with
        | none => trivial
        | some iqn =>
          refine calls_run_bind (calls_attempt hsessions) fun reply => ?_
          cases reply with
          | error msg => trivial
          | ok sessions => exact htarget iqn sessions
  refine calls_run_bind (calls_perform rfl) fun reply => ?_
  cases reply with
  | some m => trivial
  | none =>
    refine calls_run_bind hmount fun id => ?_
    cases id with
    | some m => trivial
    | none => exact hsan

theorem calls_resolveTeardown (req : UnstageRequest) :
    (resolveTeardown n req).run.Calls fun c => ∀ p iqn, c ≠ .logout p iqn := by
  refine (looks_resolveTeardown req).mono fun c hc p iqn heq => ?_
  rw [heq] at hc
  cases hc

theorem looks_deviceInUse (req : UnstageRequest) (id : StageMeta) :
    (deviceInUse req id).run.Calls (·.looks = true) := by
  refine calls_run_bind (looks_of calls_listMounts rfl) fun mounts => ?_
  split
  · trivial
  · split
    · exact calls_perform rfl
    · trivial

theorem looks_lastLUNOnTarget (iqn : String) (lun : Int) :
    (lastLUNOnTarget iqn lun).run.Calls (·.looks = true) := by
  refine calls_run_bind (calls_attempt (looks_of calls_listSessions rfl)) fun reply => ?_
  cases reply with
  | ok sessions => trivial
  | error msg => trivial

/-- No use of the device that the check of UnstageVolume knows of. -/
def Unused (req : UnstageRequest) (h : Host) (id : StageMeta) : Prop :=
  (∀ m ∈ h.mounts, usedByMount req id.wwid m = false) ∧
    (id.wwid ≠ "" → h.held (h.real (mapperPath id.wwid)) = false)

theorem wp_deviceInUse (h : Host) (req : UnstageRequest) (id : StageMeta) :
    wp hostAct (deviceInUse req id).run h fun tr r h' =>
      (∀ e ∈ tr, ∀ p iqn, e.call ≠ .logout p iqn) ∧ (Listings tr → Same h h' ∧
        ∃ used, r = .ok used ∧ (used = false ↔ Unused req h id)) := by
  refine wp_run_bind.2 (wp_mono (reads_listMounts h) fun tr1 r1 h1 hl => ?_)
  have hcalls : ∀ e ∈ tr1, ∀ p iqn, e.call ≠ .logout p iqn := by
    obtain ⟨-, e, rfl, hc, -⟩ := hl
    simp [hc]
  cases r1 with
  | error msg =>
    refine ⟨hcalls, fun hok => ?_⟩
    cases (hl.ok hok (by simp)).2
  | ok mounts =>
    have hany : Listings tr1 → (mounts.any (usedByMount req id.wwid) = true ↔
        ¬ ∀ m ∈ h.mounts, usedByMount req id.wwid m = false) := by
      intro hok
      rw [Except.ok.inj (hl.ok hok (by simp)).2]
      simp
    change wp hostAct (ExceptT.run (if mounts.any (usedByMount req id.wwid) then _ else _)) _ _
    split
    · next hused =>
      refine wp_run_pure.2 ?_
      rw [List.append_nil]
      refine ⟨hcalls, fun hok => ⟨hl.1, true, rfl, ?_⟩⟩
      exact iff_of_false Bool.noConfusion fun hun => (hany hok).1 hused hun.1
    · next hfree =>
      have hmounts : Listings tr1 → ∀ m ∈ h.mounts, usedByMount req id.wwid m = false :=
        fun hok => not_not.1 fun hno => hfree ((hany hok).2 hno)
      split
      · next hw =>
        refine wp_perform.2 fun ch => ⟨?_, fun hok => ?_⟩
        · intro e he
          rcases mem_snoc.1 he with he | rfl
          · exact hcalls e he
          · simp
        · obtain ⟨t, rfl⟩ := hl.1
          refine ⟨⟨_, rfl⟩, _, rfl, ?_⟩
          exact ⟨fun h => ⟨hmounts hok.append.1, fun _ => h⟩, fun hun => hun.2 hw⟩
      · next hw =>
        refine wp_run_pure.2 ?_
        rw [List.append_nil]
        exact ⟨hcalls, fun hok => ⟨hl.1, false, rfl,
          iff_of_true rfl ⟨hmounts hok, fun h => absurd h hw⟩⟩⟩

theorem wp_refuseInUse (h : Host) (req : UnstageRequest) (id : StageMeta) :
    wp hostAct (refuseInUse n req (some id)).run h fun tr r h' =>
      (∀ e ∈ tr, ∀ p iqn, e.call ≠ .logout p iqn) ∧
        (Listings tr → Same h h' ∧ (r = .ok () ↔ Unused req h id)) := by
  refine wp_run_bind.2 (wp_attempt.2 (wp_mono (wp_deviceInUse h req id) fun tr r h' hp => ?_))
  obtain ⟨hcalls, hused⟩ := hp
  rcases r with msg | (_ | _)
  · refine wp_run_pure.2 ?_
    rw [List.append_nil]
    refine ⟨hcalls, fun hok => ?_⟩
    obtain ⟨-, used, hres, -⟩ := hused hok
    cases hres
  · refine wp_run_pure.2 ?_
    rw [List.append_nil]
    refine ⟨hcalls, fun hok => ?_⟩
    obtain ⟨hsame, used, hres, hiff⟩ := hused hok
    exact ⟨hsame, iff_of_true rfl (hiff.1 (Except.ok.inj hres).symm)⟩
  · refine wp_run_throw.2 ?_
    rw [List.append_nil]
    refine ⟨hcalls, fun hok => ?_⟩
    obtain ⟨hsame, used, hres, hiff⟩ := hused hok
    refine ⟨hsame, iff_of_false (fun heq => nomatch heq) fun hun => ?_⟩
    rw [← Except.ok.inj hres] at hiff
    cases hiff.2 hun

/-- UnstageVolume comes to a logout through each of its steps. -/
theorem runs_unstage_logout {req : UnstageRequest} {h h' : Host} {tr : List HostEv}
    {r : Except Error Unit} (hrun : Runs hostAct (unstageVolume n req).run h tr r h')
    {e : HostEv} (he : e ∈ tr) {p iqn : String} (hc : e.call = .logout p iqn) :
    ∃ id tr1 h1 tr2 h2 tr3 h3 tr4, tr = tr1 ++ (tr2 ++ (tr3 ++ tr4)) ∧
      Runs hostAct (resolveTeardown n req).run h tr1 (.ok (some id)) h1 ∧
      Runs hostAct (refuseInUse n req (some id)).run h1 tr2 (.ok ()) h2 ∧
      Runs hostAct (unmount req.stagingTargetPath).run h2 tr3 (.ok ()) h3 ∧
      Runs hostAct (detach n req (some id)).run h3 tr4 r h' ∧ e ∈ tr4 := by
  have hun : (onError (fun e => internal ("unmount staging: " ++ e))
      (unmount req.stagingTargetPath) : NodeOp Unit).run.Calls fun c => ∀ p iqn, c ≠ .logout p iqn := by
    refine calls_onError ((calls_unmount _).mono ?_)
    rintro c (rfl | rfl)
    · simp
    · simp
  rcases runs_run_bind.1 hrun with ⟨err, -, hfail⟩ | ⟨tr1, id, h1, tr2, rfl, hid, hrest⟩
  · exact absurd hc (hfail.calls (calls_resolveTeardown req) e he p iqn)
  have he2 : e ∈ tr2 := (List.mem_append.1 he).resolve_left fun he1 =>
    hid.calls (calls_resolveTeardown req) e he1 p iqn hc
  cases id with
  | none =>
    have hrest : Runs hostAct (onError (fun e => internal ("unmount staging: " ++ e))
        (unmount req.stagingTargetPath) >>= fun _ => detach n req none).run h1 tr2 r h' := hrest
    exact absurd hc (hrest.calls (calls_run_bind hun fun _ => trivial) e he2 p iqn)
  | some id =>
    rcases runs_run_bind.1 hrest with ⟨err, -, hfail⟩ | ⟨tr3, u, h3, tr4, rfl, hpass, hrest⟩
    · exact absurd hc ((wp_iff.1 (wp_refuseInUse _ req id) _ _ _ hfail).1 e he2 p iqn)
    have he4 := (List.mem_append.1 he2).resolve_left fun he3 =>
      (wp_iff.1 (wp_refuseInUse _ req id) _ _ _ hpass).1 e he3 p iqn hc
    rcases runs_run_bind.1 hrest with ⟨err, -, hfail⟩ | ⟨tr5, u', h5, tr6, rfl, humount, hdetach⟩
    · exact absurd hc (hfail.calls hun e he4 p iqn)
    have he6 := (List.mem_append.1 he4).resolve_left fun he5 => humount.calls hun e he5 p iqn hc
    exact ⟨id, tr1, h1, tr3, h3, tr5, h5, tr6, rfl, hid, hpass, runs_onError_ok humount, hdetach, he6⟩

end

end NomadCsi.Qnap
