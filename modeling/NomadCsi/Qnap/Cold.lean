import NomadCsi.Qnap.Teardown

/-!
# The teardown identity after a restart

A restart empties the stage cache. `resolveTeardown` then reads the identity of a volume off
the staging mount or, with the SAN's word for the target, off the sessions to it. It takes
LUN number and WWID from the last session it lists, and of a mount only the paths that its
source names.
-/

namespace NomadCsi.Qnap

open Lib Lib.Go Driver Node

def restarted (h : Host) : Host := { h with stages := ∅ }

/-- No command failed, and the SAN named this target when it was asked. -/
structure Responsive (iqn : String) (tr : List HostEv) : Prop where
  fail : ∀ e ∈ tr, e.choice.fail = none
  target : ∀ e ∈ tr, e.call.asksSAN = true → e.choice.iqn = some iqn

/-! ### What the tables tell -/

def mountSource (h : Host) (path : String) : Option String :=
  ((h.mountOf path).map fun m => trimSpace m.source).filter (· ≠ "")

def namedWWID (source : String) : String :=
  if hasPrefix source "/dev/mapper/" then base source else ""

def pathDevices (h : Host) (source : String) : List String :=
  if hasPrefix source "/dev/mapper/" then
    ((h.paths.filter (·.2 = base source)).map (·.1)).map base
  else [base source]

def sessionsTo (n : NodePlugin) (h : Host) (iqn : String) : List Session :=
  h.sessions.filter fun s => s.iqn = iqn ∧ portalOwned s.portal (ourPortals n.cfg)

def sessionMap (n : NodePlugin) (h : Host) (s : Session) : String :=
  if n.useMultipath ∧ s.device ≠ "" then wwidOf h.paths s.device else ""

/-- The source printed for the staging path, if it leads to sessions of the plugin. -/
def Anchor (n : NodePlugin) (h : Host) (path source : String) : Prop :=
  mountSource h path = some source ∧
    ∃ s, (sessionsOn n h (pathDevices h source)).getLast? = some s ∧ s.iqn ≠ ""

def AtPortals (m : StageMeta) (l : List Session) : Prop :=
  ∀ p, (∃ s ∈ l, normalizePortal s.portal = p) ↔ ∃ q ∈ m.portals, normalizePortal q = p

/-- The sessions to the target show what is recorded in `m`. -/
def ToldByTarget (n : NodePlugin) (h : Host) (m : StageMeta) : Prop :=
  AtPortals m (sessionsTo n h m.iqn) ∧ ∃ s, (sessionsTo n h m.iqn).getLast? = some s ∧
    0 ≤ s.lun ∧ s.lun = m.lunNumber ∧ sessionMap n h s = m.wwid

/-- The tables tell of the volume what is recorded in `m`. -/
structure Tells (n : NodePlugin) (h : Host) (req : StageRequest) (m : StageMeta) : Prop where
  /-- By the staging mount, if its source leads to sessions. -/
  mount : ∀ source, Anchor n h req.stagingTargetPath source → namedWWID source = m.wwid ∧
    AtPortals m (sessionsOn n h (pathDevices h source)) ∧
    ∃ s, (sessionsOn n h (pathDevices h source)).getLast? = some s ∧ s.iqn = m.iqn ∧
      s.lun = m.lunNumber
  /-- By the sessions to the target otherwise. -/
  target : (∀ source, ¬ Anchor n h req.stagingTargetPath source) →
    (parseExternalID req.volumeID).isOk = true ∧ ToldByTarget n h m

/-- The same target, LUN number and map, and the recorded portals in their normal form. -/
structure SameIdentity (m m' : StageMeta) : Prop where
  iqn : m'.iqn = m.iqn
  lun : m'.lunNumber = m.lunNumber
  wwid : m'.wwid = m.wwid
  portals : ∀ p, p ∈ portalList m' ↔ ∃ q ∈ portalList m, normalizePortal q = p

/-! ### What a cold teardown finds -/

theorem mem_sortedKeys {l : List String} {p : String} : p ∈ sortedKeys l ↔ p ∈ l := by
  unfold sortedKeys
  rw [List.mem_mergeSort, List.mem_dedup]

variable {m : StageMeta}

theorem portalList_of_ne (h : m.portals ≠ []) : portalList m = m.portals := by
  unfold portalList
  rw [if_pos h]

/-- The identity rebuilt from sessions is the recorded one iff the sessions say so. -/
theorem sameIdentity_iff {l : List Session} {s : Session} (hm : m.portals ≠ [])
    (hl : l.getLast? = some s) (iqn wwid : String) :
    SameIdentity m { iqn := iqn, lunNumber := s.lun, wwid := wwid,
                     portals := sortedKeys (l.map fun s => normalizePortal s.portal) } ↔
      iqn = m.iqn ∧ s.lun = m.lunNumber ∧ wwid = m.wwid ∧ AtPortals m l := by
  have hkeys : sortedKeys (l.map fun s => normalizePortal s.portal) ≠ [] :=
    List.ne_nil_of_mem (mem_sortedKeys.2 (List.mem_map_of_mem (List.mem_of_getLast? hl)))
  have hports : ∀ p, p ∈ sortedKeys (l.map fun s => normalizePortal s.portal) ↔
      ∃ s ∈ l, normalizePortal s.portal = p := fun p => by
    rw [mem_sortedKeys, List.mem_map]
  constructor
  · rintro ⟨h1, h2, h3, h4⟩
    refine ⟨h1, h2, h3, fun p => ?_⟩
    have hp := h4 p
    rw [portalList_of_ne hm, portalList_of_ne hkeys] at hp
    rw [← hports, hp]
  · rintro ⟨h1, h2, h3, h4⟩
    refine ⟨h1, h2, h3, fun p => ?_⟩
    rw [portalList_of_ne hm, portalList_of_ne hkeys]
    exact (hports p).trans (h4 p)

theorem fromMount_eq (n : NodePlugin) (h : Host) (source : String) :
    fromMount n h source =
      identityOf (sessionsOn n h (pathDevices h source)) (namedWWID source) := by
  unfold fromMount pathDevices namedWWID
  split
  · rfl
  · rfl

variable {n : NodePlugin} {h : Host} {tr : List HostEv}

theorem cold_result {req : UnstageRequest} {h' : Host} {r : Except Error (Option StageMeta)}
    {iqn : String} (hrun : Runs hostAct (resolveTeardown n req).run h tr r h')
    (hans : Responsive iqn tr) :
    r = .ok (teardown n req h (mountSource h req.stagingTargetPath) (some iqn)) := by
  -- were the mount or the SAN not asked, the result would be the same with their answers
  have hspec := (wp_iff.1 (wp_resolveTeardown h req) _ _ _ hrun fun e he _ => hans.fail e he).2
    [⟨h, .findmntSource req.stagingTargetPath, {}, .error ⟨0, ""⟩⟩,
      ⟨h, .resolveIQN 0 0 "", { iqn := some iqn }, none⟩]
  have hsource : ∀ e : HostEv, e.call = .findmntSource req.stagingTargetPath →
      e.choice.fail = none → ∀ tr', seenSource h (tr ++ e :: tr') req.stagingTargetPath =
        mountSource h req.stagingTargetPath := by
    intro e hc hf tr'
    have hfind : ∃ d, (tr ++ e :: tr').find? (·.call = .findmntSource req.stagingTargetPath) =
        some d ∧ d.choice.fail = none := by
      rw [List.find?_append, List.find?_cons_of_pos (by simp [hc])]
      cases hd : tr.find? (·.call = .findmntSource req.stagingTargetPath) with
      | none => exact ⟨e, rfl, hf⟩
      | some d => exact ⟨d, rfl, hans.fail d (List.mem_of_find?_eq_some hd)⟩
    obtain ⟨d, hd, hdf⟩ := hfind
    unfold seenSource mountSource
    rw [hd]
    exact if_pos hdf
  have hnamed : ∀ e e' : HostEv, e.call.asksSAN = false → e'.call.asksSAN = true →
      e'.choice.iqn = some iqn → sanSays (tr ++ [e, e']) = some iqn := by
    intro e e' hc hc' hi
    unfold sanSays
    rw [List.find?_append, List.find?_cons_of_neg (by simp [hc]),
      List.find?_cons_of_pos (by simp [hc'])]
    cases hd : tr.find? (·.call.asksSAN) with
    | none => exact hi
    | some d =>
      refine hans.target d (List.mem_of_find?_eq_some hd) ?_
      simpa using List.find?_some hd
  rw [hsource _ rfl rfl, hnamed _ _ rfl rfl rfl] at hspec
  exact hspec

theorem fromTarget_iff (hm : m.portals ≠ []) :
    (∃ m', fromTarget n h m.iqn = some m' ∧ SameIdentity m m') ↔ ToldByTarget n h m := by
  have hhits : h.sessions.filter (fun s => s.iqn = m.iqn ∧ portalOwned s.portal (ourPortals n.cfg)) =
      sessionsTo n h m.iqn := rfl
  unfold fromTarget ToldByTarget
  rw [hhits]
  cases hlast : (sessionsTo n h m.iqn).getLast? with
  | none => simp [hlast]
  | some s =>
    by_cases hlun : s.lun < 0
    · simp only [hlast, if_pos hlun, reduceCtorEq, false_and, exists_false, Option.some.injEq,
        exists_eq_left', false_iff]
      rintro ⟨-, hpos, -⟩
      omega
    · simp only [hlast, if_neg hlun, Option.some.injEq, exists_eq_left', sameIdentity_iff hm hlast,
        true_and]
      constructor
      · rintro ⟨h1, h2, h3⟩
        exact ⟨h3, Int.not_lt.1 hlun, h1, h2⟩
      · rintro ⟨h3, -, h1, h2⟩
        exact ⟨h1, h2, h3⟩

/-- The rebuilt identity is the recorded one iff the tables tell it. -/
theorem teardown_iff_tells {req : StageRequest} (hsan : n.hasSAN = true) (hm : m.portals ≠ []) :
    (∃ m', teardown n ⟨req.volumeID, req.stagingTargetPath⟩ (restarted h)
        (mountSource h req.stagingTargetPath) (some m.iqn) = some m' ∧ SameIdentity m m') ↔
      Tells n h req m := by
  have hcold : teardown n ⟨req.volumeID, req.stagingTargetPath⟩ (restarted h)
      (mountSource h req.stagingTargetPath) (some m.iqn) =
      ((mountSource h req.stagingTargetPath).bind (fromMount n h)).or
        (fromSAN n h req.volumeID (some m.iqn)) := rfl
  rw [hcold]
  by_cases hanchor : ∃ source, Anchor n h req.stagingTargetPath source
  · obtain ⟨source, hsrc, s, hlast, hiqn⟩ := hanchor
    have hfound : (mountSource h req.stagingTargetPath).bind (fromMount n h) =
        some { iqn := s.iqn, lunNumber := s.lun, wwid := namedWWID source,
               portals := sortedKeys ((sessionsOn n h (pathDevices h source)).map
                 fun s => normalizePortal s.portal) } := by
      rw [hsrc, Option.bind_some, fromMount_eq, identityOf, hlast]
      exact if_neg hiqn
    rw [hfound, Option.some_or]
    simp only [Option.some.injEq, exists_eq_left', sameIdentity_iff hm hlast]
    constructor
    · rintro ⟨h1, h2, h3, h4⟩
      refine ⟨?_, fun hno => absurd ⟨hsrc, s, hlast, hiqn⟩ (hno source)⟩
      rintro source' ⟨hsrc', -⟩
      obtain rfl := Option.some.inj (hsrc.symm.trans hsrc')
      exact ⟨h3, h4, s, hlast, h1, h2⟩
    · intro ht
      obtain ⟨h3, h4, s', hlast', h1, h2⟩ := ht.mount source ⟨hsrc, s, hlast, hiqn⟩
      obtain rfl := Option.some.inj (hlast.symm.trans hlast')
      exact ⟨h1, h2, h3, h4⟩
  · have hnone : (mountSource h req.stagingTargetPath).bind (fromMount n h) = none := by
      cases hsrc : mountSource h req.stagingTargetPath with
      | none => rfl
      | some source =>
        rw [Option.bind_some, fromMount_eq, identityOf]
        cases hlast : (sessionsOn n h (pathDevices h source)).getLast? with
        | none => rfl
        | some s =>
          by_cases hiqn : s.iqn = ""
          · exact if_pos hiqn
          · exact absurd ⟨source, hsrc, s, hlast, hiqn⟩ hanchor
    have hno := not_exists.1 hanchor
    have htells : Tells n h req m ↔ (parseExternalID req.volumeID).isOk = true ∧ ToldByTarget n h m :=
      ⟨fun ht => ht.target hno, fun ht => ⟨fun source ha => absurd ha (hno source), fun _ => ht⟩⟩
    rw [hnone, Option.none_or, htells]
    unfold fromSAN
    rw [if_neg (not_not.2 hsan)]
    cases parseExternalID req.volumeID with
    | error e =>
      refine iff_of_false ?_ fun h => ?_
      · rintro ⟨m', hm', -⟩
        cases hm'
      · cases h.1
    | ok eid =>
      change (∃ m', fromTarget n h m.iqn = some m' ∧ _) ↔ _
      rw [and_iff_right (show (Except.ok eid : Except Error ExternalID).isOk = true from rfl)]
      exact fromTarget_iff hm

/-! ### After a stage -/

theorem attach_ok {volumeID : String} {vctx : StrMap} {h' : Host} {dev : String}
    (hrun : Runs hostAct (attach n volumeID vctx).run h tr (.ok (dev, m)) h') (tr' : List HostEv) :
    m.portals ≠ [] ∧ ∃ ps, attachIdentity n volumeID vctx (sanSays (tr ++ tr')) =
      .ok (ps, m.iqn, m.lunNumber) := by
  obtain ⟨tr1, id, h1, tr2, rfl, hres, hrest⟩ := runs_run_bind_ok.1 hrun
  obtain ⟨ps, iqn, lun⟩ := id
  obtain ⟨-, hval, hasked⟩ := wp_iff.1 (wp_resolveAttachIdentity h) _ _ _ hres
  have hj := Joined.of_neutral hres (calls_resolveAttachIdentity n volumeID vctx) iqn
  obtain ⟨-, hne, rfl, rfl⟩ := wp_iff.1 (attached_portals n hj ps) _ _ _ hrest
  refine ⟨hne, ps, ?_⟩
  rw [List.append_assoc]
  exact attachIdentity_append hasked hval.symm _

theorem stage_saved {req : StageRequest} {h' : Host}
    (hrun : Runs hostAct (stageVolume n req).run h tr (.ok ()) h') :
    ∃ m ps, h'.stages.lookup req.volumeID = some m ∧ m.portals ≠ [] ∧
      attachIdentity n req.volumeID req.volumeContext (sanSays tr) =
        .ok (ps, m.iqn, m.lunNumber) := by
  obtain ⟨tr1, ⟨dev, m⟩, h1, tr2, rfl, hatt, hrest⟩ := runs_run_bind_ok.1 hrun
  obtain ⟨tr3, u, h2, tr4, rfl, hsave, hdev⟩ := runs_run_bind_ok.1 hrest
  obtain ⟨ch, tr', rfl, hret⟩ := runs_call.1 hsave
  obtain ⟨rfl, -, rfl⟩ := runs_ret.1 hret
  obtain ⟨hne, ps, hid⟩ := attach_ok hatt _
  refine ⟨m, ps, ?_, hne, hid⟩
  rw [stages_of_runs hdev ((calm_stageDevice req dev).mono fun _ hc => hc.2)]
  exact AList.lookup_insert _

/-- After a successful StageVolume and a restart, the teardown works with the identity that the
cache held iff the tables of the host tell it. -/
theorem cold_teardown_iff {n : NodePlugin} {req : StageRequest} {h h' : Host} {tr : List HostEv}
    (hsan : n.hasSAN = true) (hstage : Runs hostAct (stageVolume n req).run h tr (.ok ()) h') :
    ∃ m ps, h'.stages.lookup req.volumeID = some m ∧
      attachIdentity n req.volumeID req.volumeContext (sanSays tr) =
        .ok (ps, m.iqn, m.lunNumber) ∧
      ∀ tr' r h'', Runs hostAct (resolveTeardown n ⟨req.volumeID, req.stagingTargetPath⟩).run
          (restarted h') tr' r h'' → Responsive m.iqn tr' →
        ((∃ m', r = .ok (some m') ∧ SameIdentity m m') ↔ Tells n h' req m) := by
  obtain ⟨m, ps, hm, hne, hid⟩ := stage_saved hstage
  refine ⟨m, ps, hm, hid, fun tr' r h'' hcold hresp => ?_⟩
  rw [cold_result hcold hresp, ← teardown_iff_tells hsan hne]
  simp only [Except.ok.injEq]
  exact Iff.rfl

theorem exists_responsive (iqn : String) {α : Type} (p : Prog Cmd Cmd.Reply α) (h : Host) :
    ∃ tr r h', Runs hostAct p h tr r h' ∧ Responsive iqn tr := by
  obtain ⟨tr, hd, hrun⟩ := runs_eval hostAct { iqn := some iqn } p h
  exact ⟨tr, _, _, hrun, fun e he => by rw [hd e he], fun e he _ => by rw [hd e he]⟩

def onePortal : StrMap :=
  ((AList.insert "portal" "10.0.0.1" ∅).insert "iqn" "iqn.a").insert "lun" "0"

/-- Its stage as a filesystem volume with a target of its own, and as a block volume on a shared
one. -/
def mountedStage : StageRequest :=
  ⟨"qnap/v1/1/5/t/v1", "/stage", ⟨.mount, "ext4", []⟩, onePortal⟩

def sharedStage : StageRequest := ⟨"qnap/v1/1/5/s/v1", "/stage", ⟨.block, "", []⟩, onePortal⟩

/-- A filesystem volume over the map `w1`, whose mount is listed with the map. -/
theorem cold_teardown_mapper : ∃ tr h' tr' r h'' m m',
    Runs hostAct (stageVolume sanNode mountedStage).run (.of [] [("sdb", "w1")] [] 0) tr
      (.ok ()) h' ∧
    h'.stages.lookup "qnap/v1/1/5/t/v1" = some m ∧
    Runs hostAct (resolveTeardown sanNode ⟨"qnap/v1/1/5/t/v1", "/stage"⟩).run (restarted h') tr'
      r h'' ∧
    r = .ok (some m') ∧ SameIdentity m m' := by
  obtain ⟨tr, u, h', hstage, hsrc, hhits, hsaved⟩ := runs_ok_of_exec hostAct
    (stageVolume sanNode mountedStage).run (.of [] [("sdb", "w1")] [] 0)
    [{}, { luns := [(0, "/dev/sdb")] }, { device := "/dev/sdb" }, {}, { appears := some "/dev/dm-3" },
      {}, {}, {}, {}, {}, { written := some "/dev/mapper/w1" }]
    (fun x => mountSource x.2.2 "/stage" = some "/dev/mapper/w1" ∧
      sessionsOn sanNode x.2.2 (pathDevices x.2.2 "/dev/mapper/w1") =
        [⟨"iqn.a", "10.0.0.1", 0, "/dev/sdb"⟩] ∧
      x.2.2.stages.lookup "qnap/v1/1/5/t/v1" =
        some { portals := ["10.0.0.1"], iqn := "iqn.a", lunNumber := 0, wwid := "w1" }) (by decide)
  obtain ⟨m, ps, hm, -, hiff⟩ := cold_teardown_iff rfl hstage
  obtain rfl := Option.some.inj (hsaved.symm.trans hm)
  obtain ⟨tr', r, h'', hcold, hresp⟩ := exists_responsive "iqn.a"
    (resolveTeardown sanNode ⟨"qnap/v1/1/5/t/v1", "/stage"⟩).run (restarted h')
  have htells : Tells sanNode h' mountedStage
      { portals := ["10.0.0.1"], iqn := "iqn.a", lunNumber := 0, wwid := "w1" } := by
    refine ⟨?_, fun hno => absurd ⟨hsrc, _, by rw [hhits]; rfl, by decide⟩ (hno "/dev/mapper/w1")⟩
    rintro source ⟨hsrc', -⟩
    obtain rfl := Option.some.inj (hsrc.symm.trans hsrc')
    rw [hhits]
    refine ⟨by decide, fun p => ?_, _, rfl, rfl, rfl⟩
    simp
  obtain ⟨m', hr, hsame⟩ := (hiff tr' r h'' hcold hresp).2 htells
  exact ⟨tr, h', tr', r, h'', _, m', hstage, hsaved, hcold, hr, hsame⟩

/-- A block volume on a shared target: after a restart the LUN number is that of the last LUN which
the session list shows for the target. -/
theorem cold_teardown_other_lun : ¬ ∀ (n : NodePlugin) (req : StageRequest) (h h' h'' : Host)
    (tr tr' : List HostEv) (r : Except Error (Option StageMeta)) (m : StageMeta),
      n.hasSAN = true → Runs hostAct (stageVolume n req).run h tr (.ok ()) h' →
      h'.stages.lookup req.volumeID = some m →
      Runs hostAct (resolveTeardown n ⟨req.volumeID, req.stagingTargetPath⟩).run
        (restarted h') tr' r h'' → Responsive m.iqn tr' →
      ∃ m', r = .ok (some m') ∧ SameIdentity m m' := by
  intro hall
  obtain ⟨tr, u, h', hstage, hsrc, hhits, hsaved⟩ := runs_ok_of_exec hostAct
    (stageVolume { NodePlugin.single with hasSAN := true } sharedStage).run (.of [] [] [] 0)
    [{}, { luns := [(0, "/dev/sdb"), (1, "/dev/sdc")] }, { device := "/dev/sdb" }, {}]
    (fun x => mountSource x.2.2 "/stage" = none ∧
      sessionsTo { NodePlugin.single with hasSAN := true } x.2.2 "iqn.a" =
        [⟨"iqn.a", "10.0.0.1", 0, "/dev/sdb"⟩, ⟨"iqn.a", "10.0.0.1", 1, "/dev/sdc"⟩] ∧
      x.2.2.stages.lookup "qnap/v1/1/5/s/v1" =
        some { portals := ["10.0.0.1"], iqn := "iqn.a", lunNumber := 0 }) (by decide)
  obtain ⟨tr', r, h'', hcold, hresp⟩ := exists_responsive "iqn.a"
    (resolveTeardown { NodePlugin.single with hasSAN := true } ⟨"qnap/v1/1/5/s/v1", "/stage"⟩).run
    (restarted h')
  obtain ⟨m', hr, hsame⟩ := hall _ _ _ _ _ _ _ _ _ rfl hstage hsaved hcold hresp
  rw [cold_result hcold hresp] at hr
  have htells : Tells { NodePlugin.single with hasSAN := true } h' sharedStage
      { portals := ["10.0.0.1"], iqn := "iqn.a", lunNumber := 0 } :=
    (teardown_iff_tells rfl (by simp)).1 ⟨m', Except.ok.inj hr, hsame⟩
  obtain ⟨-, -, s, hlast, -, hlun, -⟩ := htells.target fun source ha => by
    have := hsrc.symm.trans ha.1
    cases this
  rw [hhits] at hlast
  obtain rfl := Option.some.inj hlast
  cases hlun

end NomadCsi.Qnap
