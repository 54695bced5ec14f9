import NomadCsi.Qnap.Cold
import NomadCsi.Qnap.Refcount

/-!
# Devices in use

UnstageVolume logs a target out only if it knows of no use of the device, the staging path
could be unmounted and the session list shows no other LUN of the target (`Detachable`), and
if all this is so some run of it does (`exists_logsOut`). What it knows of a mount is the
mapper path.
-/

namespace NomadCsi.Qnap

open Lib Lib.Go Driver Node

/-- A mount source names a path: as it is, as what the path resolves to, or as another name of
it. -/
def NamedBy (h : Host) (source path : String) : Prop :=
  source = path ∨ h.link path = some source ∨ h.real source = h.real path

/-- A mount source is a device, directly or through its multipath map. -/
def OnDevice (h : Host) (source device : String) : Prop :=
  NamedBy h source device ∨ wwidOf h.paths device ≠ "" ∧
    NamedBy h source (mapperPath (wwidOf h.paths device))

/-- A mount source is a device of a LUN of the target. -/
def OnTarget (h : Host) (iqn source : String) : Prop :=
  ∃ x ∈ h.sessions, x.iqn = iqn ∧ x.device ≠ "" ∧ OnDevice h source x.device

/-- UnstageVolume, with this identity of the volume, may come to log its target out. -/
structure Detachable (req : UnstageRequest) (h : Host) (id : StageMeta) : Prop where
  named : id.iqn ≠ ""
  portals : portalList id ≠ []
  /-- No other LUN of the target is shown here. -/
  last : OnlyLUN h id.iqn id.lunNumber
  /-- The device is not seen in use: no other mount has the staging path or the mapper path of the
  WWID for its source, and the map is not held open. -/
  unused : Unused req h id
  /-- `findmnt` does not show a staging mount that is not there. -/
  unmounts : h.showsMounted req.stagingTargetPath = true → h.mountsAt req.stagingTargetPath ≠ []

section

variable {n : NodePlugin} {req : UnstageRequest} {h h' : Host} {tr : List HostEv} {id : StageMeta}

theorem neutral_unmount (target : String) : (unmount target).run.Calls NeutralCmd := by
  refine (calls_unmount target).mono ?_
  rintro c (rfl | rfl)
  · simp [NeutralCmd]
  · simp [NeutralCmd]

theorem neutral_flushMap (n : NodePlugin) (wwid : String) : (flushMap n wwid).run.Calls NeutralCmd := by
  refine (calls_flushMap n wwid).mono ?_
  rintro c rfl
  simp [NeutralCmd]

theorem calls_logoutTarget (id : StageMeta) :
    (logoutTarget id).run.Calls fun c => ∀ p iqn, c = .logout p iqn → iqn = id.iqn := by
  unfold logoutTarget
  split
  · trivial
  · refine calls_run_bind ((looks_lastLUNOnTarget _ _).mono ?_) fun last => ?_
    · rintro c hc p iqn rfl
      cases hc
    · cases last with
      | false => trivial
      | true =>
        refine (calls_logoutEach id.iqn (portalList id)).mono ?_
        rintro c ⟨q, rfl⟩ p iqn hc
        injection hc with _ hi
        exact hi.symm

theorem runs_flushMap_ok {wwid : String} {r : Except Error Unit}
    (hrun : Runs hostAct (flushMap n wwid).run h tr r h') : r = .ok () := by
  unfold flushMap at hrun
  split at hrun
  · rcases runs_run_bind.1 hrun with ⟨_, -, hfail⟩ | ⟨_, _, _, _, -, -, hret⟩
    · obtain ⟨_, heq, -⟩ := runs_attempt.1 hfail
      cases heq
    · exact (runs_ret.1 hret).2.1
  · exact (runs_ret.1 hrun).2.1

/-- What a detach logs out, and when it does. -/
theorem logsOut_detach_iff {r : Except Error Unit}
    (hrun : Runs hostAct (detach n req (some id)).run h tr r h') (hok : Listings tr) :
    (∀ e ∈ tr, ∀ p iqn, e.call = .logout p iqn → iqn = id.iqn) ∧
    (LogsOut id.iqn tr ↔ id.iqn ≠ "" ∧ portalList id ≠ [] ∧ OnlyLUN h id.iqn id.lunNumber) := by
  rcases runs_run_bind.1 hrun with ⟨err, -, hfail⟩ | ⟨tr1, u, h1, tr2, rfl, hflush, hrest⟩
  · cases runs_flushMap_ok hfail
  have hfl := neutral_flushMap n id.wwid
  rw [← (Kept.of_runs hflush hfl).onlyLUN]
  -- the logouts are those of `logoutTarget`
  obtain ⟨tr3, r3, h3, hlogout, hsub, hmem⟩ : ∃ tr3 r3 h3,
      Runs hostAct (logoutTarget id).run h1 tr3 r3 h3 ∧ (∀ e ∈ tr3, e ∈ tr2) ∧
      ∀ e ∈ tr1 ++ tr2, ∀ p iqn, e.call = .logout p iqn → e ∈ tr3 := by
    rcases runs_run_bind.1 hrest with ⟨err, -, hfail⟩ | ⟨tr3, u', h3, tr4, rfl, hlogout, hforget⟩
    · refine ⟨tr2, _, _, hfail, fun _ he => he, fun e he p iqn hc => ?_⟩
      exact (List.mem_append.1 he).resolve_left fun he => (hflush.calls hfl e he).2.1 p iqn hc
    · refine ⟨tr3, _, _, hlogout, fun e he => List.mem_append_left _ he, fun e he p iqn hc => ?_⟩
      have he := (List.mem_append.1 he).resolve_left fun he => (hflush.calls hfl e he).2.1 p iqn hc
      refine (List.mem_append.1 he).resolve_right fun he => ?_
      rw [hforget.calls (K := (· = .metaDelete req.volumeID)) (calls_perform rfl) e he] at hc
      cases hc
  constructor
  · intro e he p iqn hc
    exact hlogout.calls (calls_logoutTarget id) e (hmem e he p iqn hc) p iqn hc
  · rw [← logsOut_logoutTarget_iff (fun e he => hok.append.2 e (hsub e he)) hlogout]
    constructor
    · rintro ⟨e, he, p, hc⟩
      exact ⟨e, hmem e he p id.iqn hc, p, hc⟩
    · rintro ⟨e, he, hc⟩
      exact ⟨e, List.mem_append_right _ (hsub e he), hc⟩

theorem detachable_of_logout {r : Except Error Unit} {e : HostEv} {p iqn : String}
    (hrun : Runs hostAct (unstageVolume n req).run h tr r h') (hok : Listings tr) (he : e ∈ tr)
    (hc : e.call = .logout p iqn) : ∃ id,
      teardown n req h (seenSource h tr req.stagingTargetPath) (sanSays tr) = some id ∧
      id.iqn = iqn ∧ Detachable req h id := by
  obtain ⟨id, tr1, h1, tr2, h2, tr3, h3, tr4, rfl, hid, hpass, humount, hdetach, he4⟩ :=
    runs_unstage_logout hrun he hc
  obtain ⟨⟨t, rfl⟩, hres⟩ := wp_iff.1 (wp_resolveTeardown h req) _ _ _ hid hok.append.1
  obtain ⟨⟨t', rfl⟩, hun⟩ := (wp_iff.1 (wp_refuseInUse _ req id) _ _ _ hpass).2
    hok.append.2.append.1
  have hkept : Kept h h3 := by
    have hwait : Kept h { h with now := t' } := ⟨rfl, rfl⟩
    exact hwait.trans (.of_runs humount (neutral_unmount _))
  obtain ⟨honly, hiff⟩ := logsOut_detach_iff hdetach hok.append.2.append.2.append.2
  obtain rfl := honly e he4 p iqn hc
  obtain ⟨hnamed, hportals, hlast⟩ := hiff.1 ⟨e, he4, p, hc⟩
  refine ⟨id, (Except.ok.inj (hres _)).symm, rfl, hnamed, hportals, (hkept.onlyLUN _ _).1 hlast,
    hun.1 rfl, fun hshown => ?_⟩
  rcases (wp_iff.1 (wp_unmount _ _) _ _ _ humount).1 rfl with ⟨hno, -⟩ | ⟨hat, -⟩
  · exact absurd (hno.symm.trans hshown) Bool.noConfusion
  · exact hat

/-! ### A run that comes to the logout -/

theorem exists_fromMount (n : NodePlugin) (h : Host) (path : String) {source : Option String}
    (hsource : source = none ∨ source = mountSource h path) :
    ∃ tr h', Runs hostAct (reconstructFromMount n path).run h tr
      (.ok (source.bind (fromMount n h))) h' ∧ Listings tr ∧ Same h h' := by
  rcases hsource with rfl | rfl
  · -- the question about the staging mount fails
    have hact : hostAct h (.findmntSource path) { fail := some "" } = (.error ⟨255, ""⟩, h) := by
      simp [hostAct, hostAnswer, reading]
    refine ⟨[⟨h, .findmntSource path, { fail := some "" }, .error ⟨255, ""⟩⟩], h, ?_, by simp [Listings],
      .refl h⟩
    exact runs_run_bind.2 (.inr ⟨_, _, _, [], rfl, runs_attempt.2 ⟨_, rfl, runs_run_bind.2
      (.inr ⟨_, _, _, [], rfl, runs_answer hact, runs_ret.2 ⟨rfl, rfl, rfl⟩⟩)⟩,
      runs_ret.2 ⟨rfl, rfl, rfl⟩⟩)
  · obtain ⟨tr, hd, hrun⟩ := runs_eval hostAct {} (reconstructFromMount n path).run h
    obtain ⟨e, rest, rfl, hc, -, hspec⟩ := wp_iff.1 (wp_reconstructFromMount h path) _ _ _ hrun
    have hok : Listings (e :: rest) := fun d hdm _ => by rw [hd d hdm]
    have hrest : Listings rest := fun d hd => hok d (.tail _ hd)
    obtain ⟨hsame, hres⟩ := hspec hrest
    have hseen : seenSource h [e] path = mountSource h path := by
      unfold seenSource mountSource
      rw [List.find?_cons_of_pos (by simp [hc])]
      exact if_pos (by rw [hd e (.head _)])
    rw [hres, hseen] at hrun
    exact ⟨_, _, hrun, hok, hsame⟩

theorem exists_fromSAN (n : NodePlugin) (h : Host) (volumeID : String) (iqn : Option String) :
    ∃ tr h', Runs hostAct (reconstructFromSAN n volumeID).run h tr
      (.ok (fromSAN n h volumeID iqn)) h' ∧ Listings tr ∧ Same h h' := by
  obtain ⟨tr, hd, hrun⟩ := runs_eval hostAct { iqn := iqn } (reconstructFromSAN n volumeID).run h
  have hok : Listings tr := fun d hdm _ => by rw [hd d hdm]
  obtain ⟨hsame, hres⟩ := wp_iff.1 (wp_reconstructFromSAN h volumeID) _ _ _ hrun hok
  have hsays : sanSays (tr ++ [⟨h, .resolveIQN 0 0 "", { iqn := iqn }, none⟩]) = iqn := by
    unfold sanSays
    rw [List.find?_append, List.find?_cons_of_pos (by simp [Cmd.asksSAN])]
    cases hfound : tr.find? (·.call.asksSAN) with
    | none => rfl
    | some d =>
      change d.choice.iqn = iqn
      rw [hd d (List.mem_of_find?_eq_some hfound)]
  rw [hres, hsays] at hrun
  exact ⟨tr, _, hrun, hok, hsame⟩

theorem exists_teardown (n : NodePlugin) (req : UnstageRequest) (h : Host) (iqn : Option String)
    {source : Option String} (hsource : source = none ∨ source = mountSource h req.stagingTargetPath) :
    ∃ tr h', Runs hostAct (resolveTeardown n req).run h tr (.ok (teardown n req h source iqn)) h' ∧
      Listings tr ∧ Same h h' := by
  have hload : Runs hostAct (perform (Cmd.metaLoad req.volumeID) : NodeOp _).run h
      [⟨h, .metaLoad req.volumeID, {}, h.stages.lookup req.volumeID⟩]
      (.ok (h.stages.lookup req.volumeID)) h := by
    refine runs_answer ?_
    simp [hostAct, hostAnswer]
  have hcached : Listings [(⟨h, .metaLoad req.volumeID, {}, h.stages.lookup req.volumeID⟩ : HostEv)] := by
    simp [Listings]
  unfold teardown
  cases hm : h.stages.lookup req.volumeID with
  | some m =>
    rw [hm] at hload hcached
    refine ⟨_, h, runs_run_bind.2 (.inr ⟨_, _, _, [], rfl, hload, runs_ret.2 ⟨rfl, rfl, rfl⟩⟩), ?_,
      .refl h⟩
    simpa using hcached
  | none =>
    rw [hm] at hload hcached
    obtain ⟨tr1, h1, hmount, hok1, t, rfl⟩ := exists_fromMount n h req.stagingTargetPath hsource
    cases hfound : source.bind (fromMount n h) with
    | some m =>
      rw [hfound] at hmount
      refine ⟨_, _, runs_run_bind.2 (.inr ⟨_, _, _, _, rfl, hload, runs_run_bind.2
        (.inr ⟨_, _, _, [], rfl, hmount, runs_ret.2 ⟨rfl, rfl, rfl⟩⟩)⟩), ?_, ⟨t, rfl⟩⟩
      simpa [Listings] using hok1
    | none =>
      rw [hfound] at hmount
      obtain ⟨tr2, h2, hsan, hok2, t', rfl⟩ := exists_fromSAN n { h with now := t } req.volumeID iqn
      refine ⟨_, _, runs_run_bind.2 (.inr ⟨_, _, _, _, rfl, hload, runs_run_bind.2
        (.inr ⟨_, _, _, _, rfl, hmount, hsan⟩)⟩), ?_, ⟨t', rfl⟩⟩
      intro e he
      rcases List.mem_append.1 he with he | he
      · exact hcached e he
      · exact (List.mem_append.1 he).elim (hok1 e) (hok2 e)

theorem unmount_clean {target : String} {r : Except String Unit}
    (hrun : Runs hostAct (unmount target).run h tr r h') (hclean : Clean tr)
    (hat : h.showsMounted target = true → h.mountsAt target ≠ []) : r = .ok () := by
  by_cases hshown : h.showsMounted target = true
  · exact (wp_iff.1 (wp_unmount h target) _ _ _ hrun).2 hclean (hat hshown)
  · rcases runs_run_bind.1 hrun with ⟨err, rfl, hfail⟩ | ⟨tr1, shown, h1, tr2, rfl, hmounted, hrest⟩
    · cases (wp_iff.1 (wp_isMounted h target) _ _ _ hfail).ok_of_clean hclean
    · obtain rfl := Except.ok.inj
        ((wp_iff.1 (wp_isMounted h target) _ _ _ hmounted).ok_of_clean (Clean.append.1 hclean).1)
      rw [if_neg hshown] at hrest
      exact (runs_ret.1 hrest).2.1

/-- If nothing stands in the way, some run logs the target of the identity out. -/
theorem exists_logsOut {tr1 : List HostEv} {h1 : Host} (hd : Detachable req h id)
    (hid : Runs hostAct (resolveTeardown n req).run h tr1 (.ok (some id)) h1) (hok : Listings tr1)
    (hsame : Same h h1) : ∃ tr r h', Runs hostAct (unstageVolume n req).run h tr r h' ∧
      Listings tr ∧ LogsOut id.iqn tr := by
  obtain ⟨t, rfl⟩ := hsame
  obtain ⟨tr2, hd2, hrun2⟩ := runs_eval hostAct {} (refuseInUse n req (some id)).run { h with now := t }
  have hok2 : Listings tr2 := fun e he _ => by rw [hd2 e he]
  obtain ⟨⟨t', ht'⟩, hpass⟩ := (wp_iff.1 (wp_refuseInUse _ req id) _ _ _ hrun2).2 hok2
  rw [hpass.2 hd.unused, ht'] at hrun2
  obtain ⟨tr3, hd3, hrun3⟩ := runs_eval hostAct {} (unmount req.stagingTargetPath).run
    { h with now := t' }
  have hdone := unmount_clean hrun3 (fun e he => by rw [hd3 e he]) hd.unmounts
  have hkept := Kept.of_runs hrun3 (neutral_unmount _)
  generalize (eval hostAct {} (unmount req.stagingTargetPath).run { h with now := t' }).2 = h3
    at hrun3 hkept
  rw [hdone] at hrun3
  obtain ⟨tr4, hd4, hrun4⟩ := runs_eval hostAct {} (detach n req (some id)).run h3
  have hout := (logsOut_detach_iff hrun4 fun e he _ => by rw [hd4 e he]).2.2
    ⟨hd.named, hd.portals, (hkept.onlyLUN _ _).2 hd.last⟩
  refine ⟨tr1 ++ (tr2 ++ (tr3 ++ tr4)), _, _, runs_run_bind.2 (.inr ⟨_, _, _, _, rfl, hid,
    runs_run_bind.2 (.inr ⟨_, _, _, _, rfl, hrun2, runs_run_bind.2 (.inr ⟨_, _, _, _, rfl,
      runs_bind_ret.2 ⟨_, hrun3, rfl⟩, hrun4⟩)⟩)⟩), ?_, ?_⟩
  · intro e he
    simp only [List.mem_append] at he
    rcases he with he | he | he | he
    · exact hok e he
    · exact hok2 e he
    · exact fun _ => by rw [hd3 e he]
    · exact fun _ => by rw [hd4 e he]
  · obtain ⟨e, he, hc⟩ := hout
    exact ⟨e, by simp [he], hc⟩

/-- No run of UnstageVolume whose listings succeed logs out a target that a mount away from the
staging path is on iff this holds of the target of every identity of the volume with which
UnstageVolume comes to a logout: that of the stage cache, or else of the staging mount, or else of
what the SAN names. -/
theorem unstage_logout_iff (n : NodePlugin) (req : UnstageRequest) (h : Host) :
    (∀ tr r h', Runs hostAct (unstageVolume n req).run h tr r h' → Listings tr →
      ∀ e ∈ tr, ∀ p iqn, e.call = .logout p iqn →
        ∀ m ∈ h.mounts, m.target ≠ req.stagingTargetPath → ¬ OnTarget h iqn m.source) ↔
    ∀ source iqn id, source = none ∨ source = mountSource h req.stagingTargetPath →
      teardown n req h source iqn = some id → Detachable req h id →
        ∀ m ∈ h.mounts, m.target ≠ req.stagingTargetPath → ¬ OnTarget h id.iqn m.source := by
  constructor
  · intro hall source iqn id hsource hid hd
    obtain ⟨tr1, h1, hrun1, hok1, hsame⟩ := exists_teardown n req h iqn hsource
    rw [hid] at hrun1
    obtain ⟨tr, r, h', hrun, hok, e, he, p, hc⟩ := exists_logsOut hd hrun1 hok1 hsame
    exact hall tr r h' hrun hok e he p id.iqn hc
  · intro hcond tr r h' hrun hok e he p iqn hc
    obtain ⟨id, hid, rfl, hd⟩ := detachable_of_logout hrun hok he hc
    refine hcond _ _ id ?_ hid hd
    unfold seenSource
    split
    · split
      · exact .inr rfl
      · exact .inl rfl
    · exact .inl rfl

end

/-- A host where `vol1` is staged at `/stage` over the map `w1`, node `/dev/dm-3`. -/
def stagedHost (mounts : List Mount) : Host :=
  { Host.of [⟨"10.0.0.1", "iqn.a", [(0, "/dev/sdb")]⟩] [("sdb", "w1")] mounts 0 with
    link := fun p => if p = "/dev/mapper/w1" then some "/dev/dm-3" else none
    stages := AList.insert "vol1"
      { portals := ["10.0.0.1"], iqn := "iqn.a", lunNumber := 0, wwid := "w1" } ∅ }

theorem unstage_logout_otherDevice : ∃ tr r h',
    Runs hostAct (unstageVolume .plain ⟨"vol1", "/stage"⟩).run
      (stagedHost [⟨"/stage", "/dev/dm-3"⟩, ⟨"/data", "/dev/sdz"⟩]) tr r h' ∧
    (∃ e ∈ tr, e.call = .logout "10.0.0.1" "iqn.a") ∧
    ∀ m ∈ (stagedHost [⟨"/stage", "/dev/dm-3"⟩, ⟨"/data", "/dev/sdz"⟩]).mounts,
      m.target ≠ "/stage" → ¬ OnTarget
        (stagedHost [⟨"/stage", "/dev/dm-3"⟩, ⟨"/data", "/dev/sdz"⟩]) "iqn.a" m.source := by
  obtain ⟨tr, r, h', hrun, ⟨e, he, hc⟩, hok⟩ := runs_of_exec hostAct
    (unstageVolume .plain ⟨"vol1", "/stage"⟩).run
    (stagedHost [⟨"/stage", "/dev/dm-3"⟩, ⟨"/data", "/dev/sdz"⟩])
    (List.replicate 9 {})
    (fun x => (∃ e ∈ x.1, e.call = .logout "10.0.0.1" "iqn.a") ∧
      ∀ e ∈ x.1, e.choice.fail = none) (by decide)
  refine ⟨tr, r, h', hrun, ⟨e, he, hc⟩, (unstage_logout_iff _ _ _).2 ?_ tr r h' hrun
    (fun d hd _ => hok d hd) e he "10.0.0.1" "iqn.a" hc⟩
  rintro source iqn id - hid - m hm ht ⟨x, hx, -, -, hdev⟩
  obtain rfl : x = ⟨"iqn.a", "10.0.0.1", 0, "/dev/sdb"⟩ := List.mem_singleton.1 hx
  rcases List.mem_pair.1 hm with rfl | rfl
  · exact absurd rfl ht
  · revert hdev
    unfold OnDevice NamedBy
    decide

/-- A mount written as the node of the map is not seen, and its target is logged out. -/
theorem unstage_cuts_off_mount : ¬ ∀ (n : NodePlugin) (req : UnstageRequest) (h h' : Host)
    (tr : List HostEv) (r : Except Error Unit) (e : HostEv) (p iqn : String),
      Runs hostAct (unstageVolume n req).run h tr r h' → Listings tr → e ∈ tr →
      e.call = .logout p iqn →
      ∀ m ∈ h.mounts, m.target ≠ req.stagingTargetPath → ¬ OnTarget h iqn m.source := by
  intro h
  obtain ⟨tr, r, h', hrun, ⟨e, he, hc⟩, hok⟩ := runs_of_exec hostAct
    (unstageVolume .plain ⟨"vol1", "/stage"⟩).run
    (stagedHost [⟨"/stage", "/dev/dm-3"⟩, ⟨"/data", "/dev/dm-3"⟩])
    (List.replicate 9 {})
    (fun x => (∃ e ∈ x.1, e.call = .logout "10.0.0.1" "iqn.a") ∧
      ∀ e ∈ x.1, e.choice.fail = none) (by decide)
  refine h _ _ _ _ _ _ _ _ _ hrun (fun d hd _ => hok d hd) he hc ⟨"/data", "/dev/dm-3"⟩
    (by decide) (by decide) ⟨⟨"iqn.a", "10.0.0.1", 0, "/dev/sdb"⟩, by decide, rfl, by decide, ?_⟩
  exact .inr ⟨by decide, .inr (.inl rfl)⟩

end NomadCsi.Qnap
