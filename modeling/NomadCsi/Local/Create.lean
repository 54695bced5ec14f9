import NomadCsi.Local.Commands
import NomadCsi.Local.Taken
import NomadCsi.Zfs.Eval

/-!
# What localCreate does

`yields_localCreate`: whichever of its commands fail, a `localCreate` that succeeds leaves a
zvol under the volume's dataset whose size and recorded source `Origin` ties to what was
there before. `eval_localCreate`: with no failing command, it accepts a zvol that is there
exactly if size and recorded source are the requested ones, and changes nothing.
-/

namespace NomadCsi.Local

open Lib Lib.Go Driver Zfs

def sourceSize (a : CreateArgs) (s : Store) : Option Int :=
  if a.contentSnapshotID ≠ "" then
    match parseSnapshotID a.contentSnapshotID with
    | .ok sid => (s.snaps.lookup (sid.dataset, sid.snapName)).map (·.volsize)
    | .error _ => none
  else match parseExternalID a.contentVolumeID with
    | .ok eid => (s.zvol? eid.dataset).map (·.volsize)
    | .error _ => none

/-- The zvol has the requested size and, for a clone or restore, the requested source. -/
def Matches (a : CreateArgs) (v : Zvol) : Prop :=
  v.volsize = a.sizeBytes ∧ (contentSourceID a ≠ "" → v.read sourceProp = contentSourceID a)

instance (a : CreateArgs) (v : Zvol) : Decidable (Matches a v) :=
  inferInstanceAs (Decidable (_ ∧ _))

/-- Where the zvol `v` that a successful create leaves under `ds` comes from. -/
inductive Origin (a : CreateArgs) (ds : String) (s : Store) (v : Zvol) : Prop where
  | existing : s.zvol? ds = some v → Matches a v → Origin a ds s v
  | fresh : contentSourceID a = "" → s.zvol? ds = none → v.volsize = a.sizeBytes → Origin a ds s v
  /-- A copy is never smaller than its source. -/
  | copied (size : Int) : contentSourceID a ≠ "" → s.zvol? ds = none →
      sourceSize a s = some size → v.volsize = max size a.sizeBytes →
      v.props.lookup sourceProp = some (contentSourceID a) → Origin a ds s v

/-! ### The recorded source -/

theorem parseSnapshotID_ne_dash {sid : SnapshotID} {id : String}
    (h : parseSnapshotID id = .ok sid) : id ≠ "-" := by
  rintro rfl
  cases h

theorem parseExternalID_ne_dash {eid : ExternalID} {id : String}
    (h : parseExternalID id = .ok eid) : id ≠ "-" := by
  rintro rfl
  cases h

variable {v : Zvol}

theorem read_source_iff {src : String} (hv : v.props.lookup sourceProp = some src) (hne : src ≠ "")
    (hdash : src ≠ "-") : v.read sourceProp = src ↔ trimSpace src = src := by
  unfold Zvol.read
  rw [hv]
  dsimp only [Option.getD_some]
  constructor
  · intro h
    split at h
    · exact absurd h.symm hne
    · exact h
  · intro h
    rw [h, if_neg hdash]

/-! ### Under faults -/

section

variable {c : Controller} {a : CreateArgs} {ds : String} {s : Store}

theorem yields_poolReady (pool : String) : Yields zfsAct (poolReady pool) s fun ready s' =>
    s' = s ∧ (ready = true → s.Ready pool) := by
  refine Ends.bind (Ends.onError (yields_poolStatus pool)) ?_
  rintro ⟨present, online⟩ s' ⟨rfl, hready⟩
  exact Ends.pure ⟨rfl, hready⟩

theorem ends_checkCapacity (pool : String) (size : Int) :
    Ends zfsAct (fun _ => True) (checkCapacity c pool size) s (fun _ s' => s' = s)
      fun _ s' => s' = s :=
  (ends_of_reads (calls_checkCapacity pool size rfl rfl) (yields_true _ _)).mono
    (fun _ _ h => h.1) fun _ _ h => h

theorem yields_checkCapacity (pool : String) (size : Int) :
    Yields zfsAct (checkCapacity c pool size) s fun _ s' => s' = s :=
  (ends_checkCapacity pool size).weaken fun _ _ _ => trivial

/-- The guard passed: the requested bytes are left over the reserve. -/
def Guarded (c : Controller) (a : CreateArgs) (s : Store) : Prop :=
  ∃ p, s.pool? a.pool = some p ∧ a.sizeBytes ≤ overReserve c.cfg a.pool p.available p.size

theorem yields_guard : Yields zfsAct (checkCapacity c a.pool a.sizeBytes) s fun _ s' =>
    s' = s ∧ Guarded c a s := by
  unfold checkCapacity
  refine Ends.bind (Ends.onError (ends_outcome (fun _ => trivial) fun _ _ h =>
    serve_found rfl h)) ?_
  rintro _ s ⟨rfl, p, hp, rfl⟩
  refine Ends.bind (Ends.onError (ends_outcome (fun _ => trivial) fun _ _ h =>
    serve_found rfl h)) ?_
  rintro _ s ⟨rfl, p', hp', rfl⟩
  obtain rfl := Option.some.inj (hp.symm.trans hp')
  dsimp only
  split
  · exact Ends.throw trivial
  · next hleft => exact Ends.pure ⟨rfl, p, hp, by omega⟩

theorem yields_growIfNeeded {s₀ : Store} {want : Int} (hv : s.zvol? ds = some v)
    (htaken : Taken s₀ s ds v.volsize) :
    Yields zfsAct (growIfNeeded ds want) s fun _ s' => SamePools s s' ∧
      s'.zvol? ds = some { v with volsize := max v.volsize want } ∧
      Taken s₀ s' ds (max v.volsize want) := by
  refine Ends.bind (Ends.onError (yields_getVolsize ds)) ?_
  rintro cur s' ⟨rfl, v', hv', rfl⟩
  obtain rfl : v = v' := Option.some.inj (hv.symm.trans hv')
  by_cases hge : v.volsize ≥ want
  · have hmax : max v.volsize want = v.volsize := by omega
    rw [if_pos hge, hmax]
    exact Ends.pure ⟨.refl _, hv, htaken⟩
  · have hmax : max v.volsize want = want := by omega
    rw [if_neg hge, hmax]
    refine Ends.onError (ends_outcome (fun _ => trivial) fun _ s'' h => ?_)
    obtain ⟨v', hv', hs, hz⟩ := serve_setVolsize h
    obtain rfl : v = v' := Option.some.inj (hv.symm.trans hv')
    exact ⟨hs, hz, htaken.setVolsize h⟩

/-- Record the source of a copy and bring it to size: the larger of its own size and the requested
one. -/
theorem yields_finishCopy {s₀ : Store} {src : String} {want : Int} (hv : s.zvol? ds = some v)
    (htaken : Taken s₀ s ds v.volsize) :
    Yields zfsAct (finishCopy ds src want) s fun _ s' =>
      SamePools s s' ∧ ∃ v', s'.zvol? ds = some v' ∧ v'.volsize = max v.volsize want ∧
        v'.props.lookup sourceProp = some src ∧ Taken s₀ s' ds v'.volsize := by
  refine Ends.bind (Ends.onError (ends_outcome (fun _ => trivial) fun _ s1 h =>
    And.intro (serve_setProp h) (htaken.setProp h))) ?_
  rintro _ s1 ⟨⟨v1, hv1, hs1, hz1⟩, htaken1⟩
  obtain rfl : v = v1 := Option.some.inj (hv.symm.trans hv1)
  refine (yields_growIfNeeded hz1 htaken1).mono ?_ fun _ _ _ => trivial
  rintro _ s2 ⟨hs2, hz2, htaken2⟩
  exact ⟨hs1.trans hs2, _, hz2, rfl, AList.lookup_insert _, htaken2⟩

theorem yields_cloneIndependent (source snap : String) :
    Yields zfsAct (cloneIndependent source snap ds) s fun _ s' =>
      ∃ sn, Arrived s s' source snap ds sn ∧ Taken s s' ds sn.volsize := by
  unfold cloneIndependent
  rw [← bind_assoc]
  refine Ends.bind (ends_outcome (Q := fun _ s1 => serve s (.sendRecv source snap ds) =
    (.ok (), s1)) (fun _ => trivial) fun _ _ h => h) ?_
  intro _ s1 hrecv
  refine Ends.onError (ends_outcome (fun _ => trivial) fun _ s2 hdrop => ?_)
  obtain ⟨sn, hsn, hnone, hpools, hz⟩ := serve_sendRecv hrecv
  obtain ⟨sn', hsn', htaken⟩ := taken_sendRecv hrecv
  obtain rfl := Option.some.inj (hsn.symm.trans hsn')
  obtain ⟨hpools', hsame⟩ := serve_destroySnapshot hdrop
  exact ⟨sn, ⟨hsn, hnone, hpools.trans hpools', (hsame ds).trans hz⟩,
    htaken.destroySnapshot hdrop⟩

/-- What a create leaves that has made its zvol. -/
def Makes (c : Controller) (a : CreateArgs) (ds : String) (s s' : Store) : Prop :=
  SamePools s s' ∧ ∃ v, s'.zvol? ds = some v ∧ Origin a ds s v ∧ Guarded c a s ∧
    Taken s s' ds v.volsize

theorem yields_restoreFromSnapshot (hsrc : a.contentSnapshotID ≠ "") :
    Yields zfsAct (restoreFromSnapshot c a ds) s fun _ s' => Makes c a ds s s' := by
  have hid : contentSourceID a = a.contentSnapshotID := if_pos hsrc
  unfold restoreFromSnapshot
  cases hp : parseSnapshotID a.contentSnapshotID with
  | error e => exact Ends.throw trivial
  | ok sid =>
    rw [decided_ok_bind]
    split
    · exact Ends.throw trivial
    · refine Ends.bind yields_guard ?_
      rintro _ _ ⟨rfl, hguard⟩
      refine Ends.bind (Ends.onError (yields_cloneIndependent _ _)) ?_
      rintro _ s1 ⟨sn, ⟨hsn, hnone, hs1, hz1⟩, htaken⟩
      refine (yields_finishCopy hz1 htaken).mono ?_ fun _ _ _ => trivial
      rintro _ s2 ⟨hs2, v, hz2, hsize, hprop, htaken2⟩
      refine ⟨hs1.trans hs2, v, hz2, .copied sn.volsize (hid ▸ hsrc) hnone ?_ hsize (hid ▸ hprop),
        hguard, htaken2⟩
      simp [sourceSize, hsrc, hp, hsn]

theorem yields_copyVolume (source snap : String) :
    Yields zfsAct (copyVolume source snap ds) s fun _ s' =>
      ∃ sn, Arrived s s' source snap ds sn ∧ Taken s s' ds sn.volsize := by
  refine Ends.bind (Ends.attempt (yields_cloneIndependent source snap) (P := Outcome (fun _ s' =>
    ∃ sn, Arrived s s' source snap ds sn ∧ Taken s s' ds sn.volsize) fun _ _ => True)) ?_
  rintro (e | u) s1 h1
  · exact Ends.bind (Ends.attempt (P := fun _ _ => True) (yields_true (destroySnapshot _ _) s1))
      fun _ _ _ => Ends.throw trivial
  · obtain ⟨sn, ⟨hsn, hnone, hs1, hz1⟩, htaken⟩ := h1
    refine Ends.bind (Ends.attempt (P := fun _ s2 => SamePools s1 s2 ∧
      s2.zvol? ds = s1.zvol? ds ∧ Taken s s2 ds sn.volsize) (ends_outcome ?_ ?_)) ?_
    · exact fun _ => ⟨.refl _, rfl, htaken⟩
    · intro _ s2 hdrop
      obtain ⟨hs2, hsame⟩ := serve_destroySnapshot hdrop
      exact ⟨hs2, hsame ds, htaken.destroySnapshot hdrop⟩
    · rintro _ s2 ⟨hs2, hz2, htaken2⟩
      exact Ends.pure ⟨sn, ⟨hsn, hnone, hs1.trans hs2, hz2.trans hz1⟩, htaken2⟩

theorem yields_cloneFromVolume (hsnap : a.contentSnapshotID = "") (hsrc : a.contentVolumeID ≠ "") :
    Yields zfsAct (cloneFromVolume c a ds) s fun _ s' => Makes c a ds s s' := by
  have hid : contentSourceID a = a.contentVolumeID := if_neg (by simp [hsnap])
  unfold cloneFromVolume
  cases hp : parseExternalID a.contentVolumeID with
  | error e => exact Ends.throw trivial
  | ok eid =>
    rw [decided_ok_bind]
    split
    · exact Ends.throw trivial
    · refine Ends.bind yields_guard ?_
      rintro _ s ⟨rfl, hguard⟩
      refine Ends.bind (Ends.onError (ends_outcome (fun _ => trivial)
        fun _ s1 h => And.intro (serve_snapshot h) (same_of_snapshot h))) ?_
      rintro _ s1 ⟨⟨v0, hv0, hs1, hz1, hsn1, -⟩, hpools, hvols⟩
      refine Ends.bind (yields_copyVolume _ _) ?_
      rintro _ s2 ⟨sn, ⟨hsn, hnone, hs2, hz2⟩, htaken⟩
      -- the transient snapshot has the size of the source
      obtain rfl : sn = ⟨v0.volsize, v0.volblocksize, _, _⟩ := Option.some.inj (hsn.symm.trans hsn1)
      rw [hz1] at hnone
      refine (yields_finishCopy hz2 (htaken.of_same hpools hvols)).mono ?_ fun _ _ _ => trivial
      rintro _ s3 ⟨hs3, v, hz3, hsize, hprop, htaken3⟩
      refine ⟨(hs1.trans hs2).trans hs3, v, hz3,
        .copied v0.volsize (hid ▸ hsrc) hnone ?_ hsize (hid ▸ hprop), hguard, htaken3⟩
      simp [sourceSize, hsnap, hp, hv0]

theorem contentSourceID_eq_empty :
    contentSourceID a = "" ↔ a.contentSnapshotID = "" ∧ a.contentVolumeID = "" := by
  unfold contentSourceID
  by_cases h : a.contentSnapshotID = ""
  · simp [h]
  · simp [h]

theorem yields_provision :
    Yields zfsAct (provision c a ds) s fun _ s' => Makes c a ds s s' := by
  unfold provision
  split
  · next hsnap => exact yields_restoreFromSnapshot hsnap
  · next hsnap =>
    rw [not_not] at hsnap
    split
    · next hvol => exact yields_cloneFromVolume hsnap hvol
    · next hvol =>
      rw [not_not] at hvol
      refine Ends.bind yields_guard ?_
      rintro _ s0 ⟨rfl, hguard⟩
      refine Ends.onError (ends_outcome (fun _ => trivial) fun _ s1 h => ?_)
      obtain ⟨hnone, hs1, hz1⟩ := serve_create h
      exact ⟨hs1, _, hz1, .fresh (contentSourceID_eq_empty.2 ⟨hsnap, hvol⟩) hnone rfl, hguard,
        taken_create h⟩

attribute [local irreducible] trimSpace in
theorem yields_checkExisting : Yields zfsAct (checkExisting a ds) s fun _ s' => s' = s ∧
    ∃ v, s.zvol? ds = some v ∧ Matches a v := by
  refine Ends.bind (Ends.onError (yields_getVolsize ds)) ?_
  rintro cur s' ⟨rfl, v, hv, rfl⟩
  split
  · exact Ends.throw trivial
  · next hsize =>
    rw [not_not] at hsize
    unfold checkProvenance
    split
    · next hsrc =>
      refine Ends.bind (Ends.onError (yields_getUserProp ds sourceProp)) ?_
      rintro got s' ⟨rfl, v', hv', rfl⟩
      obtain rfl : v = v' := Option.some.inj (hv.symm.trans hv')
      split
      · exact Ends.throw trivial
      · next hgot => exact Ends.pure ⟨rfl, v, hv, hsize, fun _ => not_not.1 hgot⟩
    · next hsrc => exact Ends.pure ⟨rfl, v, hv, hsize, fun h => absurd h hsrc⟩

/-- A create that succeeds leaves a zvol of a known origin, on a pool that was and is ready. -/
theorem yields_localCreate : Yields zfsAct (localCreate c a) s fun res s' =>
    res = createResult c a (c.datasetFor a.pool a.name) ∧ s.Ready a.pool ∧ SamePools s s' ∧
      ∃ v, s'.zvol? (c.datasetFor a.pool a.name) = some v ∧
        Origin a (c.datasetFor a.pool a.name) s v ∧
        (s' = s ∨ Guarded c a s ∧ Taken s s' (c.datasetFor a.pool a.name) v.volsize) := by
  refine Ends.bind (yields_poolReady a.pool) ?_
  rintro ready s0 ⟨rfl, hready⟩
  cases ready with
  | false => exact Ends.throw trivial
  | true =>
    refine Ends.bind (Ends.bind (Ends.onError (yields_datasetExists _)) ?_)
      (Q := fun _ s' => SamePools s0 s' ∧ ∃ v, s'.zvol? (c.datasetFor a.pool a.name) = some v ∧
        Origin a (c.datasetFor a.pool a.name) s0 v ∧
        (s' = s0 ∨ Guarded c a s0 ∧ Taken s0 s' (c.datasetFor a.pool a.name) v.volsize)) ?_
    · rintro found _ rfl
      cases found with
      | false =>
        refine yields_provision.mono ?_ fun _ _ _ => trivial
        rintro _ s' ⟨hs, v, hv, horigin, hmade⟩
        exact ⟨hs, v, hv, horigin, .inr hmade⟩
      | true =>
        refine yields_checkExisting.mono ?_ fun _ _ _ => trivial
        rintro _ _ ⟨rfl, v, hv, hm⟩
        exact ⟨.refl _, v, hv, .existing hv hm, .inl rfl⟩
    · rintro _ s' ⟨hs, hv⟩
      exact Ends.pure ⟨rfl, hready rfl, hs, hv⟩

/-! ### Without faults -/

variable (s) in
theorem eval_poolReady (pool : String) :
    eval zfsAct {} (poolReady pool).run s = (.ok (s.online pool), s) := by
  unfold poolReady
  rw [eval_run_bind, eval_onError, eval_poolStatus]
  simp only [Except.mapError, eval_pure]
  unfold Store.online
  cases s.pool? pool with
  | none => rfl
  | some p => simp

theorem eval_checkExisting (hv : s.zvol? ds = some v) :
    (Matches a v → eval zfsAct {} (checkExisting a ds).run s = (.ok (), s)) ∧
      (¬ Matches a v → ∃ e, eval zfsAct {} (checkExisting a ds).run s = (.error e, s)) := by
  unfold checkExisting checkProvenance Matches
  rw [eval_run_bind, eval_onError, eval_getVolsize hv]
  simp only [Except.mapError]
  by_cases hsize : v.volsize = a.sizeBytes
  · rw [if_neg (not_not.2 hsize)]
    by_cases hsrc : contentSourceID a = ""
    · simp [hsize, hsrc]
    · rw [if_pos hsrc, eval_run_bind, eval_onError, eval_getUserProp hv]
      by_cases hread : v.read sourceProp = contentSourceID a
      · simp [Except.mapError, hsize, hread]
      · simp [Except.mapError, hsize, hsrc, hread]
  · rw [if_pos hsize]
    simp [hsize]

theorem eval_localCreate (hr : s.Ready a.pool) (hv : s.zvol? (c.datasetFor a.pool a.name) = some v) :
    (Matches a v → eval zfsAct {} (localCreate c a).run s =
      (.ok (createResult c a (c.datasetFor a.pool a.name)), s)) ∧
      (¬ Matches a v → ∃ e, eval zfsAct {} (localCreate c a).run s = (.error e, s)) := by
  unfold localCreate settleDataset
  rw [eval_run_bind, eval_poolReady, Store.ready_iff.1 hr]
  simp only [if_true]
  have hfound : eval zfsAct {} (onError (fun e => internal ("checking dataset: " ++ e))
      (datasetExists (c.datasetFor a.pool a.name))).run s = (.ok true, s) := by
    rw [eval_onError, eval_datasetExists, hv]
    rfl
  obtain ⟨hyes, hno⟩ := eval_checkExisting (a := a) hv
  constructor
  · intro hm
    rw [eval_run_bind, eval_run_bind, hfound]
    simp only [if_true]
    rw [hyes hm]
    rfl
  · intro hm
    obtain ⟨e, he⟩ := hno hm
    refine ⟨e, ?_⟩
    rw [eval_run_bind, eval_run_bind, hfound]
    simp only [if_true]
    rw [he]

end

/-! ### A node with one pool -/

def tankController (localNode : String) : Controller where
  cfg := ⟨[{ name := "tank" }], "tank", "", 0⟩
  parentDataset := "csi"
  localNode := localNode

def tankStore (available : Int) : Store where
  pools := AList.insert "tank" ⟨true, "ONLINE", available, 2 ^ 20, available⟩ ∅
  vols := ∅
  snaps := ∅

def tankArgs : CreateArgs where
  name := "vol"
  pool := "tank"
  sizeBytes := 16384
  volblocksize := "16K"
  fsType := "ext4"
  block := false

def tankClone : CreateArgs := { tankArgs with contentVolumeID := "local/v1/a/tank/csi/src" }

end NomadCsi.Local
