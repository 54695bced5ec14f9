import NomadCsi.Qnap.Mirror
import NomadCsi.Qnap.Resolve

/-!
# The ids of a volume

CreateVolume, a repeated CreateVolume, ListVolumes, ListSnapshots and the node's
`resolveExternalID` each build the id of a volume from other data. They agree as long as each
LUN is the only one on a target that was made for it (`San.Paired`). The one operation that
can undo this is a DeleteVolume that takes away a target which another LUN has got since.
-/

namespace NomadCsi.Qnap

open Lib Lib.Go Driver

/-- LUN `i` of this name is the only one on target `t`, which was made for it. -/
structure San.Bound (s : San) (i t : Int) (iqn name : String) : Prop where
  carries : s.Carries i name
  target : s.targets.lookup t = some ⟨iqn, name⟩
  luns : s.lunsOf t = [i]

structure San.Paired (s : San) : Prop extends s.Tidy where
  bound : ∀ i name, s.Carries i name → ∃ t iqn, s.Bound i t iqn name

/-! ### What keeps a LUN on its target -/

variable {row : LunRow}

variable {j : Int}

section

variable {s s' : San} {i t : Int} {iqn name : String}

theorem San.Bound.mem_maps (h : s.Bound i t iqn name) : (i, t) ∈ s.maps :=
  San.mem_lunsOf.1 (h.luns ▸ .head _)

theorem San.Bound.alike (h : s.Bound i t iqn name) (hs : s.Alike s') : s'.Bound i t iqn name := by
  refine ⟨?_, ?_, ?_⟩
  · rw [San.Carries, hs.luns]
    exact h.carries
  · rw [hs.targets]
    exact h.target
  · rw [San.lunsOf, hs.maps]
    exact h.luns

theorem San.Bound.addVolume (h : s.Bound i t iqn name) {i' t' : Int} {iqn' : String}
    (hi : i' ∉ s.luns) (ht : t' ∉ s.targets) : (s.addVolume i' t' iqn' row).Bound i t iqn name := by
  have hne : t ≠ t' := by
    rintro rfl
    exact ht (San.mem_targets.2 ⟨_, h.target⟩)
  refine ⟨Effect.carries_addLUN hi h.carries, ?_, ?_⟩
  · change (s.addTarget t' ⟨iqn', row.name⟩).targets.lookup t = _
    rw [San.lookup_targets_addTarget, if_neg hne]
    exact h.target
  · have hluns : (s.addVolume i' t' iqn' row).lunsOf t = s.lunsOf t := by
      simp [San.addVolume, San.addTarget, San.addLUN, San.lunsOf, List.filterMap_append, hne.symm]
    rw [hluns, h.luns]

theorem San.Linked.bound_addVolume (h : s.Linked) (ht : t ∉ s.targets) (i : Int) (iqn : String)
    (row : LunRow) : (s.addVolume i t iqn row).Bound i t iqn row.name := by
  obtain ⟨-, hrow, hluns⟩ := San.target_eq_some.1 (h.target_addVolume ht i iqn row)
  refine ⟨?_, hrow, hluns.symm⟩
  exact San.carries_iff_lun.2 ⟨_, San.lun_addLUN _ _ _ _, rfl⟩

theorem San.Bound.dropLUN (h : s.Bound i t iqn name) (hne : i ≠ j) :
    (s.dropLUN j).Bound i t iqn name := by
  refine ⟨?_, h.target, ?_⟩
  · rw [San.Carries, San.lookup_dropLUN, if_neg hne]
    exact h.carries
  · have hluns : (s.dropLUN j).lunsOf t = (s.lunsOf t).filter fun i => decide (i ≠ j) := by
      unfold San.dropLUN San.lunsOf
      rw [List.filterMap_filter, List.filter_filterMap]
      refine List.filterMap_congr fun m _ => ?_
      by_cases hmt : m.2 = t
      · by_cases hm : m.1 = j
        · simp [hm, hmt, Option.filter_some]
        · simp [hm, hmt, Option.filter_some]
      · simp [hmt]
    rw [hluns, h.luns]
    simp [hne]

theorem San.Bound.dropTarget (h : s.Bound i t iqn name) {t' : Int} (hne : t ≠ t') :
    (s.dropTarget t').Bound i t iqn name := by
  refine ⟨h.carries, ?_, ?_⟩
  · rw [San.dropTarget, AList.lookup_erase_ne hne]
    exact h.target
  · have hluns : (s.dropTarget t').lunsOf t = s.lunsOf t := by
      unfold San.dropTarget San.lunsOf
      rw [List.filterMap_filter]
      refine List.filterMap_congr fun m _ => ?_
      by_cases hm : m.2 = t'
      · simp [hm, hne.symm]
      · simp [hm]
    rw [hluns, h.luns]

theorem San.Bound.resize (h : s.Bound i t iqn name) {gb : Int} (hrow : s.luns.lookup j = some row) :
    (s.resize j row gb).Bound i t iqn name := by
  have he : Effect s (.resizeLUN j gb) () (s.resize j row gb) := .resize j gb row hrow
  exact ⟨he.carries (by simp) h.carries, h.target, h.luns⟩

/-- A DeleteVolume that takes away no target of another LUN leaves every other volume as it is. -/
theorem San.Bound.deleted (h : s.Bound i t iqn name) {eid : ExternalID} (hd : Deleted eid s s')
    (hspares : s.OwnsTarget eid → ∀ j, (j, eid.targetIndex) ∈ s.maps → j = eid.lunIndex)
    (hi : i ∈ s'.luns) : s'.Bound i t iqn name := by
  cases hd with
  | kept hnot hr =>
    cases hr with
    | left => exact h
    | ours hown =>
      refine h.dropTarget ?_
      rintro rfl
      -- the LUN of the id would be on that target under the id's name: it would be ours
      obtain ⟨-, hname, x, hx, halias⟩ := id hown
      obtain ⟨-, hrow, -⟩ := San.target_eq_some.1 hx
      rw [h.target] at hrow
      have hname' : name = eid.lunName := by
        rw [← halias]
        exact (TargetRow.mk.inj (Option.some.inj hrow)).2
      obtain ⟨l, hl, hlname⟩ := San.carries_iff_lun.1 h.carries
      rw [hspares hown i h.mem_maps] at hl
      refine hnot ⟨l, hl, ?_, .inr (hlname.trans hname')⟩
      rw [hlname, hname']
      exact hname
  | destroyed _ _ hr =>
    rw [hr.luns] at hi
    have hne : i ≠ eid.lunIndex := (AList.mem_erase.1 hi).1
    have hb := h.dropLUN hne
    cases hr with
    | left => exact hb
    | ours hown =>
      refine hb.dropTarget ?_
      rintro rfl
      obtain ⟨ho, hn, x, hx, ha⟩ := hown
      obtain ⟨row, hrow, hrow'⟩ := Option.map_eq_some_iff.1 hx
      have hown : s.OwnsTarget eid :=
        ⟨ho, hn, _, Option.map_eq_some_iff.2 ⟨row, hrow, rfl⟩, by rw [← ha, ← hrow']⟩
      exact hne (hspares hown i h.mem_maps)

end

/-! ### Runs -/

/-- Two caches that lead to the same LUNs and targets, sizes aside. -/
structure SameIds (k k' : LunCache) : Prop where
  lookupByName : ∀ name, (k.lookupByName name).map (fun l => (l.index, l.name)) =
    (k'.lookupByName name).map fun l => (l.index, l.name)
  targetForLUN : ∀ i, (k.targetForLUN i).map Target.row = (k'.targetForLUN i).map Target.row

/-- The cache as the next operation finds it leads to what is on the appliance. -/
def World.Fresh (w : World) : Prop :=
  SameIds w.index (.install w.san.allLUNs w.san.allTargets w.now)

/-- A CreateVolume finds the cache fresh, and a DeleteVolume takes away no target that a LUN other
than the one of its id is mapped to. -/
def Settled (w : World) : SessionOp → Prop
  | .createVolume _ _ => w.Fresh
  | .deleteVolume id => ∀ eid, parseExternalID id = .ok eid → w.san.OwnsTarget eid →
      ∀ j, (j, eid.targetIndex) ∈ w.san.maps → j = eid.lunIndex
  | _ => True

/-- The cache leads from a name to the LUN that carries it and from a LUN to its target. -/
structure Finds (s : San) (k : LunCache) : Prop where
  index : ∀ name l, k.lookupByName name = some l → l.name = name ∧ s.Carries l.index name
  known : ∀ i name, s.Carries i name → ∃ l, k.lookupByName name = some l ∧ l.index = i
  targets : ∀ i t row, (k.targetForLUN i).map Target.row = some (t, row) ↔
    (i, t) ∈ s.maps ∧ s.targets.lookup t = some row

variable {w : World}

theorem World.Fresh.finds (h : w.Fresh) (hs : w.san.Tidy) : Finds w.san w.index := by
  have hm := mirrors_install hs w.now
  refine ⟨fun name l hl => ?_, fun i name hc => ?_, fun i t row => ?_⟩
  · have hids := h.lookupByName name
    rw [hl] at hids
    obtain ⟨l', hl', heq⟩ := Option.map_eq_some_iff.1 hids.symm
    obtain ⟨hidx, hname⟩ := Prod.mk.inj heq
    obtain ⟨hn, hthere⟩ := (hm.names _ _).1 hl'
    refine ⟨hname.symm.trans hn, ?_⟩
    rw [← hidx]
    exact San.carries_iff_lun.2 ⟨l', hthere, hn⟩
  · obtain ⟨l, hl, rfl⟩ := San.carries_iff_lun.1 hc
    have hidx : l.index = i := by
      obtain ⟨row, -, rfl⟩ := Option.map_eq_some_iff.1 hl
      rfl
    have hl' := (hm.names l.name l).2 ⟨rfl, hidx ▸ hl⟩
    have hids := h.lookupByName l.name
    rw [hl'] at hids
    obtain ⟨l2, hl2, heq⟩ := Option.map_eq_some_iff.1 hids
    exact ⟨l2, hl2, (Prod.mk.inj heq).1.trans hidx⟩
  · rw [h.targetForLUN, hm.targets]

variable {s : San}

variable {k' : LunCache}

theorem Finds.of_lookup {k : LunCache} (h : Finds s k)
    (hnames : ∀ name, k'.lookupByName name = k.lookupByName name)
    (htargets : ∀ i, k'.targetForLUN i = k.targetForLUN i) : Finds s k' := by
  refine ⟨fun name l hl => ?_, fun i name hc => ?_, fun i t row => ?_⟩
  · rw [hnames] at hl
    exact h.index name l hl
  · rw [hnames]
    exact h.known i name hc
  · rw [htargets]
    exact h.targets i t row

variable {s' : San}

/-- What keeps the LUNs that stay on their targets, and puts a new one on its own, keeps all pairs. -/
theorem San.Paired.of_bound (h : s.Paired) (htidy : s'.Tidy)
    (hkeep : ∀ i t iqn name, s.Bound i t iqn name → i ∈ s'.luns → s'.Bound i t iqn name) (hnew : ∀ i
      name, s'.Carries i name → (∃ name, s.Carries i name) ∨ ∃ t iqn, s'.Bound i t iqn name) :
    s'.Paired := by
  refine ⟨htidy, fun i name hc => ?_⟩
  rcases hnew i name hc with ⟨name', hold⟩ | hb
  · obtain ⟨t, iqn, hb⟩ := h.bound i name' hold
    have hb' := hkeep i t iqn name' hb hc.mem
    obtain rfl : name' = name := by
      have hc' := hb'.carries
      unfold San.Carries at hc hc'
      rw [hc'] at hc
      exact Option.some.inj hc
    exact ⟨t, iqn, hb'⟩
  · exact hb

theorem San.Paired.alike (h : s.Paired) (hs : s.Alike s') : s'.Paired := by
  refine h.of_bound (h.toTidy.alike hs) (fun i t iqn name hb _ => hb.alike hs) fun i name hc => ?_
  rw [San.Carries, hs.luns] at hc
  exact .inl ⟨name, hc⟩

variable {iqn : String} {i t : Int}

theorem San.Paired.addVolume (h : s.Paired) (hi : i ∉ s.luns) (ht : t ∉ s.targets)
    (hname : ∀ j r, s.luns.lookup j = some r → r.name ≠ row.name) :
    (s.addVolume i t iqn row).Paired := by
  refine h.of_bound (h.toTidy.addVolume hi ht hname)
    (fun _ _ _ _ hb _ => hb.addVolume hi ht) fun j name hc => ?_
  rw [San.Carries, San.addVolume, San.lookup_addLUN] at hc
  split at hc
  · next hj =>
    subst hj
    obtain rfl : row.name = name := Option.some.inj hc
    exact .inr ⟨t, iqn, h.linked.bound_addVolume ht j iqn row⟩
  · exact .inl ⟨name, hc⟩

theorem San.Paired.deleted (h : s.Paired) {eid : ExternalID} (hd : Deleted eid s s')
    (hspares : s.OwnsTarget eid → ∀ j, (j, eid.targetIndex) ∈ s.maps → j = eid.lunIndex) :
    s'.Paired := by
  refine h.of_bound (h.toTidy.deleted hd)
    (fun _ _ _ _ hb hi => hb.deleted hd hspares hi) fun j name hc => .inl ⟨name, ?_⟩
  cases hd with
  | kept _ hr =>
    rw [San.Carries, hr.luns] at hc
    exact hc
  | destroyed _ _ hr =>
    rw [San.Carries, hr.luns, San.lookup_dropLUN] at hc
    split at hc
    · cases hc
    · exact hc

theorem San.Paired.resize (h : s.Paired) {gb : Int} (hrow : s.luns.lookup j = some row) :
    (s.resize j row gb).Paired := by
  have he : Effect s (.resizeLUN j gb) () (s.resize j row gb) := .resize j gb row hrow
  exact h.of_bound (h.toTidy.resize hrow gb) (fun _ _ _ _ hb _ => hb.resize hrow)
    fun i name hc => .inl ⟨name, he.carries_of_carries rfl hc⟩

/-- The appliance after an operation: the pairs are kept, and so is every LUN's own as long as the
LUN stays. -/
structure San.Keeps (s s' : San) : Prop where
  paired : s'.Paired
  bound : ∀ i t iqn name, s.Bound i t iqn name → i ∈ s'.luns → s'.Bound i t iqn name

theorem San.Paired.keeps_self (h : s.Paired) : s.Keeps s :=
  ⟨h, fun _ _ _ _ hb _ => hb⟩

theorem San.Paired.created {w1 : World} {c : Controller} {req : CreateVolumeRequest} {v : Volume}
    (h : w.san.Paired) (hfinds : Finds w.san w1.cache) (hc : Created c req w.san w1.cache v s' k') :
    w.san.Keeps s' := by
  cases hc with
  | reused => exact h.keeps_self
  | made hnone hi ht =>
    refine ⟨h.addVolume hi ht fun j r hr hname => ?_, fun _ _ _ _ hb _ => hb.addVolume hi ht⟩
    obtain ⟨l, hl, -⟩ := hfinds.known j (sanitizeLUNName req.name) (by
      rw [San.Carries, hr]
      exact congrArg some hname)
    rw [hnone] at hl
    cases hl

theorem San.Paired.serve {w' : World} {o : SessionOp} {r : Except Err o.Result} (h : w.san.Paired)
    (hw : w.Honoured) (hok : Settled w o) (hrun : Reaches answering o.op w r w') :
    w.san.Keeps w'.san := by
  have halike : ∀ {s'}, SameStorage w.san s' → w.san.Keeps s' := fun hs =>
    ⟨h.alike hs.alike, fun _ _ _ _ hb _ => hb.alike hs.alike⟩
  cases o with
  | createVolume c req =>
    have hends := (answered_createVolume req h.linked).reaches hrun
    cases r with
    | ok v =>
      obtain ⟨w1, href, hc⟩ := hends
      have hfresh : w.Fresh := hok
      exact h.created ((hfresh.finds h.toTidy).of_lookup href.lookupByName href.targetForLUN) hc
    | error e =>
      obtain ⟨hs, -⟩ := hends
      rw [hs]
      exact h.keeps_self
  | deleteVolume id =>
    cases hid : parseExternalID id with
    | error e =>
      obtain rfl := reaches_delete_malformed hid hrun
      exact h.keeps_self
    | ok eid =>
      have hends := (answered_delete hid hw).reaches hrun
      cases r with
      | ok a =>
        obtain ⟨hdel, -⟩ := hends
        have hspares := hok eid hid
        exact ⟨h.deleted hdel hspares, fun _ _ _ _ hb hi => hb.deleted hdel hspares hi⟩
      | error e =>
        obtain ⟨-, hs, -⟩ := hends
        rw [hs]
        exact h.keeps_self
  | expandVolume id cr =>
    have hends := (answered_expandVolume cr).reaches hrun
    cases r with
    | ok a =>
      obtain ⟨-, eid, gb, row, -, -, hrow, -, hs⟩ := hends
      rw [hs]
      exact ⟨h.resize hrow, fun _ _ _ _ hb _ => hb.resize hrow⟩
    | error e =>
      obtain ⟨hs, -⟩ := hends
      rw [hs]
      exact h.keeps_self
  | _ =>
    have hends := (answered_unchanged _ rfl w).reaches hrun
    cases r with
    | ok | error => exact halike hends.1

theorem Sequence.bound {w' : World} {name : String}
    (h : Sequence (fun w o _ => Settled w o ∧ i ∈ w.san.luns) w w') (hw : w.Honoured)
    (hpaired : w.san.Paired) (hb : w.san.Bound i t iqn name) (hi : i ∈ w'.san.luns) :
    w'.san.Paired ∧ w'.san.Bound i t iqn name := by
  have hkept : w'.Honoured ∧ w'.san.Paired ∧ (i ∈ w'.san.luns → w'.san.Bound i t iqn name) := by
    refine h.invariant (I := fun w => w.san.Paired ∧ (i ∈ w.san.luns → w.san.Bound i t iqn name))
      (fun _ _ h => h) ?_ hw ⟨hpaired, fun _ => hb⟩
    rintro w o r w' ⟨hok, hi⟩ hw ⟨hpaired, hb⟩ - hrun
    obtain ⟨hpaired', hkeep⟩ := hpaired.serve hw hok hrun
    exact ⟨hpaired', fun hi' => hkeep _ _ _ _ (hb hi) hi'⟩
  exact ⟨hkept.2.1, hkept.2.2 hi⟩

/-! ### The five ids -/

section

variable {s : San} {k : LunCache} {i t : Int} {iqn name : String}

theorem volumeContext_iqn (c : Controller) (vp : VolumeParams) (tgt : Target) (lunIdx : Int) :
    (volumeContext c vp tgt lunIdx).get "iqn" = tgt.iqn := by
  unfold volumeContext
  dsimp only
  split
  · simp [StrMap.get, AList.lookup_insert_ne]
  · simp [StrMap.get, AList.lookup_insert_ne]

theorem San.Tidy.index_eq (h : s.Tidy) (hi : s.Carries i name) (hj : s.Carries j name) : i = j := by
  obtain ⟨row, hrow, hname⟩ := Option.map_eq_some_iff.1 hi
  obtain ⟨row', hrow', hname'⟩ := Option.map_eq_some_iff.1 hj
  exact h.names i j row row' hrow hrow' (hname.trans hname'.symm)

theorem Finds.targetForLUN (h : Finds s k) (hb : s.Bound i t iqn name) :
    ∃ x, k.targetForLUN i = some x ∧ x.index = t ∧ x.aliasName = name ∧ x.iqn = iqn := by
  obtain ⟨x, hx, hrow⟩ := Option.map_eq_some_iff.1 ((h.targets i t ⟨iqn, name⟩).2
    ⟨hb.mem_maps, hb.target⟩)
  obtain ⟨ht, hrow⟩ := Prod.mk.inj hrow
  obtain ⟨hiqn, halias⟩ := TargetRow.mk.inj hrow
  exact ⟨x, hx, ht, halias, hiqn⟩

theorem Finds.created (h : Finds s k) (htidy : s.Tidy) {c : Controller} {req : CreateVolumeRequest}
    {v : Volume} (hc : Created c req s k v s' k') (hb : s.Bound i t iqn (sanitizeLUNName req.name)) :
    v.volumeID = ExternalID.toString ⟨i, t, true, sanitizeLUNName req.name⟩ ∧
      v.volumeContext.get "iqn" = iqn := by
  cases hc with
  | made hnone =>
    obtain ⟨l, hl, -⟩ := h.known _ _ hb.carries
    rw [hnone] at hl
    cases hl
  | @reused vp sizeGB l lun t' tgt ch hl ht hlun htgt =>
    obtain rfl := htidy.index_eq hb.carries (h.index _ _ hl).2
    obtain ⟨x, hx, rfl, halias, rfl⟩ := h.targetForLUN hb
    rw [ht] at hx
    obtain rfl := Option.some.inj hx
    obtain ⟨-, hrow, -⟩ := San.target_eq_some.1 htgt
    rw [hb.target] at hrow
    constructor
    · unfold toVolume
      dsimp only
      rw [halias, decide_eq_true rfl, hb.carries.getLUN hlun]
    · refine (volumeContext_iqn _ _ _ _).trans ?_
      exact (TargetRow.mk.inj (Option.some.inj hrow)).1.symm

theorem LunCache.mem_all {l : LUN} : l ∈ k.all ↔ ∃ name, k.lookupByName name = some l := by
  unfold LunCache.all LunCache.lookupByName
  rw [List.mem_map]
  constructor
  · rintro ⟨e, he, rfl⟩
    exact ⟨e.1, AList.mem_lookup_iff.2 he⟩
  · rintro ⟨name, hl⟩
    exact ⟨⟨name, l⟩, AList.mem_lookup_iff.1 hl, rfl⟩

theorem Finds.listedID (h : Finds s k) (hb : s.Bound i t iqn name) :
    ∃ l ∈ k.all, l.index = i ∧ ∃ x, k.targetForLUN i = some x ∧
      Qnap.listedID l x = ExternalID.toString ⟨i, t, true, name⟩ := by
  obtain ⟨l, hl, rfl⟩ := h.known i name hb.carries
  obtain ⟨x, hx, rfl, halias, -⟩ := h.targetForLUN hb
  refine ⟨l, LunCache.mem_all.2 ⟨name, hl⟩, rfl, x, hx, ?_⟩
  unfold Qnap.listedID
  rw [halias, (h.index _ _ hl).1, decide_eq_true rfl]

theorem Finds.listedID_unique (h : Finds s k) (hb : s.Bound i t iqn name) {l : LUN} {x : Target}
    (hl : l ∈ k.all) (hidx : l.index = i) (hx : k.targetForLUN i = some x) :
    Qnap.listedID l x = ExternalID.toString ⟨i, t, true, name⟩ := by
  obtain ⟨name', hl⟩ := LunCache.mem_all.1 hl
  obtain ⟨hname, hc⟩ := h.index _ _ hl
  subst hidx
  have hc' := hb.carries
  unfold San.Carries at hc hc'
  rw [hc] at hc'
  obtain rfl := Option.some.inj hc'
  obtain ⟨x', hx', rfl, halias, -⟩ := h.targetForLUN hb
  rw [hx] at hx'
  obtain rfl := Option.some.inj hx'
  unfold Qnap.listedID
  rw [halias, hname, decide_eq_true rfl]

theorem SnapshotID.toString_inj {x y : SnapshotID} (h : x.toString = y.toString) : x = y := by
  obtain ⟨i, a⟩ := x
  obtain ⟨j, b⟩ := y
  simp only [SnapshotID.toString, String.append_assoc, String.append_right_inj] at h
  obtain ⟨hi, h⟩ := slash_inj (slash_notMem_itoa _) (slash_notMem_itoa _) h
  rw [itoa_inj hi, itoa_inj h]

/-! ### The node's lookups -/

theorem lookup_rows {ν : Type} {index : ν → Int} {row : Int → Option ν} {l : List ν}
    (hmem : ∀ x, x ∈ l ↔ row (index x) = some x) (hindex : ∀ i x, row i = some x → index x = i)
    (i : Int) : (l.foldl (fun m x => m.insert (index x) x) (∅ : Map Int ν)).lookup i = row i := by
  refine Option.ext fun x => (lookup_foldl_iff (ν := ν) fun x hx x' hx' hidx => ?_).trans ?_
  · rw [hmem] at hx hx'
    rw [← hidx, hx] at hx'
    exact Option.some.inj hx'
  · constructor
    · rintro ⟨x, hx, rfl, rfl⟩
      exact (hmem x).1 hx
    · intro hx
      have hi := hindex i x hx
      exact ⟨x, (hmem x).2 (hi ▸ hx), hi, rfl⟩

theorem lookup_luns_build (s : San) (now i : Int) :
    (SanIdentityCache.build s.allTargets s.allLUNs now).luns.lookup i = s.lun i := by
  refine lookup_rows (fun _ => San.mem_allLUNs) (fun i l hl => ?_) i
  obtain ⟨row, -, rfl⟩ := Option.map_eq_some_iff.1 hl
  rfl

theorem lookup_tgts_build (s : San) (now t : Int) :
    ((SanIdentityCache.build s.allTargets s.allLUNs now).tgts.getD ∅).lookup t = s.target t :=
  lookup_rows (fun _ => San.mem_allTargets) (fun _ _ hx => (San.target_eq_some.1 hx).1) t

theorem byIQN_build (s : San) (now : Int) :
    (SanIdentityCache.build s.allTargets s.allLUNs now).byIQN =
      (s.allTargets.filter fun t => decide (t.iqn ≠ "")).foldl (fun m t => m.insert t.iqn t) ∅ := by
  rw [List.foldl_filter]
  simp only [decide_eq_true_eq]
  rfl

theorem lookup_byIQN_build {x : Target} (hdistinct : s.DistinctIqns) (hx : s.target t = some x)
    (hiqn : x.iqn ≠ "") (now : Int) :
    (SanIdentityCache.build s.allTargets s.allLUNs now).byIQN.lookup x.iqn = some x := by
  have hidx : x.index = t := (San.target_eq_some.1 hx).1
  rw [byIQN_build]
  refine (lookup_foldl_iff (ν := Target) fun y hy y' hy' heq => ?_).2 ⟨x, ?_, rfl, rfl⟩
  · have hy := San.mem_allTargets.1 (List.mem_filter.1 hy).1
    have hy' := San.mem_allTargets.1 (List.mem_filter.1 hy').1
    obtain ⟨-, hrow, -⟩ := San.target_eq_some.1 hy
    obtain ⟨-, hrow', -⟩ := San.target_eq_some.1 hy'
    rw [← hdistinct _ _ _ _ hrow hrow' heq, hy] at hy'
    exact Option.some.inj hy'
  · exact List.mem_filter.2 ⟨San.mem_allTargets.2 (hidx ▸ hx), decide_eq_true hiqn⟩

theorem San.Bound.target_eq (h : s.Bound i t iqn name) : s.target t = some ⟨t, iqn, name, [i]⟩ :=
  San.target_eq_some.2 ⟨rfl, h.target, h.luns.symm⟩

theorem San.Bound.idFor_build (h : s.Bound i t iqn name) (hdistinct : s.DistinctIqns)
    (hiqn : iqn ≠ "") (now n : Int) :
    (SanIdentityCache.build s.allTargets s.allLUNs now).idFor iqn n =
      some (ExternalID.toString ⟨i, t, true, name⟩) := by
  have htarget := h.target_eq
  obtain ⟨l, hl, rfl⟩ := San.carries_iff_lun.1 h.carries
  unfold SanIdentityCache.idFor
  rw [lookup_byIQN_build hdistinct htarget hiqn now, Option.bind_some]
  simp only [SanIdentityCache.lunAt, Option.bind_some, lookup_luns_build, hl, Option.map_some,
    decide_true]

theorem San.Bound.iqnFor_build (h : s.Bound i t iqn name) (now : Int) :
    (SanIdentityCache.build s.allTargets s.allLUNs now).iqnFor ⟨i, t, true, name⟩ = some iqn := by
  have htarget := h.target_eq
  obtain ⟨l, hl, rfl⟩ := San.carries_iff_lun.1 h.carries
  unfold SanIdentityCache.iqnFor
  simp only [lookup_luns_build, lookup_tgts_build, hl, htarget, ne_eq, not_true_eq_false, if_false]

end

/-- A cache that the node still uses was filled from the appliance as it is. -/
def SanIdentityCache.FreshFor (k : SanIdentityCache) (s : San) (now : Int) : Prop :=
  k.isWarm now = true → ∃ loaded, k = .build s.allTargets s.allLUNs loaded

theorem answered_resolve {k : SanIdentityCache} {now later : Int} {found : Option String}
    {find : SanIdentityCache → Option String} (hw : w.Honoured) (hk : k.FreshFor w.san now)
    (hfound : ∀ loaded, find (.build w.san.allTargets w.san.allLUNs loaded) = found) :
    Answered (do return (← resolveWith k now later find).1) w (fun r _ => r = found)
      fun _ _ => False := by
  by_cases hwarm : k.isWarm now = true
  · obtain ⟨loaded, rfl⟩ := hk hwarm
    refine Ends.bind (Q := fun p _ => p.1 = found) ?_ fun p w' hp => .pure hp
    unfold resolveWith
    rw [if_pos hwarm]
    exact .pure (hfound loaded)
  · refine (answered_resolveWith found (Bool.eq_false_iff.2 hwarm) ((live_hydrate hw).mono ?_ ?_)).mono
      (fun _ _ h => h.1) fun _ _ h => h
    · rintro k' w' ⟨rfl, hs⟩
      exact ⟨hfound _, hs⟩
    · exact fun _ _ h => h.elim

/-- Everything that tells the id of the volume `v` in the world `w` tells the same, and the IQN of
its target leads to it and back. -/
structure Agree (w : World) (v : Volume) (eid : ExternalID) : Prop where
  repeated : ∀ c req v' w', sanitizeLUNName req.name = eid.lunName →
    Reaches answering (createVolume c req) w (.ok v') w' → v'.volumeID = v.volumeID
  listed : ∀ l w', Reaches answering listVolumes w (.ok l) w' → v.volumeID ∈ l.map (·.1) ∧
    ∀ id ∈ l.map (·.1), ∀ e, parseExternalID id = .ok e → e.lunIndex = eid.lunIndex →
      id = v.volumeID
  snapshots : ∀ c l w', Reaches answering (listSnapshots c "") w (.ok l) w' →
    (∀ sn ∈ w.san.snapsOf eid.lunIndex, ∃ info ∈ l, info.sourceVolumeID = v.volumeID ∧
      info.snapshotID = SnapshotID.toString ⟨eid.lunIndex, sn.id⟩) ∧
    ∀ info ∈ l, ∀ id, info.snapshotID = SnapshotID.toString ⟨eid.lunIndex, id⟩ →
      info.sourceVolumeID = v.volumeID
  resolvedID : ∀ k now later r w', k.FreshFor w.san now →
    Reaches answering (SessionOp.resolveExternalID k now later
      (v.volumeContext.get "iqn") 0).op w r w' → r = .ok (some v.volumeID)
  resolvedIQN : ∀ k now later r w', k.FreshFor w.san now →
    Reaches answering (SessionOp.resolveIQN k now later eid).op w r w' →
      r = .ok (some (v.volumeContext.get "iqn"))

theorem San.Bound.agree {v : Volume} {name : String} (hw : w.Honoured) (hpaired : w.san.Paired)
    (hb : w.san.Bound i t iqn name) (hfresh : w.Fresh) (hdistinct : w.san.DistinctIqns)
    (hiqn : iqn ≠ "") (hid : v.volumeID = ExternalID.toString ⟨i, t, true, name⟩)
    (hctx : v.volumeContext.get "iqn" = iqn) : Agree w v ⟨i, t, true, name⟩ := by
  have hfinds : ∀ {w1 : World}, w.Refreshed w1 → Finds w.san w1.cache := fun href =>
    (hfresh.finds hpaired.toTidy).of_lookup href.lookupByName href.targetForLUN
  refine ⟨?_, ?_, ?_, ?_, ?_⟩
  · intro c req v' w' hname hrun
    obtain ⟨w1, href, hc⟩ := (answered_createVolume req hpaired.linked).reaches hrun
    have hname : sanitizeLUNName req.name = name := hname
    subst hname
    rw [((hfinds href).created hpaired.toTidy hc hb).1, hid]
  · intro l w' hrun
    obtain ⟨href, rfl⟩ := answered_listVolumes.reaches hrun
    constructor
    · obtain ⟨l, hl, rfl, x, hx, hlisted⟩ := (hfinds href).listedID hb
      refine List.mem_map.2 ⟨(listedID l x, l.capacityBytes), List.mem_filterMap.2 ⟨l, hl, ?_⟩,
        hlisted.trans hid.symm⟩
      rw [hx]
      rfl
    · intro id hmem e hparse hidx
      obtain ⟨p, hp, rfl⟩ := List.mem_map.1 hmem
      obtain ⟨l, hl, hp⟩ := List.mem_filterMap.1 hp
      obtain ⟨x, hx, rfl⟩ := Option.map_eq_some_iff.1 hp
      obtain rfl : e = ⟨l.index, x.index, x.aliasName = l.name, l.name⟩ :=
        parseExternalID_toString hparse
      have hidx : l.index = i := hidx
      rw [hid]
      exact (hfinds href).listedID_unique hb hl hidx (hidx ▸ hx)
  · intro c l w' hrun
    obtain ⟨href, rfl⟩ := (answered_listSnapshots c).reaches hrun
    constructor
    · intro sn hsn
      obtain ⟨l, hl, rfl, x, hx, hlisted⟩ := (hfinds href).listedID hb
      refine ⟨⟨SnapshotID.toString ⟨l.index, sn.id⟩, listedID l x, sn.sizeBytes,
        c.parseANSIC sn.createdAt, sn.ready⟩, List.mem_flatMap.2 ⟨l, hl, ?_⟩,
        hlisted.trans hid.symm, rfl⟩
      rw [hx, href.san]
      exact List.mem_map.2 ⟨sn, hsn, rfl⟩
    · intro info hinfo sid hsid
      obtain ⟨l, hl, hinfo⟩ := List.mem_flatMap.1 hinfo
      cases hx : w'.cache.targetForLUN l.index with
      | none =>
        rw [hx] at hinfo
        cases hinfo
      | some x =>
        rw [hx] at hinfo
        obtain ⟨sn, -, rfl⟩ := List.mem_map.1 hinfo
        have hidx : l.index = i := (SnapshotID.mk.inj (SnapshotID.toString_inj hsid)).1
        rw [hid]
        exact (hfinds href).listedID_unique hb hl hidx (hidx ▸ hx)
  · intro k now later r w' hk hrun
    rw [hctx] at hrun
    have hends := (answered_resolve hw hk fun loaded =>
      hb.idFor_build hdistinct hiqn loaded 0).reaches hrun
    cases r with
    | ok a => rw [hends, hid]
    | error e => exact hends.elim
  · intro k now later r w' hk hrun
    have hends := (answered_resolve hw hk fun loaded => hb.iqnFor_build loaded).reaches hrun
    cases r with
    | ok a => rw [hends, hctx]
    | error e => exact hends.elim

/-- A volume is known by one id: from an appliance without LUNs on, whatever else is created, deleted,
expanded or listed before and after it, as long as its LUN is there. -/
theorem identities_agree {w0 w1 w2 w : World} {c : Controller} {req : CreateVolumeRequest}
    {v : Volume} {eid : ExternalID} (hw : w0.Honoured) (hluns : w0.san.luns = ∅)
    (hmaps : w0.san.maps = []) (hbefore : Sequence (fun w o _ => Settled w o) w0 w1)
    (hfresh1 : w1.Fresh) (hcreate : Reaches answering (createVolume c req) w1 (.ok v) w2)
    (hid : parseExternalID v.volumeID = .ok eid)
    (hafter : Sequence (fun w o _ => Settled w o ∧ eid.lunIndex ∈ w.san.luns) w2 w)
    (hlive : eid.lunIndex ∈ w.san.luns) (hfresh : w.Fresh) (hdistinct : w.san.DistinctIqns)
    (hiqn : v.volumeContext.get "iqn" ≠ "") : Agree w v eid := by
  have hempty : w0.san.Paired := by
    refine ⟨⟨fun m hm => ?_, fun i j row row' h => ?_, fun i t t' h => ?_⟩, fun i name h => ?_⟩
    · rw [hmaps] at hm
      cases hm
    · rw [hluns] at h
      cases h
    · rw [hmaps] at h
      cases h
    · rw [San.Carries, hluns] at h
      cases h
  obtain ⟨hw1, hpaired1⟩ := hbefore.invariant (I := fun w => w.san.Paired) (fun _ _ h => h)
    (fun w o r w' hok hw h _ hrun => (h.serve hw hok hrun).paired) hw hempty
  have hw2 := (reaches_answering hcreate hw1).1
  obtain ⟨hpaired2, hkeep⟩ := hpaired1.serve (o := .createVolume c req) hw1 hfresh1 hcreate
  -- the volume that was returned, made or found
  obtain ⟨i, t, hb, hid'⟩ : ∃ i t, w2.san.Bound i t (v.volumeContext.get "iqn")
      (sanitizeLUNName req.name) ∧
      v.volumeID = ExternalID.toString ⟨i, t, true, sanitizeLUNName req.name⟩ := by
    obtain ⟨w1', href, hc⟩ := (answered_createVolume req hpaired1.linked).reaches hcreate
    have hfinds := (hfresh1.finds hpaired1.toTidy).of_lookup href.lookupByName href.targetForLUN
    have hc' := hc
    generalize hs2 : w2.san = s2 at hc' hkeep ⊢
    generalize w2.cache = k2 at hc'
    cases hc' with
    | made hnone hi ht =>
      refine ⟨_, _, ?_, rfl⟩
      rw [toVolume, volumeContext_iqn]
      exact hpaired1.linked.bound_addVolume ht _ _ _
    | reused hl =>
      obtain ⟨t, iqn, hb⟩ := hpaired1.bound _ _ (hfinds.index _ _ hl).2
      obtain ⟨hid, hctx⟩ := hfinds.created hpaired1.toTidy hc hb
      refine ⟨_, t, ?_, hid⟩
      rw [hctx]
      exact hb
  rw [hid'] at hid
  obtain rfl := parseExternalID_toString hid
  obtain ⟨hpaired, hb⟩ := hafter.bound hw2 hpaired2 hb hlive
  exact hb.agree (hafter.honoured hw2) hpaired hfresh hdistinct hiqn hid' rfl

def atIndices (lun target : Int) : List (Subtype Choice.Answers) :=
  List.replicate 8 ⟨{ san := { index := target, iqn := "iqn.a" } }, rfl, rfl, rfl, rfl⟩ ++
    List.replicate 12 ⟨{ san := { index := lun } }, rfl, rfl, rfl, rfl⟩

/-- The world when a cache of now has expired. -/
def World.muchLater (w : World) : World := { w with now := w.now + 100000000000 }

theorem fresh_of_expired (h : w.cache.isFresh w.now = false) : w.Fresh := by
  have hindex : w.index = .install w.san.allLUNs w.san.allTargets w.now := by
    unfold World.index
    rw [h]
    rfl
  unfold World.Fresh
  rw [hindex]
  exact ⟨fun _ => rfl, fun _ => rfl⟩

def createA : SessionOp := .createVolume .plain (request "a")

theorem distinctIqns_of_length (h : s.targets.entries.length ≤ 1) : s.DistinctIqns := by
  intro t1 t2 row1 row2 h1 h2 _
  have h1 := AList.mem_lookup_iff.1 h1
  have h2 := AList.mem_lookup_iff.1 h2
  generalize s.targets.entries = l at h h1 h2
  rcases l with _ | ⟨x, _ | ⟨y, l⟩⟩
  · cases h1
  · rw [List.mem_singleton] at h1 h2
    rw [← h2] at h1
    exact (Sigma.mk.inj h1).1
  · simp at h

theorem identities_agree_expanded : ∃ w v, Agree w v ⟨0, 0, true, "a"⟩ := by
  obtain ⟨r, hr, hcreate⟩ := reaches_after createA (w := World.of [] [] []) (atIndices 0 0)
    (fun r => r.toOption.map (fun v => (v.volumeID, v.volumeContext.get "iqn")) =
      some (ExternalID.toString ⟨0, 0, true, "a"⟩, "iqn.a")) (by decide)
  cases r with
  | error e => cases hr
  | ok v =>
    obtain ⟨hid, hiqn⟩ := Prod.mk.inj (Option.some.inj hr)
    have hexpand : Sequence (fun w o _ => Settled w o ∧ 0 ∈ w.san.luns)
        ((World.of [] [] []).after createA (atIndices 0 0)) _ :=
      .after .start (.expandVolume (ExternalID.toString ⟨0, 0, true, "a"⟩) twoGiB) plainly
        (fun r => r.isOk = true) (by decide) fun _ _ => ⟨trivial, by decide⟩
    refine ⟨_, v, identities_agree (honoured_of _ _ _) rfl rfl .start (fresh_of_expired rfl) hcreate
      (by rw [hid]; decide) (hexpand.idle (100 * 10 ^ 9)) (by decide) (fresh_of_expired (by decide))
      (distinctIqns_of_length (by decide)) ?_⟩
    rw [hiqn]
    decide

/-- DeleteVolume of the first volume `a`, at LUN 0 on target 0. -/
def deleteA : SessionOp := .deleteVolume (ExternalID.toString ⟨0, 0, true, "a"⟩)

def deletedA : World :=
  (((World.of [] [] []).after createA (atIndices 0 0)).muchLater.after deleteA plainly).muchLater

/-- Volume `a` was made again, at LUN 1 on target 0, and the first one deleted once more. -/
def deletedAgain : World :=
  ((deletedA.after createA (atIndices 1 0)).muchLater.after deleteA plainly).muchLater

/-- The delete is repeated after the name and the target index were taken again: the new volume loses
its target and is not listed any more. -/
theorem identities_lost : ¬ ∀ (w0 w1 w2 w : World) (c : Controller) (req : CreateVolumeRequest)
    (v : Volume) (eid : ExternalID), w0.Honoured → w0.san.luns = ∅ → w0.san.maps = [] →
    Sequence (fun w o r => o.changes = true ∧ r.isOk = true ∧ w.Fresh) w0 w1 → w1.Fresh →
    Reaches answering (createVolume c req) w1 (.ok v) w2 → parseExternalID v.volumeID = .ok eid →
    Sequence (fun w o r => o.changes = true ∧ r.isOk = true ∧ w.Fresh ∧ eid.lunIndex ∈ w.san.luns)
      w2 w → eid.lunIndex ∈ w.san.luns → w.Fresh → w.san.DistinctIqns →
    v.volumeContext.get "iqn" ≠ "" → Agree w v eid := by
  intro h
  have hbefore : Sequence (fun w o r => o.changes = true ∧ r.isOk = true ∧ w.Fresh)
      (World.of [] [] []) deletedA := by
    refine .idle _ (.after (.idle _ (.after .start createA (atIndices 0 0) (fun r => r.isOk = true)
      (by decide) fun _ hr => ⟨rfl, hr, fresh_of_expired rfl⟩)) deleteA plainly
      (fun r => r.isOk = true) (by decide) fun _ hr => ⟨rfl, hr, fresh_of_expired ?_⟩)
    decide
  obtain ⟨r, hr, hcreate⟩ := reaches_after createA (w := deletedA) (atIndices 1 0)
    (fun r => r.toOption.map (fun v => (v.volumeID, v.volumeContext.get "iqn")) =
      some (ExternalID.toString ⟨1, 0, true, "a"⟩, "iqn.a")) (by decide)
  cases r with
  | error e => cases hr
  | ok v =>
    obtain ⟨hid, hiqn⟩ := Prod.mk.inj (Option.some.inj hr)
    have hafter : Sequence (fun w o r => o.changes = true ∧ r.isOk = true ∧ w.Fresh ∧
        1 ∈ w.san.luns) (deletedA.after createA (atIndices 1 0)) deletedAgain := by
      refine .idle _ (.after (.idle _ .start) deleteA plainly (fun r => r.isOk = true) (by decide)
        fun _ hr => ⟨rfl, hr, fresh_of_expired ?_, ?_⟩)
      · decide
      · decide
    have hagree := h _ _ _ _ _ _ v ⟨1, 0, true, "a"⟩ (honoured_of _ _ _) rfl rfl hbefore
      (fresh_of_expired (by decide)) hcreate (by rw [hid]; decide) hafter (by decide)
      (fresh_of_expired (by decide)) (distinctIqns_of_length (by decide))
      (by rw [hiqn]; decide)
    obtain ⟨r, hr, hlist⟩ := reaches_after .listVolumes (w := deletedAgain) plainly
      (fun r => r.toOption = some []) (by decide)
    cases r with
    | error e => cases hr
    | ok l =>
      obtain rfl := Option.some.inj hr
      have hmem := (hagree.listed _ _ hlist).1
      cases hmem

end NomadCsi.Qnap
