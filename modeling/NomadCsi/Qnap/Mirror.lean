import NomadCsi.Qnap.Sequence

/-!
# The cache and the appliance

`Mirrors s k`: the cache `k` says of every name and of every LUN what the appliance in state
`s` would say. A full refresh mirrors a tidy appliance (`mirrors_install`), and so does the
cache after a CreateVolume. It stops doing so when a DeleteVolume drops from the cache a LUN
that stays, or from the appliance a target that another LUN uses, and when an ExpandVolume
changes a size.
-/

namespace NomadCsi.Qnap

open Lib Lib.Go Driver

/-- LUN names are unique, a LUN is mapped to one target at most, and mappings join what is there. -/
structure San.Tidy (s : San) : Prop where
  linked : s.Linked
  names : ∀ i j row row', s.luns.lookup i = some row → s.luns.lookup j = some row' →
    row.name = row'.name → i = j
  single : ∀ i t t', (i, t) ∈ s.maps → (i, t') ∈ s.maps → t = t'

/-- A target without its list of LUNs, which the cache does not keep up to date. -/
def Target.row (t : Target) : Int × TargetRow := (t.index, ⟨t.iqn, t.aliasName⟩)

/-- The cache says what the appliance would say. -/
structure Mirrors (s : San) (k : LunCache) : Prop where
  names : ∀ name l, k.lookupByName name = some l ↔ l.name = name ∧ s.lun l.index = some l
  targets : ∀ i t row, (k.targetForLUN i).map Target.row = some (t, row) ↔
    (i, t) ∈ s.maps ∧ s.targets.lookup t = some row

/-- Two caches with the same LUNs under the same names, on the same targets. -/
structure SameIndex (k k' : LunCache) : Prop where
  lookupByName : ∀ name, k.lookupByName name = k'.lookupByName name
  targetForLUN : ∀ i, (k.targetForLUN i).map Target.row = (k'.targetForLUN i).map Target.row

variable {s : San} {k : LunCache}

theorem Mirrors.same {k' : LunCache} (h : Mirrors s k) (h' : Mirrors s k') : SameIndex k k' := by
  refine ⟨fun name => Option.ext fun l => ?_, fun i => Option.ext fun ⟨t, row⟩ => ?_⟩
  · exact (h.names name l).trans (h'.names name l).symm
  · exact (h.targets i t row).trans (h'.targets i t row).symm

theorem Mirrors.of_lookup {k' : LunCache} (h : Mirrors s k)
    (hnames : ∀ name, k'.lookupByName name = k.lookupByName name)
    (htargets : ∀ i, k'.targetForLUN i = k.targetForLUN i) : Mirrors s k' := by
  refine ⟨fun name l => ?_, fun i t row => ?_⟩
  · rw [hnames, h.names]
  · rw [htargets, h.targets]

/-- The same LUNs, targets and mappings, whatever the order of the rows. -/
structure San.Alike (s s' : San) : Prop where
  luns : ∀ i, s'.luns.lookup i = s.luns.lookup i
  targets : ∀ t, s'.targets.lookup t = s.targets.lookup t
  maps : s'.maps = s.maps

variable {s' : San}

theorem SameStorage.alike (h : SameStorage s s') : s.Alike s' := by
  obtain ⟨hluns, htargets, hmaps⟩ := h
  exact ⟨fun i => by rw [hluns], fun t => by rw [htargets], hmaps⟩

theorem Mirrors.alike (h : Mirrors s k) (hs : s.Alike s') : Mirrors s' k := by
  refine ⟨fun name l => ?_, fun i t row => ?_⟩
  · rw [h.names, San.lun, San.lun, hs.luns]
  · rw [h.targets, hs.maps, hs.targets]

theorem San.Tidy.alike (h : s.Tidy) (hs : s.Alike s') : s'.Tidy := by
  refine ⟨fun m hm => ?_, fun i j row row' => ?_, fun i t t' => ?_⟩
  · rw [San.mem_luns, San.mem_targets, hs.luns, hs.targets, ← San.mem_luns, ← San.mem_targets]
    exact h.linked m (hs.maps ▸ hm)
  · rw [hs.luns, hs.luns]
    exact h.names i j row row'
  · rw [hs.maps]
    exact h.single i t t'

/-! ### A full refresh -/

theorem San.Tidy.lun_eq (h : s.Tidy) {l l' : LUN} (hl : s.lun l.index = some l)
    (hl' : s.lun l'.index = some l') (hname : l.name = l'.name) : l = l' := by
  obtain ⟨row, hrow, heq⟩ := Option.map_eq_some_iff.1 hl
  obtain ⟨row', hrow', heq'⟩ := Option.map_eq_some_iff.1 hl'
  have hindex : l.index = l'.index := by
    refine h.names _ _ row row' hrow hrow' ?_
    rw [← heq, ← heq'] at hname
    exact hname
  rw [← hindex, hl] at hl'
  exact Option.some.inj hl'

theorem mirrors_install (h : s.Tidy) (now : Int) :
    Mirrors s (.install s.allLUNs s.allTargets now) := by
  refine ⟨fun name l => ?_, fun i t row => ?_⟩
  · refine (lookup_foldl_iff (ν := LUN) fun l hl l' hl' hname =>
      h.lun_eq (San.mem_allLUNs.1 hl) (San.mem_allLUNs.1 hl') hname).trans ?_
    simp only [San.mem_allLUNs]
    constructor
    · rintro ⟨l, hl, rfl, rfl⟩
      exact ⟨rfl, hl⟩
    · rintro ⟨rfl, hl⟩
      exact ⟨l, hl, rfl, rfl⟩
  · -- a LUN is mapped to one target, so the index holds the row of that one
    have hmem : ∀ {j x}, (j, x) ∈ s.allTargets.flatMap (fun t => t.luns.map fun idx => (idx, t)) ↔
        s.target x.index = some x ∧ (j, x.index) ∈ s.maps := by
      intro j x
      simp only [List.mem_flatMap, List.mem_map, San.mem_allTargets]
      constructor
      · rintro ⟨x', hx', idx, hidx, heq⟩
        obtain ⟨rfl, rfl⟩ := Prod.mk.inj heq
        rw [(San.target_eq_some.1 hx').2.2] at hidx
        exact ⟨hx', San.mem_lunsOf.1 hidx⟩
      · rintro ⟨hx, hm⟩
        refine ⟨x, hx, j, ?_, rfl⟩
        rw [(San.target_eq_some.1 hx).2.2]
        exact San.mem_lunsOf.2 hm
    rw [Option.map_eq_some_iff]
    have hlookup : ∀ x, (LunCache.install s.allLUNs s.allTargets now).targetForLUN i = some x ↔
        s.target x.index = some x ∧ (i, x.index) ∈ s.maps := by
      intro x
      change (LunCache.indexTargets s.allTargets).lookup i = some x ↔ _
      rw [LunCache.indexTargets_eq, lookup_foldl_iff]
      · constructor
        · rintro ⟨p, hp, rfl, rfl⟩
          exact hmem.1 hp
        · exact fun hx => ⟨(i, x), hmem.2 hx, rfl, rfl⟩
      · rintro ⟨j, x⟩ hx ⟨j', x'⟩ hx' rfl
        obtain ⟨hx, hm⟩ := hmem.1 hx
        obtain ⟨hx', hm'⟩ := hmem.1 hx'
        have hindex := h.single j _ _ hm hm'
        rw [← hindex, hx] at hx'
        exact Option.some.inj hx'
    constructor
    · rintro ⟨x, hx, heq⟩
      obtain ⟨rfl, rfl⟩ := Prod.mk.inj heq
      obtain ⟨hx, hm⟩ := (hlookup x).1 hx
      exact ⟨hm, (San.target_eq_some.1 hx).2.1⟩
    · rintro ⟨hm, hrow⟩
      exact ⟨⟨t, row.iqn, row.aliasName, s.lunsOf t⟩,
        (hlookup _).2 ⟨San.target_eq_some.2 ⟨rfl, hrow, rfl⟩, hm⟩, rfl⟩

/-! ### What a call does to the mirror -/

variable {row : LunRow} {eid : ExternalID}

variable {iqn : String} {j t' : Int}

section

variable {s : San} {k : LunCache} {i t : Int}

theorem Mirrors.lookup_none (h : Mirrors s k) {name : String} (hnone : k.lookupByName name = none)
    (hrow : s.luns.lookup i = some row) : row.name ≠ name := by
  rintro rfl
  have hl : k.lookupByName row.name = some ⟨i, row.name, row.capacityBytes⟩ := by
    refine (h.names _ _).2 ⟨rfl, ?_⟩
    rw [San.lun, hrow]
    rfl
  rw [hnone] at hl
  cases hl

theorem LunCache.lookupByName_addLUN (k : LunCache) (lun : LUN) (tgt : Target) (name : String) :
    (k.addLUN lun tgt).lookupByName name =
      if name = lun.name then some lun else k.lookupByName name :=
  lookup_insert_if k.byName lun.name name lun

theorem LunCache.targetForLUN_addLUN (k : LunCache) (lun : LUN) (tgt : Target) (j : Int) :
    (k.addLUN lun tgt).targetForLUN j =
      if j = lun.index then some tgt else k.targetForLUN j :=
  lookup_insert_if _ lun.index j tgt

theorem Mirrors.addLUN (h : Mirrors s k) {lun : LUN} {tgt : Target} (hlun : s.lun lun.index = some lun)
    (hmap : (lun.index, tgt.index) ∈ s.maps)
    (hrow : s.targets.lookup tgt.index = some ⟨tgt.iqn, tgt.aliasName⟩) :
    Mirrors s (k.addLUN lun tgt) := by
  refine ⟨fun name l => ?_, fun j t row => ?_⟩
  · rw [LunCache.lookupByName_addLUN, ← h.names]
    split
    · next hname => rw [hname, (h.names _ lun).2 ⟨rfl, hlun⟩]
    · exact Iff.rfl
  · rw [LunCache.targetForLUN_addLUN, ← h.targets]
    split
    · next hj =>
      rw [hj, (h.targets _ _ _).2 ⟨hmap, hrow⟩]
      exact Iff.rfl
    · exact Iff.rfl

theorem San.lookup_targets_addTarget (s : San) (t t' : Int) (row : TargetRow) :
    (s.addTarget t row).targets.lookup t' =
      if t' = t then some row else s.targets.lookup t' :=
  lookup_insert_if s.targets t t' row

theorem San.mem_maps_addVolume :
    (j, t') ∈ (s.addVolume i t iqn row).maps ↔ (j, t') ∈ s.maps ∨ j = i ∧ t' = t := by
  simp [San.addVolume, San.addLUN, San.addTarget]

theorem San.Tidy.addVolume (h : s.Tidy) (hi : i ∉ s.luns) (ht : t ∉ s.targets)
    (hname : ∀ j r, s.luns.lookup j = some r → r.name ≠ row.name) :
    (s.addVolume i t iqn row).Tidy := by
  refine ⟨?_, ?_, ?_⟩
  · rintro ⟨j, t'⟩ hm
    rcases San.mem_maps_addVolume.1 hm with hm | ⟨rfl, rfl⟩
    · obtain ⟨hj, ht'⟩ := h.linked _ hm
      exact ⟨(AList.mem_insert _).2 (.inr hj), (AList.mem_insert _).2 (.inr ht')⟩
    · exact ⟨(AList.mem_insert _).2 (.inl rfl), (AList.mem_insert _).2 (.inl rfl)⟩
  · intro j j' r r' hj hj' hrr
    have hold : ∀ {j r}, (s.addVolume i t iqn row).luns.lookup j = some r →
        j = i ∧ r = row ∨ s.luns.lookup j = some r := by
      intro j r hj
      rw [San.addVolume, San.lookup_addLUN] at hj
      split at hj
      · next heq => exact .inl ⟨heq, (Option.some.inj hj).symm⟩
      · exact .inr hj
    rcases hold hj with ⟨rfl, rfl⟩ | hold1
    · rcases hold hj' with ⟨rfl, -⟩ | hold2
      · rfl
      · exact absurd hrr.symm (hname _ _ hold2)
    · rcases hold hj' with ⟨rfl, rfl⟩ | hold2
      · exact absurd hrr (hname _ _ hold1)
      · exact h.names _ _ _ _ hold1 hold2 hrr
  · intro j t1 t2 h1 h2
    rcases San.mem_maps_addVolume.1 h1 with hold1 | ⟨rfl, rfl⟩
    · rcases San.mem_maps_addVolume.1 h2 with hold2 | ⟨rfl, rfl⟩
      · exact h.single _ _ _ hold1 hold2
      · exact absurd (h.linked _ hold1).1 hi
    · rcases San.mem_maps_addVolume.1 h2 with hold2 | ⟨-, rfl⟩
      · exact absurd (h.linked _ hold2).1 hi
      · rfl

theorem Mirrors.addVolume (h : Mirrors s k) (hs : s.Tidy) {name : String} {cap : Int}
    {luns : List Int} (hnone : k.lookupByName name = none) (hi : i ∉ s.luns) (ht : t ∉ s.targets) :
    Mirrors (s.addVolume i t iqn ⟨name, cap⟩) (k.addLUN ⟨i, name, cap⟩ ⟨t, iqn, name, luns⟩) := by
  refine ⟨fun name' l => ?_, fun j t' row => ?_⟩
  · rw [LunCache.lookupByName_addLUN, San.lun, San.addVolume, San.lookup_addLUN]
    split
    · next hname =>
      dsimp only at hname
      subst hname
      constructor
      · rintro ⟨⟩
        exact ⟨rfl, by rw [if_pos rfl]; rfl⟩
      · rintro ⟨hname, hl⟩
        split at hl
        · next hidx =>
          rw [← Option.some.inj hl, hidx]
        · obtain ⟨row, hrow, heq⟩ := Option.map_eq_some_iff.1 hl
          refine absurd ?_ (h.lookup_none hnone hrow)
          rw [← hname, ← heq]
    · next hname =>
      rw [h.names]
      refine and_congr_right fun hl => ?_
      split
      · next hidx =>
        refine iff_of_false (fun hthere => ?_) fun hthere => ?_
        · exact hi (hidx ▸ San.lun_isSome hthere)
        · rw [← Option.some.inj hthere] at hl
          exact hname hl.symm
      · rfl
  · rw [LunCache.targetForLUN_addLUN]
    have hrows : (s.addVolume i t iqn ⟨name, cap⟩).targets.lookup t' =
        if t' = t then some ⟨iqn, name⟩ else s.targets.lookup t' :=
      San.lookup_targets_addTarget s t t' ⟨iqn, name⟩
    rw [San.mem_maps_addVolume, hrows]
    split
    · next hj =>
      have hj : j = i := hj
      subst hj
      rw [or_iff_right fun hm => hi (hs.linked _ hm).1]
      constructor
      · rintro ⟨⟩
        exact ⟨⟨rfl, rfl⟩, if_pos rfl⟩
      · rintro ⟨⟨-, rfl⟩, hrow⟩
        rw [if_pos rfl] at hrow
        rw [← Option.some.inj hrow]
        rfl
    · next hj =>
      rw [or_iff_left fun hm => hj hm.1, h.targets]
      refine and_congr_right fun hm => ?_
      rw [if_neg]
      rintro rfl
      exact ht (hs.linked _ hm).2

theorem San.mem_maps_dropLUN : (j, t') ∈ (s.dropLUN i).maps ↔ (j, t') ∈ s.maps ∧ j ≠ i := by
  simp [San.dropLUN]

theorem San.mem_maps_dropTarget : (j, t') ∈ (s.dropTarget t).maps ↔ (j, t') ∈ s.maps ∧ t' ≠ t := by
  simp [San.dropTarget]

theorem San.Tidy.dropLUN (h : s.Tidy) (i : Int) : (s.dropLUN i).Tidy := by
  refine ⟨?_, ?_, ?_⟩
  · rintro ⟨j, t'⟩ hm
    obtain ⟨hm, hne⟩ := San.mem_maps_dropLUN.1 hm
    obtain ⟨hj, ht'⟩ := h.linked _ hm
    exact ⟨AList.mem_erase.2 ⟨hne, hj⟩, ht'⟩
  · intro j j' r r' hj hj' hrr
    rw [San.lookup_dropLUN] at hj hj'
    split at hj
    · cases hj
    · split at hj'
      · cases hj'
      · exact h.names _ _ _ _ hj hj' hrr
  · intro j t1 t2 h1 h2
    exact h.single _ _ _ (San.mem_maps_dropLUN.1 h1).1 (San.mem_maps_dropLUN.1 h2).1

theorem San.Tidy.dropTarget (h : s.Tidy) (t : Int) : (s.dropTarget t).Tidy := by
  refine ⟨?_, h.names, ?_⟩
  · rintro ⟨j, t'⟩ hm
    obtain ⟨hm, hne⟩ := San.mem_maps_dropTarget.1 hm
    obtain ⟨hj, ht'⟩ := h.linked _ hm
    exact ⟨hj, AList.mem_erase.2 ⟨hne, ht'⟩⟩
  · intro j t1 t2 h1 h2
    exact h.single _ _ _ (San.mem_maps_dropTarget.1 h1).1 (San.mem_maps_dropTarget.1 h2).1

theorem San.Tidy.released (h : s.Tidy) (hr : Released eid s s') : s'.Tidy := by
  cases hr with
  | ours => exact h.dropTarget _
  | left => exact h

theorem San.Tidy.deleted (h : s.Tidy) (hd : Deleted eid s s') : s'.Tidy := by
  cases hd with
  | kept _ hr => exact h.released hr
  | destroyed _ _ hr => exact (h.dropLUN _).released hr

theorem San.Tidy.resize (h : s.Tidy) (hrow : s.luns.lookup i = some row) (gb : Int) :
    (s.resize i row gb).Tidy := by
  -- a LUN keeps its name
  have hold : ∀ {j r}, (s.resize i row gb).luns.lookup j = some r →
      ∃ r', s.luns.lookup j = some r' ∧ r'.name = r.name := by
    intro j r hj
    rw [San.lookup_resize] at hj
    split at hj
    · next heq =>
      rw [← Option.some.inj hj, heq]
      exact ⟨row, hrow, rfl⟩
    · exact ⟨r, hj, rfl⟩
  refine ⟨fun m hm => ?_, ?_, h.single⟩
  · obtain ⟨hj, ht'⟩ := h.linked m hm
    exact ⟨(AList.mem_insert _).2 (.inr hj), ht'⟩
  · intro j j' r r' hj hj' hrr
    obtain ⟨r1, hr1, hn1⟩ := hold hj
    obtain ⟨r2, hr2, hn2⟩ := hold hj'
    exact h.names _ _ _ _ hr1 hr2 (hn1.trans (hrr.trans hn2.symm))

theorem Mirrors.dropLUN (h : Mirrors s k) (i : Int) (pick : Nat) :
    Mirrors (s.dropLUN i) (k.removeLUN i pick) := by
  have hone : ∀ n ∈ k.namesAt i, ∀ n' ∈ k.namesAt i, n = n' := by
    intro n hn n' hn'
    obtain ⟨l, hl, hi⟩ := LunCache.mem_namesAt.1 hn
    obtain ⟨l', hl', hi'⟩ := LunCache.mem_namesAt.1 hn'
    obtain ⟨rfl, hthere⟩ := (h.names _ _).1 hl
    obtain ⟨rfl, hthere'⟩ := (h.names _ _).1 hl'
    rw [hi] at hthere
    rw [hi', hthere] at hthere'
    rw [Option.some.inj hthere']
  refine ⟨fun name l => ?_, fun j t row => ?_⟩
  · rw [LunCache.lookupByName_removeLUN pick hone, Option.filter_eq_some_iff, h.names, San.lun,
      San.lun, San.lookup_dropLUN]
    by_cases hi : l.index = i
    · simp [hi]
    · simp [hi]
  · rw [LunCache.targetForLUN_removeLUN, San.mem_maps_dropLUN]
    by_cases hj : j = i
    · simp [hj]
    · rw [if_neg hj, h.targets, and_iff_left hj]
      exact Iff.rfl

theorem Mirrors.dropTarget (h : Mirrors s k) (hfree : ∀ j, (j, t) ∉ s.maps) :
    Mirrors (s.dropTarget t) k := by
  refine ⟨h.names, fun j t' row => ?_⟩
  rw [h.targets, San.mem_maps_dropTarget, San.dropTarget]
  by_cases ht : t' = t
  · subst ht
    exact iff_of_false (fun hm => hfree j hm.1) fun hm => hm.1.2 rfl
  · rw [and_iff_left ht, AList.lookup_erase_ne ht]

theorem San.Tidy.alike_dropLUN (h : s.Tidy) (hi : i ∉ s.luns) : (s.dropLUN i).Alike s := by
  refine ⟨fun j => ?_, fun _ => rfl, ?_⟩
  · rw [San.lookup_dropLUN]
    split
    · next hj => rw [hj, AList.lookup_eq_none.2 hi]
    · rfl
  · refine (List.filter_eq_self.2 fun m hm => decide_eq_true ?_).symm
    rintro rfl
    exact hi (h.linked m hm).1

end

/-! ### Runs -/

/-- DeleteVolume of the id takes away its own LUN, if there is one, and no target that another LUN
is mapped to. -/
structure San.Spares (s : San) (eid : ExternalID) : Prop where
  lun : eid.lunIndex ∈ s.luns → s.OwnsLUN eid ∧ s.snapsOf eid.lunIndex = []
  target : s.OwnsTarget eid → ∀ j, (j, eid.targetIndex) ∈ s.maps → j = eid.lunIndex

/-- If the cache is in use, the operation keeps it true. -/
def Truthful (w : World) (o : SessionOp) : Prop :=
  w.cache.isFresh w.now = true →
    match o with
    | .deleteVolume id => ∀ eid, parseExternalID id = .ok eid → w.san.Spares eid
    | .expandVolume id cr => ∀ eid gb row, parseExternalID id = .ok eid → sizeGiBExact cr = .ok gb →
      w.san.luns.lookup eid.lunIndex = some row → (eid.lunName = "" ∨ row.name = eid.lunName) →
      row.capacityBytes = gb * giB
    | _ => True

/-- The appliance is tidy, and a cache that is in use mirrors it. -/
structure InStep (w : World) : Prop where
  tidy : w.san.Tidy
  mirrors : w.cache.isFresh w.now = true → Mirrors w.san w.cache

theorem isFresh_mono {now now' : Int} (h : now ≤ now') (hk : k.isFresh now' = true) :
    k.isFresh now = true := by
  unfold LunCache.isFresh at *
  rw [Bool.and_eq_true, decide_eq_true_iff] at *
  exact ⟨hk.1, Int.lt_of_le_of_lt (timeSub_mono h _) hk.2⟩

variable {w : World}

theorem InStep.index (h : InStep w) : Mirrors w.san w.index := by
  unfold World.index
  split
  · next hfresh => exact h.mirrors hfresh
  · exact mirrors_install h.tidy _

theorem InStep.refreshed {w1 : World} (h : InStep w) (href : w.Refreshed w1) :
    Mirrors w.san w1.cache :=
  h.index.of_lookup href.lookupByName href.targetForLUN

theorem InStep.later {w' : World} (h : InStep w) (hs : w.san.Alike w'.san) (hk : w'.cache = w.cache)
    (hnow : w.now ≤ w'.now) : InStep w' := by
  refine ⟨h.tidy.alike hs, fun hfresh => ?_⟩
  rw [hk] at hfresh ⊢
  exact (h.mirrors (isFresh_mono hnow hfresh)).alike hs

theorem InStep.created {w1 w' : World} {c : Controller} {req : CreateVolumeRequest} {v : Volume}
    (h : InStep w) (href : w.Refreshed w1) (hc : Created c req w.san w1.cache v w'.san w'.cache) :
    InStep w' := by
  have hm := h.refreshed href
  generalize hs' : w'.san = s' at hc
  generalize hk' : w'.cache = k' at hc
  cases hc with
  | @reused vp sizeGB l lun t tgt ch hl ht hlun htgt =>
    obtain ⟨-, hthere⟩ := (hm.names _ _).1 hl
    obtain rfl := San.getLUN_eq hthere hlun
    have htrow : (w1.cache.targetForLUN l.index).map Target.row =
        some (t.index, ⟨t.iqn, t.aliasName⟩) := by
      rw [ht]
      rfl
    obtain ⟨hmap, -⟩ := (hm.targets _ _ _).1 htrow
    obtain ⟨hidx, hrow, -⟩ := San.target_eq_some.1 htgt
    refine ⟨hs' ▸ h.tidy, fun _ => ?_⟩
    rw [hs', hk']
    exact hm.addLUN hthere (hidx ▸ hmap) (hidx ▸ hrow)
  | made hnone hi ht =>
    refine ⟨?_, fun _ => ?_⟩
    · rw [hs']
      exact h.tidy.addVolume hi ht fun j r hr => hm.lookup_none hnone hr
    · rw [hs', hk']
      exact hm.addVolume h.tidy hnone hi ht

theorem Mirrors.deleted (h : Mirrors s k) (hs : s.Tidy) (hspares : s.Spares eid)
    (hd : Deleted eid s s') (pick : Nat) : Mirrors s' (k.removeLUN eid.lunIndex pick) := by
  have hdrop := h.dropLUN eid.lunIndex pick
  -- in either case the LUN of the id is not there any more
  have hrelease : ∀ {s1 : San}, s1.OwnsTarget eid → s.OwnsTarget eid →
      (∀ j t, (j, t) ∈ s1.maps → (j, t) ∈ s.maps ∧ j ≠ eid.lunIndex) →
      ∀ j, (j, eid.targetIndex) ∉ s1.maps := by
    intro s1 _ hown hsub j hm
    obtain ⟨hm, hne⟩ := hsub _ _ hm
    exact hne (hspares.target hown j hm)
  cases hd with
  | kept hnot hr =>
    have hi : eid.lunIndex ∉ s.luns := fun hi => hnot (hspares.lun hi).1
    have hsame := hdrop.alike (hs.alike_dropLUN hi)
    cases hr with
    | left => exact hsame
    | ours hown =>
      refine hsame.dropTarget (hrelease hown hown fun j t hm => ⟨hm, ?_⟩)
      rintro rfl
      exact hi (hs.linked _ hm).1
  | destroyed _ _ hr =>
    cases hr with
    | left => exact hdrop
    | ours hown =>
      refine hdrop.dropTarget (hrelease hown ?_ fun j t hm => San.mem_maps_dropLUN.1 hm)
      obtain ⟨ho, hn, x, hx, ha⟩ := hown
      obtain ⟨row, hrow, hrow'⟩ := Option.map_eq_some_iff.1 hx
      refine ⟨ho, hn, _, Option.map_eq_some_iff.2 ⟨row, hrow, rfl⟩, ?_⟩
      rw [← ha, ← hrow']

theorem InStep.serve {w' : World} {o : SessionOp} {r : Except Err o.Result} (h : InStep w)
    (hw : w.Honoured) (hok : Truthful w o) (hnow : w.now ≤ w'.now)
    (hrun : Reaches answering o.op w r w') : InStep w' := by
  have hkept : ∀ {w' : World}, w.now ≤ w'.now → w.Kept w' → InStep w' := by
    rintro w' hnow ⟨hs, hk | ⟨w1, href, hk⟩⟩
    · exact h.later hs.alike hk hnow
    · refine ⟨h.tidy.alike hs.alike, fun _ => ?_⟩
      rw [hk]
      exact (h.refreshed href).alike hs.alike
  have hsame : SameStorage w.san w.san := ⟨rfl, rfl, rfl⟩
  cases o with
  | createVolume c req =>
    have hends := (answered_createVolume req h.tidy.linked).reaches hrun
    cases r with
    | ok v =>
      obtain ⟨w1, href, hc⟩ := hends
      exact h.created href hc
    | error e =>
      obtain ⟨hs, rfl | href⟩ := hends
      · exact h
      · exact hkept hnow ⟨by rw [hs]; exact hsame, .inr ⟨w', href, rfl⟩⟩
  | deleteVolume id =>
    cases hid : parseExternalID id with
    | error e =>
      obtain rfl := reaches_delete_malformed hid hrun
      exact h
    | ok eid =>
      have hends := (answered_delete hid hw).reaches hrun
      cases r with
      | ok a =>
        obtain ⟨hdel, pick, hk⟩ := hends
        refine ⟨h.tidy.deleted hdel, fun hfresh => ?_⟩
        rw [hk] at hfresh ⊢
        have hfresh0 : w.cache.isFresh w.now = true := isFresh_mono hnow hfresh
        exact (h.mirrors hfresh0).deleted h.tidy (hok hfresh0 eid hid) hdel pick
      | error e =>
        obtain ⟨hrefuses, hs, pick, hk⟩ := hends
        refine ⟨hs ▸ h.tidy, fun hfresh => ?_⟩
        rw [hk] at hfresh
        have hspares := hok (isFresh_mono hnow hfresh) eid hid
        exact absurd (hspares.lun hrefuses.1.mem).2 hrefuses.2
  | expandVolume id cr =>
    have hends := (answered_expandVolume cr).reaches hrun
    cases r with
    | ok a =>
      obtain ⟨hk, eid, gb, row, hid, hgb, hrow, hname, hs⟩ := hends
      refine ⟨hs ▸ h.tidy.resize hrow gb, fun hfresh => ?_⟩
      rw [hk] at hfresh ⊢
      have hfresh0 := isFresh_mono hnow hfresh
      refine (h.mirrors hfresh0).alike (hs ▸ ⟨fun j => ?_, fun _ => rfl, rfl⟩)
      rw [San.lookup_resize]
      split
      · next hj =>
        rw [← hok hfresh0 eid gb row hid hgb hrow hname, hj, hrow]
      · rfl
    | error e =>
      obtain ⟨hs, hk, -⟩ := hends
      exact hkept hnow ⟨by rw [hs]; exact hsame, .inl hk⟩
  | _ =>
    have hends := (answered_unchanged _ rfl w).reaches hrun
    cases r with
    | ok | error => exact hkept hnow hends

/-- The cache mirrors the appliance: in every state that operations reach one after the other from
an empty cache, a cache that is in use says what a full refresh would make it say. -/
theorem cache_mirrors {w w' : World} (hw : w.Honoured) (htidy : w.san.Tidy) (hempty : w.cache = .empty)
    (h : Sequence (fun w o _ => Truthful w o) w w') (hfresh : w'.cache.isFresh w'.now = true) :
    SameIndex w'.cache (.install w'.san.allLUNs w'.san.allTargets w'.now) := by
  have hstart : InStep w := by
    refine ⟨htidy, fun hfresh => ?_⟩
    rw [hempty] at hfresh
    cases hfresh
  have hidle : ∀ (w : World) (n : Nat), InStep w → InStep { w with now := w.now + n } := by
    intro w n hstep
    refine hstep.later ⟨fun _ => rfl, fun _ => rfl, rfl⟩ rfl ?_
    dsimp only
    omega
  obtain ⟨-, hstep⟩ := h.invariant hidle
    (fun w o r w' hok hw hstep hnow hrun => hstep.serve hw hok hnow hrun) hw hstart
  exact (hstep.mirrors hfresh).same (mirrors_install hstep.tidy _)

theorem tidy_empty : (World.of [] [] []).san.Tidy := by
  refine ⟨fun m hm => ?_, fun i j row row' h => ?_, fun i t t' h => ?_⟩
  · cases hm
  · cases h
  · cases h

theorem honoured_of (luns targets : List (Int × String)) (maps : List (Int × Int)) :
    (World.of luns targets maps).Honoured := by
  rintro _ ⟨⟩
  exact .head _

def firstVolume : World := (World.of [] [] []).after (.createVolume .plain (request "vol1")) plainly

theorem cache_mirrors_deleted : ∃ w', Sequence (fun w o _ => Truthful w o) (.of [] [] []) w' ∧
    w'.cache.lookupByName "vol1" = none ∧
    SameIndex w'.cache (.install w'.san.allLUNs w'.san.allTargets w'.now) := by
  have hspares : firstVolume.san.Spares ⟨0, 0, true, "vol1"⟩ := by
    refine ⟨fun _ => ⟨⟨⟨0, "vol1", giB⟩, by decide, by decide, .inr rfl⟩, by decide⟩, fun _ j hj => ?_⟩
    have hmaps : firstVolume.san.maps = [(0, 0)] := by decide
    rw [hmaps] at hj
    simpa using hj
  have hseq : Sequence (fun w o _ => Truthful w o) (.of [] [] []) firstVolume :=
    .after .start _ _ (fun r => r.isOk = true) (by decide) fun _ _ _ => trivial
  have hseq2 := hseq.after (.deleteVolume (ExternalID.toString ⟨0, 0, true, "vol1"⟩)) plainly
    (fun r => r.isOk = true) (by decide) ?_
  · exact ⟨_, hseq2, by decide, cache_mirrors (honoured_of _ _ _) tidy_empty rfl hseq2 (by decide)⟩
  · intro r _ _ eid hid
    rw [parseExternalID_toString hid]
    exact hspares

def twoGiB : CapacityRange := ⟨2 * giB, 0⟩

/-- A volume is expanded: the cache goes on with the old size. -/
theorem cache_keeps_old_size : ¬ ∀ w w' : World, w.Honoured → w.san.Tidy → w.cache = .empty →
    Sequence (fun _ o _ => o.changes = true ∨ o = .listVolumes) w w' →
    w'.cache.isFresh w'.now = true →
    SameIndex w'.cache (.install w'.san.allLUNs w'.san.allTargets w'.now) := by
  intro h
  have hseq : Sequence (fun _ o _ => o.changes = true ∨ o = .listVolumes) (.of [] [] [])
      firstVolume :=
    .after .start _ _ (fun r => r.isOk = true) (by decide) fun _ _ => .inl rfl
  have hseq2 := hseq.after
    (.expandVolume (ExternalID.toString ⟨0, 0, true, "vol1"⟩) twoGiB) plainly
    (fun r => r.isOk = true) (by decide) fun _ _ => .inl rfl
  have hsame := (h _ _ (honoured_of _ _ _) tidy_empty rfl hseq2 (by decide)).lookupByName "vol1"
  revert hsame
  decide

end NomadCsi.Qnap
