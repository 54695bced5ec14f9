import NomadCsi.Qnap.San

/-!
# What a client call does

`Effect s c v s'` lists what a served call `c` can return and do; `San.serve_effect`
says that there is nothing else. The frame lemmas follow from it by cases: a LUN keeps
its name until it is deleted (`Effect.carries`), and only a call that creates a LUN
adds a name or a mapping (`Effect.carries_of_carries`, `Effect.maps_subset`).
-/

namespace NomadCsi.Qnap

open Lib.Go

variable {s : San} {i t : Int} {name : String} {l : LUN}

namespace San

@[simp] theorem lookup_addLUN (s : San) (i j t : Int) (row : LunRow) :
    (s.addLUN i row t).luns.lookup j = if j = i then some row else s.luns.lookup j :=
  lookup_insert_if s.luns i j row

@[simp] theorem lookup_dropLUN (s : San) (i j : Int) :
    (s.dropLUN i).luns.lookup j = if j = i then none else s.luns.lookup j := by
  unfold dropLUN
  split
  · next h => rw [h, AList.lookup_erase]
  · next h => rw [AList.lookup_erase_ne h]

@[simp] theorem lookup_resize (s : San) (i j gb : Int) (row : LunRow) :
    (s.resize i row gb).luns.lookup j =
      if j = i then some { row with capacityBytes := gb * giB } else s.luns.lookup j :=
  lookup_insert_if s.luns i j _

theorem carries_iff_lun : s.Carries i name ↔ ∃ l, s.lun i = some l ∧ l.name = name := by
  unfold Carries lun
  cases s.luns.lookup i with
  | none => simp
  | some row => simp

theorem Carries.mem (h : s.Carries i name) : i ∈ s.luns := by
  obtain ⟨row, hrow, -⟩ := Option.map_eq_some_iff.1 h
  exact AList.lookup_isSome.1 (by rw [hrow]; rfl)

theorem mem_lunsOf : i ∈ s.lunsOf t ↔ (i, t) ∈ s.maps := by
  unfold lunsOf
  simp only [List.mem_filterMap, Option.ite_none_right_eq_some, Option.some.injEq]
  constructor
  · rintro ⟨⟨a, b⟩, hm, rfl, rfl⟩
    exact hm
  · intro hm
    exact ⟨_, hm, rfl, rfl⟩

theorem mem_luns : i ∈ s.luns ↔ ∃ row, s.luns.lookup i = some row := by
  rw [← AList.lookup_isSome, Option.isSome_iff_exists]

theorem mem_targets : t ∈ s.targets ↔ ∃ row, s.targets.lookup t = some row := by
  rw [← AList.lookup_isSome, Option.isSome_iff_exists]

theorem mem_allLUNs : l ∈ s.allLUNs ↔ s.lun l.index = some l := by
  obtain ⟨i, name, cap⟩ := l
  unfold allLUNs lun
  rw [List.mem_map, Option.map_eq_some_iff]
  constructor
  · rintro ⟨e, he, heq⟩
    obtain ⟨rfl, rfl, rfl⟩ := LUN.mk.inj heq
    exact ⟨e.2, AList.mem_lookup_iff.2 he, rfl⟩
  · rintro ⟨row, hrow, heq⟩
    exact ⟨⟨i, row⟩, AList.mem_lookup_iff.1 hrow, heq⟩

theorem mem_allTargets {x : Target} : x ∈ s.allTargets ↔ s.target x.index = some x := by
  obtain ⟨t, iqn, aliasName, luns⟩ := x
  unfold allTargets target
  rw [List.mem_map, Option.map_eq_some_iff]
  constructor
  · rintro ⟨e, he, heq⟩
    obtain ⟨rfl, rfl, rfl, rfl⟩ := Target.mk.inj heq
    exact ⟨e.2, AList.mem_lookup_iff.2 he, rfl⟩
  · rintro ⟨row, hrow, heq⟩
    exact ⟨⟨t, row⟩, AList.mem_lookup_iff.1 hrow, heq⟩

theorem target_eq_some {x : Target} : s.target t = some x ↔
    x.index = t ∧ s.targets.lookup t = some ⟨x.iqn, x.aliasName⟩ ∧ x.luns = s.lunsOf t := by
  obtain ⟨t', iqn, aliasName, luns⟩ := x
  unfold target
  rw [Option.map_eq_some_iff]
  constructor
  · rintro ⟨row, hrow, heq⟩
    obtain ⟨rfl, rfl, rfl, rfl⟩ := Target.mk.inj heq
    exact ⟨rfl, hrow, rfl⟩
  · rintro ⟨ht, hrow, hluns⟩
    refine ⟨_, hrow, ?_⟩
    rw [← hluns, ← ht]

end San

/-- The name and the target of the LUN a call creates. -/
def SanCall.newLUN : SanCall → Option (String × Int)
  | .createBlockLUN r => some (r.name, r.targetIndex)
  | .cloneLUN r => some (r.name, r.targetIndex)
  | .createLUNFromSnapshot r => some (r.name, r.targetIndex)
  | _ => none

def SanCall.reads : SanCall → Bool
  | .getLUN _ | .listLUNs | .waitForLUNGone _ | .waitForResizeComplete _ _ | .getTarget _
  | .listTargets | .getPool _ | .listSnapshots _ | .waitForSnapshotGone _ _ => true
  | _ => false

/-- What a served call does to the appliance. -/
inductive Effect (s : San) : (c : SanCall) → c.Val → San → Prop where
  | read {c : SanCall} (v : c.Val) (h : c.reads = true) : Effect s c v s
  | addBlock {r : CreateBlockLUNRequest} (i : Int) (row : LunRow) (hn : row.name = r.name)
      (hi : i ∉ s.luns) (ht : r.targetIndex ∈ s.targets) :
      Effect s (.createBlockLUN r) i (s.addLUN i row r.targetIndex)
  | addClone {r : CloneLUNRequest} (i : Int) (row : LunRow) (hn : row.name = r.name)
      (hi : i ∉ s.luns) (ht : r.targetIndex ∈ s.targets) (hs : r.sourceLUNIndex ∈ s.luns) :
      Effect s (.cloneLUN r) i (s.addLUN i row r.targetIndex)
  | addRestore {r : CreateLUNFromSnapshotRequest} (i : Int) (row : LunRow) (hn : row.name = r.name)
      (hi : i ∉ s.luns) (ht : r.targetIndex ∈ s.targets) :
      Effect s (.createLUNFromSnapshot r) i (s.addLUN i row r.targetIndex)
  | dropLUN (i : Int) (hi : i ∈ s.luns) : Effect s (.deleteLUN i) () (s.dropLUN i)
  | unmap (i t : Int) : Effect s (.unmapLUN i t) () (s.unmap i t)
  | resize (i gb : Int) (row : LunRow) (h : s.luns.lookup i = some row) :
      Effect s (.resizeLUN i gb) () (s.resize i row gb)
  | addTarget {r : CreateTargetRequest} (t : Int) (iqn : String) (h : t ∉ s.targets) :
      Effect s (.createTarget r) t { s with targets := s.targets.insert t ⟨iqn, r.aliasName⟩ }
  | dropTarget (t : Int) : Effect s (.deleteTarget t) () (s.dropTarget t)
  | addSnap {r : SnapRequest} (i : Int) (snap : SanSnapshot) (hi : i ∈ s.luns) :
      Effect s (.createSnapshot i r) snap { s with snaps := s.snaps ++ [⟨i, snap⟩] }
  | dropSnap (id : Int) :
      Effect s (.deleteSnapshot id) () { s with snaps := s.snaps.filter (·.snap.id ≠ id) }

variable {ch : SanChoice} {s' : San}

namespace San

theorem lun_isSome (h : s.lun i = some l) : i ∈ s.luns := by
  obtain ⟨row, hrow, -⟩ := Option.map_eq_some_iff.1 h
  exact AList.lookup_isSome.1 (by rw [hrow]; rfl)

theorem create_eq_some {row : LunRow} {v : Int} (h : s.create ch row t = some (v, s')) :
    v ∉ s.luns ∧ t ∈ s.targets ∧ s' = s.addLUN v row t := by
  unfold create at h
  split at h
  · cases h
  · next hc =>
    cases h
    rw [not_or, not_not] at hc
    exact ⟨hc.1, hc.2, rfl⟩

theorem serve_getLUN (h : s.serve (.getLUN i) ch = some (l, s')) :
    s' = s ∧ (s.lun i = some l ∨ s.lun i = none ∧ l = ⟨i, "", 0⟩) := by
  simp only [serve] at h
  split at h
  · next hl =>
    cases h
    exact ⟨rfl, .inl hl⟩
  · next hl =>
    split at h
    · cases h
      exact ⟨rfl, .inr ⟨hl, rfl⟩⟩
    · cases h

theorem getLUN_eq {l' : LUN} (hl : s.lun i = some l) (h : s.serve (.getLUN i) ch = some (l', s')) :
    l = l' := by
  rcases (serve_getLUN h).2 with h | ⟨h, -⟩
  · exact Option.some.inj (hl.symm.trans h)
  · rw [h] at hl
    cases hl

theorem serve_listSnapshots {v : List SanSnapshot}
    (h : s.serve (.listSnapshots i) ch = some (v, s')) : v = s.snapsOf i := by
  cases h
  rfl

theorem Carries.getLUN (hc : s.Carries i name) (h : s.serve (.getLUN i) ch = some (l, s')) :
    l.name = name := by
  obtain ⟨l', hl', hn⟩ := carries_iff_lun.1 hc
  rcases (serve_getLUN h).2 with hl | ⟨hl, -⟩
  · rw [hl'] at hl
    rw [← Option.some.inj hl, hn]
  · rw [hl'] at hl
    cases hl

theorem carries_of_getLUN (h : s.serve (.getLUN i) ch = some (l, s')) (hl : l.name ≠ "") :
    s.Carries i l.name := by
  rcases (serve_getLUN h).2 with h | ⟨-, rfl⟩
  · exact carries_iff_lun.2 ⟨l, h, rfl⟩
  · exact absurd rfl hl

theorem serve_effect {c : SanCall} {v : c.Val} (h : s.serve c ch = some (v, s')) :
    Effect s c v s' := by
  cases c with
  | createBlockLUN r =>
    obtain ⟨hi, ht, rfl⟩ := create_eq_some h
    exact .addBlock v _ rfl hi ht
  | cloneLUN r =>
    obtain ⟨l, hl, h⟩ := Option.bind_eq_some_iff.1 h
    obtain ⟨hi, ht, rfl⟩ := create_eq_some h
    exact .addClone v _ rfl hi ht (lun_isSome hl)
  | createLUNFromSnapshot r =>
    obtain ⟨sn, -, h⟩ := Option.bind_eq_some_iff.1 h
    obtain ⟨hi, ht, rfl⟩ := create_eq_some h
    exact .addRestore v _ rfl hi ht
  | getLUN i =>
    simp only [serve] at h
    split at h
    · cases h
      exact .read _ rfl
    · split at h
      · cases h
        exact .read _ rfl
      · cases h
  | listLUNs | listTargets | listSnapshots =>
    cases h
    exact .read _ rfl
  | deleteLUN i =>
    simp only [serve] at h
    split at h
    · next hi =>
      cases h
      exact .dropLUN i hi
    · cases h
  | unmapLUN i t =>
    simp only [serve] at h
    split at h
    · cases h
      exact .unmap i t
    · cases h
  | waitForLUNGone | waitForSnapshotGone =>
    simp only [serve] at h
    split at h
    · cases h
    · cases h
      exact .read _ rfl
  | resizeLUN i gb =>
    obtain ⟨row, hrow, h⟩ := Option.map_eq_some_iff.1 h
    cases h
    exact .resize i gb row hrow
  | waitForResizeComplete i bytes =>
    obtain ⟨l, -, h⟩ := Option.bind_eq_some_iff.1 h
    split at h
    · cases h
      exact .read _ rfl
    · cases h
  | createTarget r =>
    simp only [serve] at h
    split at h
    · cases h
    · next ht =>
      cases h
      exact .addTarget _ _ ht
  | getTarget t =>
    obtain ⟨x, -, h⟩ := Option.map_eq_some_iff.1 h
    cases h
    exact .read _ rfl
  | deleteTarget t =>
    simp only [serve] at h
    split at h
    · cases h
      exact .dropTarget t
    · cases h
  | getPool p =>
    obtain ⟨free, -, h⟩ := Option.map_eq_some_iff.1 h
    cases h
    exact .read _ rfl
  | createSnapshot i r =>
    obtain ⟨l, hl, h⟩ := Option.bind_eq_some_iff.1 h
    dsimp only at h
    split at h
    · cases h
    · cases h
      exact .addSnap i _ (lun_isSome hl)
  | deleteSnapshot id =>
    simp only [serve] at h
    split at h
    · cases h
      exact .dropSnap id
    · cases h

end San

namespace Effect

variable {s s' : San} {c : SanCall} {v : c.Val} {i t : Int} {name : String}

theorem carries_addLUN {j : Int} {row : LunRow} (hj : j ∉ s.luns) :
    s.Carries i name → (s.addLUN j row t).Carries i name := by
  intro h
  have hij : i ≠ j := fun e => hj (e ▸ h.mem)
  simpa [San.Carries, hij] using h

theorem carries (h : Effect s c v s') (hc : c ≠ .deleteLUN i) (hn : s.Carries i name) :
    s'.Carries i name := by
  cases h with
  | read | unmap | addTarget | dropTarget | addSnap | dropSnap => exact hn
  | addBlock _ _ _ hj | addClone _ _ _ hj | addRestore _ _ _ hj => exact carries_addLUN hj hn
  | dropLUN j hj =>
    have hij : i ≠ j := fun e => hc (by rw [e])
    simpa [San.Carries, hij] using hn
  | resize j gb row hrow =>
    unfold San.Carries at hn ⊢
    rw [San.lookup_resize]
    split
    · next hij =>
      rw [hij, hrow] at hn
      exact hn
    · exact hn

theorem carries_of_carries (h : Effect s c v s') (hc : c.newLUN = none)
    (hn : s'.Carries i name) : s.Carries i name := by
  cases h with
  | read | unmap | addTarget | dropTarget | addSnap | dropSnap => exact hn
  | addBlock | addClone | addRestore => cases hc
  | dropLUN j hj =>
    unfold San.Carries at hn ⊢
    rw [San.lookup_dropLUN] at hn
    split at hn
    · cases hn
    · exact hn
  | resize j gb row hrow =>
    unfold San.Carries at hn ⊢
    rw [San.lookup_resize] at hn
    split at hn
    · next hij =>
      rw [hij, hrow]
      exact hn
    · exact hn

theorem snapsOf_nil (h : Effect s c v s') (hc : ∀ r, c ≠ .createSnapshot i r)
    (hn : s.snapsOf i = []) : s'.snapsOf i = [] := by
  have hsub : ∀ {l : List SnapRow}, (∀ x ∈ l, x.lun = i → x ∈ s.snaps) →
      (l.filter (·.lun = i)).map (·.snap) = [] := by
    intro l hl
    simp only [San.snapsOf, List.map_eq_nil_iff, List.filter_eq_nil_iff, decide_eq_true_eq]
      at hn ⊢
    exact fun x hx hi => hn x (hl x hx hi) hi
  cases h with
  | read | resize | addBlock | addClone | addRestore | unmap | addTarget | dropTarget => exact hn
  | dropLUN | dropSnap => exact hsub fun x hx _ => (List.mem_filter.1 hx).1
  | @addSnap r j =>
    refine hsub fun x hx hi => ?_
    rcases List.mem_append.1 hx with hx | hx
    · exact hx
    · obtain rfl := List.mem_singleton.1 hx
      obtain rfl : j = i := hi
      exact absurd rfl (hc r)

theorem maps_mem (h : Effect s c v s') (hl : c ≠ .deleteLUN i) (ht : c ≠ .deleteTarget t)
    (hu : c ≠ .unmapLUN i t) (hm : (i, t) ∈ s.maps) : (i, t) ∈ s'.maps := by
  cases h with
  | read | resize | addTarget | addSnap | dropSnap => exact hm
  | addBlock | addClone | addRestore => exact List.mem_append_left _ hm
  | dropLUN j =>
    have : i ≠ j := fun e => hl (by rw [e])
    simpa [San.dropLUN, this] using hm
  | dropTarget t' =>
    have : t ≠ t' := fun e => ht (by rw [e])
    simpa [San.dropTarget, this] using hm
  | unmap j t' =>
    refine List.mem_filter.2 ⟨hm, decide_eq_true fun e => hu ?_⟩
    obtain ⟨rfl, rfl⟩ := Prod.mk.inj e
    rfl

theorem maps_subset (h : Effect s c v s') (hc : c.newLUN = none) : s'.maps ⊆ s.maps := by
  cases h with
  | read | resize | addTarget | addSnap | dropSnap => exact List.Subset.refl _
  | addBlock | addClone | addRestore => cases hc
  | dropLUN | unmap | dropTarget => exact List.filter_subset_self _

end Effect

namespace San

theorem carries_of_serve {c : SanCall} {v : c.Val} (h : s.serve c ch = some (v, s'))
    (hn : s'.Carries i name) (hold : ¬ s.Carries i name) :
    ch.index = i ∧ ∃ t, c.newLUN = some (name, t) := by
  have hnew : ∀ {row : LunRow} {t : Int} {v : Int}, s.create ch row t = some (v, s') →
      ch.index = i ∧ row.name = name := by
    intro row t v hc
    unfold create at hc
    split at hc
    · cases hc
    · cases hc
      unfold Carries at hn hold
      rw [lookup_addLUN] at hn
      split at hn
      · next hi => exact ⟨hi.symm, Option.some.inj hn⟩
      · exact absurd hn hold
  cases hl : c.newLUN with
  | none => exact absurd ((serve_effect h).carries_of_carries hl hn) hold
  | some new =>
    cases c with
    | createBlockLUN r =>
      obtain ⟨hi, rfl⟩ := hnew h
      exact ⟨hi, _, hl.symm⟩
    | cloneLUN r =>
      obtain ⟨l, -, h⟩ := Option.bind_eq_some_iff.1 h
      obtain ⟨hi, rfl⟩ := hnew h
      exact ⟨hi, _, hl.symm⟩
    | createLUNFromSnapshot r =>
      obtain ⟨sn, -, h⟩ := Option.bind_eq_some_iff.1 h
      obtain ⟨hi, rfl⟩ := hnew h
      exact ⟨hi, _, hl.symm⟩
    | _ => cases hl

end San

/-- LUN `i` carries `name` and is mapped to target `t`. -/
def San.Made (s : San) (i : Int) (name : String) (t : Int) : Prop :=
  s.Carries i name ∧ (i, t) ∈ s.maps

/-- A new LUN `i` of the name is put on target `t`. -/
def San.Adds (s : San) (i : Int) (name : String) (t : Int) (s' : San) : Prop :=
  i ∉ s.luns ∧ t ∈ s.targets ∧ ∃ row : LunRow, row.name = name ∧ s' = s.addLUN i row t

theorem San.Adds.made (h : s.Adds i name t s') : s'.Made i name t := by
  obtain ⟨-, -, row, rfl, rfl⟩ := h
  exact ⟨by simp [San.Carries], by simp [San.addLUN]⟩

namespace Effect

variable {s s' : San} {i : Int}

theorem adds_block {r : CreateBlockLUNRequest} (h : Effect s (.createBlockLUN r) i s') :
    s.Adds i r.name r.targetIndex s' := by
  cases h with
  | read _ hr => cases hr
  | addBlock _ row hn hi ht => exact ⟨hi, ht, row, hn, rfl⟩

theorem adds_clone {r : CloneLUNRequest} (h : Effect s (.cloneLUN r) i s') :
    s.Adds i r.name r.targetIndex s' := by
  cases h with
  | read _ hr => cases hr
  | addClone _ row hn hi ht => exact ⟨hi, ht, row, hn, rfl⟩

theorem adds_restore {r : CreateLUNFromSnapshotRequest}
    (h : Effect s (.createLUNFromSnapshot r) i s') : s.Adds i r.name r.targetIndex s' := by
  cases h with
  | read _ hr => cases hr
  | addRestore _ row hn hi ht => exact ⟨hi, ht, row, hn, rfl⟩

end Effect

end NomadCsi.Qnap
