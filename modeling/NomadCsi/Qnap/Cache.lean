import NomadCsi.Qnap.San

/-!
# The controller's LUN cache

The LUN and target index the controller consults instead of scanning the appliance
(`qnap/cache.go`). It is rebuilt in bulk when older than `cacheTTL` and patched by
`addLUN` and `removeLUN` in between; nothing else keeps it in step with the appliance.
-/

namespace NomadCsi.Qnap

open Lib.Go

def cacheTTL : Int := 60 * 10 ^ 9

structure LunCache where
  byName : Map String LUN
  lunToTarget : Map Int Target
  loaded : Bool
  lastRefresh : Int

namespace LunCache

def empty : LunCache := ⟨∅, ∅, false, 0⟩

/-- The check of `ensureFresh`: no refetch is due at time `now`. -/
def isFresh (c : LunCache) (now : Int) : Bool :=
  c.loaded && timeSub now c.lastRefresh < cacheTTL

/-- Later LUNs of one name win. -/
def indexByName (luns : List LUN) : Map String LUN :=
  luns.foldl (fun m l => m.insert l.name l) ∅

/-- Later targets of one LUN win. -/
def indexTargets (targets : List Target) : Map Int Target :=
  targets.foldl (fun m t => t.luns.foldl (fun m idx => m.insert idx t) m) ∅

/-- The rebuild at the end of `ensureFresh`. -/
def install (luns : List LUN) (targets : List Target) (now : Int) : LunCache :=
  ⟨indexByName luns, indexTargets targets, true, now⟩

def lookupByName (c : LunCache) (name : String) : Option LUN := c.byName.lookup name

def targetForLUN (c : LunCache) (lunIndex : Int) : Option Target := c.lunToTarget.lookup lunIndex

def all (c : LunCache) : List LUN := c.byName.entries.map (·.2)

def addLUN (c : LunCache) (lun : LUN) (target : Target) : LunCache :=
  { c with
    byName := c.byName.insert lun.name lun
    lunToTarget := c.lunToTarget.insert lun.index target }

/-- The names `removeLUN` may drop: it deletes the first one its map iteration meets. -/
def namesAt (c : LunCache) (lunIndex : Int) : List String :=
  (c.byName.entries.filter (·.2.index = lunIndex)).map (·.1)

def removeLUN (c : LunCache) (lunIndex : Int) (pick : Nat) : LunCache :=
  { c with
    byName := match (c.namesAt lunIndex)[pick % (c.namesAt lunIndex).length]? with
      | some name => c.byName.erase name
      | none => c.byName
    lunToTarget := c.lunToTarget.erase lunIndex }

theorem lookup_indexByName {luns : List LUN} {name : String} {l : LUN}
    (h : (indexByName luns).lookup name = some l) : l ∈ luns ∧ l.name = name := by
  rcases lookup_foldl_insert h with ⟨l', hl', hn, rfl⟩ | h
  · exact ⟨hl', hn⟩
  · cases h

theorem indexTargets_eq (targets : List Target) : indexTargets targets =
    (targets.flatMap fun t => t.luns.map fun idx => (idx, t)).foldl
      (fun m p => m.insert p.1 p.2) ∅ := by
  unfold indexTargets
  rw [List.foldl_flatMap]
  simp only [List.foldl_map]

theorem lookup_indexTargets {targets : List Target} {i : Int} {t : Target}
    (h : (indexTargets targets).lookup i = some t) : t ∈ targets ∧ i ∈ t.luns := by
  rw [indexTargets_eq] at h
  rcases lookup_foldl_insert h with ⟨p, hp, rfl, rfl⟩ | h
  · obtain ⟨t, ht, hp⟩ := List.mem_flatMap.1 hp
    obtain ⟨idx, hidx, rfl⟩ := List.mem_map.1 hp
    exact ⟨ht, hidx⟩
  · cases h

theorem mem_namesAt {k : LunCache} {i : Int} {name : String} :
    name ∈ k.namesAt i ↔ ∃ l, k.lookupByName name = some l ∧ l.index = i := by
  unfold namesAt lookupByName
  simp only [List.mem_map, List.mem_filter, decide_eq_true_eq]
  constructor
  · rintro ⟨⟨n, l⟩, ⟨he, hi⟩, rfl⟩
    exact ⟨l, AList.mem_lookup_iff.2 he, hi⟩
  · rintro ⟨l, hl, hi⟩
    exact ⟨⟨name, l⟩, ⟨AList.mem_lookup_iff.1 hl, hi⟩, rfl⟩

/-- If one name at most leads to the index, it is the one that `removeLUN` drops. -/
theorem lookupByName_removeLUN {k : LunCache} {i : Int} (pick : Nat)
    (hone : ∀ n ∈ k.namesAt i, ∀ n' ∈ k.namesAt i, n = n') (name : String) :
    (k.removeLUN i pick).lookupByName name =
      (k.lookupByName name).filter fun l => decide (l.index ≠ i) := by
  unfold removeLUN
  rw [lookupByName]
  dsimp only
  split
  · next n hn =>
    have hmem : n ∈ k.namesAt i := List.mem_of_getElem? hn
    by_cases hname : name = n
    · obtain ⟨l, hl, hi⟩ := mem_namesAt.1 hmem
      rw [hname, AList.lookup_erase, hl, Option.filter_some, if_neg (by simp [hi])]
    · rw [AList.lookup_erase_ne hname]
      change k.lookupByName name = _
      cases hl : k.lookupByName name with
      | none => rfl
      | some l =>
        have hi : l.index ≠ i := fun hi =>
          hname (hone _ (mem_namesAt.2 ⟨l, hl, hi⟩) _ hmem)
        rw [Option.filter_some, if_pos (decide_eq_true hi)]
  · next hn =>
    -- the pick is in range, so there is no such name
    have hnil : k.namesAt i = [] := by
      by_contra hne
      have hpos : 0 < (k.namesAt i).length := List.length_pos_iff.2 hne
      have hlt := Nat.mod_lt pick hpos
      rw [List.getElem?_eq_getElem hlt] at hn
      cases hn
    change k.lookupByName name = _
    cases hl : k.lookupByName name with
    | none => rfl
    | some l =>
      have hi : l.index ≠ i := by
        intro hi
        have hmem := mem_namesAt.2 ⟨l, hl, hi⟩
        rw [hnil] at hmem
        cases hmem
      rw [Option.filter_some, if_pos (decide_eq_true hi)]

theorem targetForLUN_removeLUN (k : LunCache) (i : Int) (pick : Nat) (j : Int) :
    (k.removeLUN i pick).targetForLUN j = if j = i then none else k.targetForLUN j := by
  change (k.lunToTarget.erase i).lookup j = _
  split
  · next h => rw [h, AList.lookup_erase]
  · next h =>
    rw [AList.lookup_erase_ne h]
    rfl

end LunCache

end NomadCsi.Qnap
