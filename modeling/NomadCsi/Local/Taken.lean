import NomadCsi.Zfs.Logic

/-!
# What a zvol takes from its pool

A zvol that is made takes its size from what is available on its pool, and so does growing it
(`Taken`); no other command on the way of a create changes what is available.
-/

namespace NomadCsi.Local

open Lib.Go Zfs

def available (s : Store) (pool : String) : Option Int := (s.pool? pool).map (·.available)

theorem pool?_charge (s : Store) (pool : String) (n : Int) : (s.charge pool n).pool? pool =
    (s.pool? pool).map fun p => { p with available := p.available - n } := by
  unfold Store.charge Store.pool?
  cases hp : s.pools.lookup pool with
  | none => simp [hp]
  | some p =>
    dsimp only
    rw [AList.lookup_insert]
    by_cases hi : p.imported = true
    · simp [Option.filter, hi]
    · simp [Option.filter, hi]

theorem available_charge (s : Store) (pool : String) (n : Int) :
    available (s.charge pool n) pool = (available s pool).map (· - n) := by
  unfold available
  rw [pool?_charge, Option.map_map, Option.map_map]
  rfl

theorem available_congr {s s' : Store} (h : s'.pools = s.pools) (pool : String) :
    available s' pool = available s pool := by
  unfold available Store.pool?
  rw [h]

/-- The zvol `ds` is new in `s'`, has `n` bytes, and these are what its pool has less. -/
structure Taken (s s' : Store) (ds : String) (n : Int) : Prop where
  new : s.vols.lookup ds = none
  size : ∃ v, s'.zvol? ds = some v ∧ v.volsize = n
  left : available s' (poolOf ds) = (available s (poolOf ds)).map (· - n)

variable {snap source : String} {u : Unit} {size : Int}

section

variable {s t t' : Store} {ds : String} {n : Int}

theorem taken_create {block : String} (h : serve s (.create ds size block) = (.ok u, t)) :
    Taken s t ds size := by
  obtain ⟨-, -, hz⟩ := serve_create h
  cases served h with
  | read hc => cases hc
  | create hroom => exact ⟨absent_of_room hroom, ⟨_, hz, rfl⟩, available_charge s _ _⟩

theorem pool?_create {block : String} (h : serve s (.create ds size block) = (.ok u, t)) :
    t.pool? (poolOf ds) =
      (s.pool? (poolOf ds)).map fun p => { p with available := p.available - size } := by
  cases served h with
  | read hc => cases hc
  | create => exact pool?_charge s _ _

theorem taken_sendRecv (h : serve s (.sendRecv source snap ds) = (.ok u, t)) :
    ∃ sn, s.snaps.lookup (source, snap) = some sn ∧ Taken s t ds sn.volsize := by
  obtain ⟨sn, hsn, -, -, hz⟩ := serve_sendRecv h
  refine ⟨sn, hsn, ?_⟩
  cases served h with
  | read hc => cases hc
  | sendRecv _ hsn' hroom =>
    obtain rfl := Option.some.inj (hsn'.symm.trans hsn)
    exact ⟨absent_of_room hroom, ⟨_, hz, rfl⟩, available_charge s _ _⟩

theorem same_of_snapshot {name : String} (h : serve s (.snapshot ds name) = (.ok u, t)) :
    t.pools = s.pools ∧ t.vols = s.vols := by
  cases served h with
  | read hc => cases hc
  | snapshot => exact ⟨rfl, rfl⟩

namespace Taken

theorem keep (h : Taken s t ds n) (hpools : t'.pools = t.pools)
    (hsize : (t'.zvol? ds).map (·.volsize) = (t.zvol? ds).map (·.volsize)) : Taken s t' ds n := by
  obtain ⟨v, hv, hn⟩ := h.size
  rw [hv] at hsize
  obtain ⟨v', hv', hn'⟩ := Option.map_eq_some_iff.1 hsize
  exact ⟨h.new, ⟨v', hv', hn'.trans hn⟩, (available_congr hpools _).trans h.left⟩

theorem of_same {s1 : Store} (h : Taken s1 t ds n) (hpools : s1.pools = s.pools)
    (hvols : s1.vols = s.vols) : Taken s t ds n :=
  ⟨hvols ▸ h.new, h.size, available_congr hpools _ ▸ h.left⟩

theorem destroySnapshot (h : Taken s t ds n)
    (hserve : serve t (.destroySnapshot source snap) = (.ok u, t')) : Taken s t' ds n := by
  obtain ⟨-, hz⟩ := serve_destroySnapshot hserve
  refine h.keep ?_ (by rw [hz])
  cases served hserve with
  | read hc => cases hc
  | destroySnapshot => rfl

theorem setProp {prop value : String} (h : Taken s t ds n)
    (hserve : serve t (.setProp ds prop value) = (.ok u, t')) : Taken s t' ds n := by
  obtain ⟨v, hv, -, hz⟩ := serve_setProp hserve
  refine h.keep ?_ (by rw [hz, hv]; rfl)
  cases served hserve with
  | read hc => cases hc
  | setProp => rfl

theorem setVolsize (h : Taken s t ds n) (hserve : serve t (.setVolsize ds size) = (.ok u, t')) :
    Taken s t' ds size := by
  obtain ⟨v, hv, -, hz⟩ := serve_setVolsize hserve
  obtain ⟨v', hv', rfl⟩ := h.size
  obtain rfl : v = v' := Option.some.inj (hv.symm.trans hv')
  refine ⟨h.new, ⟨_, hz, rfl⟩, ?_⟩
  cases served hserve with
  | read hc => cases hc
  | setVolsize hv' =>
    obtain rfl := Option.some.inj (hv.symm.trans hv')
    change available (t.charge (poolOf ds) (size - v.volsize)) (poolOf ds) = _
    -- the source's size first, then the difference
    rw [available_charge, h.left, Option.map_map]
    congr 1
    funext x
    simp only [Function.comp]
    omega

end Taken

end

end NomadCsi.Local
