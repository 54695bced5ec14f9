import NomadCsi.Lib.Segments
import NomadCsi.Local.Create

/-!
# The reserve of a pool

A create that makes a zvol takes exactly the size of that zvol from its pool, and a copy is as
large as its source or as the request, whichever is more (`madeSize`). The guard looks at the
request alone.
-/

namespace NomadCsi.Local

open Lib Lib.Go Driver Zfs

/-! ### What a create takes -/

section

variable {c : Controller} {a : CreateArgs} {s : Store} {ds : String}

/-- What a create makes: the requested bytes, or those of a larger source. -/
def madeSize (a : CreateArgs) (s : Store) : Int :=
  max ((sourceSize a s).getD a.sizeBytes) a.sizeBytes

theorem Origin.size_eq {v : Zvol} (h : Origin a ds s v) (hnew : s.zvol? ds = none) :
    v.volsize = madeSize a s := by
  unfold madeSize
  cases h with
  | existing hv =>
    rw [hnew] at hv
    cases hv
  | fresh hsrc _ hsize =>
    obtain ⟨hsnap, hvol⟩ := contentSourceID_eq_empty.1 hsrc
    have hnone : sourceSize a s = none := by
      simp [sourceSize, hsnap, hvol, show parseExternalID "" = .error (malformedVolumeID "") from rfl]
    rw [hnone, Option.getD_none, hsize]
    omega
  | copied size _ _ hsource hsize _ =>
    rw [hsource]
    exact hsize

theorem yields_localCreate_taken : Yields zfsAct (localCreate c a) s fun _ t =>
    (t = s ∧ s.vols.lookup (a.dataset c) ≠ none) ∨
      (Guarded c a s ∧ Taken s t (a.dataset c) (madeSize a s)) := by
  refine Ends.mono yields_localCreate ?_ fun _ _ _ => trivial
  rintro _ t ⟨-, -, -, v, hv, horigin, rfl | ⟨hguard, htaken⟩⟩
  · refine .inl ⟨rfl, ?_⟩
    rw [lookup_of_zvol? (show t.zvol? (a.dataset c) = some v from hv)]
    simp
  · have hnew : s.zvol? (a.dataset c) = none := by
      cases hz : s.zvol? (a.dataset c) with
      | none => rfl
      | some z => cases htaken.new.symm.trans (lookup_of_zvol? hz)
    exact .inr ⟨hguard, horigin.size_eq hnew ▸ htaken⟩

end

/-! ### The floor -/

theorem wrap64_le {n : Int} (h : 0 ≤ n) : wrap64 n ≤ n := by
  unfold wrap64
  omega

theorem toList_parentDatasetFor (c : Controller) (pool : String) :
    ∃ rest, (c.parentDatasetFor pool).toList = pool.toList ++ '/' :: rest :=
  ⟨_, toList_slash pool _⟩

theorem poolOf_dataset {c : Controller} {a : CreateArgs} (h : '/' ∉ a.pool.toList) :
    poolOf (a.dataset c) = a.pool := by
  obtain ⟨rest, hrest⟩ := toList_parentDatasetFor c a.pool
  refine poolOf_eq h ⟨rest ++ '/' :: a.name.toList, ?_⟩
  change (c.parentDatasetFor a.pool ++ "/" ++ a.name).toList = _
  rw [toList_slash, hrest, List.append_assoc]
  rfl

def floor (c : Controller) (pool : String) (p : Pool) : Int :=
  reserveBytes p.size (c.cfg.reserveFor pool)

/-- What passes the guard leaves the reserve: the difference does not wrap. -/
theorem floor_le_of_guard {c : Controller} {pool : String} {p : Pool} {avail : Int}
    (hfloor : floor c pool p ≤ avail) (hguard : size ≤ overReserve c.cfg pool avail p.size) :
    floor c pool p ≤ avail - size := by
  have hwrap := wrap64_le (n := avail - floor c pool p) (by omega)
  unfold overReserve at hguard
  unfold floor at hwrap ⊢
  omega

/-- A create that succeeds on a pool over its reserve leaves it over its reserve exactly if it
finds its zvol, or makes one whose source is no larger than the request, or one whose source leaves
the reserve as well. -/
theorem localCreate_reserve_iff {c : Controller} {a : CreateArgs} {s s' : Store} {p : Pool}
    {tr : List ZfsEv} {res : CreateResult}
    (hnamed : ∀ pool, s.pools.lookup pool ≠ none → '/' ∉ pool.toList)
    (hpool : s.pool? a.pool = some p) (hfloor : floor c a.pool p ≤ p.available)
    (hrun : Runs zfsAct (localCreate c a).run s tr (.ok res) s') :
    (∃ p', s'.pool? a.pool = some p' ∧ floor c a.pool p ≤ p'.available) ↔
      s.vols.lookup (a.dataset c) ≠ none ∨ ∀ size, sourceSize a s = some size →
        size ≤ a.sizeBytes ∨ floor c a.pool p ≤ p.available - size := by
  rcases (Ends.runs yields_localCreate_taken hrun).2 with ⟨rfl, hthere⟩ | ⟨hguard, htaken⟩
  · exact iff_of_true ⟨p, hpool, hfloor⟩ (.inl hthere)
  have hslash : '/' ∉ a.pool.toList := by
    refine hnamed a.pool fun hnone => ?_
    unfold Store.pool? at hpool
    rw [hnone] at hpool
    cases hpool
  -- the guard, without wrapping
  have hasked : floor c a.pool p ≤ p.available - a.sizeBytes := by
    obtain ⟨p', hp', hleft⟩ := hguard
    obtain rfl : p = p' := Option.some.inj (hpool.symm.trans hp')
    exact floor_le_of_guard hfloor hleft
  -- what is left
  obtain ⟨p', hp', havail⟩ : ∃ p', s'.pool? a.pool = some p' ∧
      p'.available = p.available - madeSize a s := by
    have hleft := htaken.left
    rw [poolOf_dataset hslash] at hleft
    unfold available at hleft
    rw [hpool] at hleft
    exact Option.map_eq_some_iff.1 hleft
  have hfits : (∃ p', s'.pool? a.pool = some p' ∧ floor c a.pool p ≤ p'.available) ↔
      floor c a.pool p ≤ p.available - madeSize a s := by
    rw [hp', ← havail]
    simp
  have hnew : ¬ s.vols.lookup (a.dataset c) ≠ none := not_not.2 htaken.new
  rw [hfits, or_iff_right hnew]
  unfold madeSize
  cases sourceSize a s with
  | none => simpa using hasked
  | some size =>
    simp only [Option.getD_some, Option.some.injEq, forall_eq']
    omega

def halfReserved : Controller :=
  { tankController "a" with cfg := ⟨[{ name := "tank" }], "tank", "", 50⟩ }

theorem tankStore_named (n : Int) (pool : String) (h : (tankStore n).pools.lookup pool ≠ none) :
    '/' ∉ pool.toList := by
  by_cases hp : pool = "tank"
  · subst hp
    decide
  · exact absurd (AList.lookup_insert_ne hp) h

theorem localCreate_reserve_tank :
    ∃ tr res s' p', Runs zfsAct (localCreate halfReserved tankArgs).run (tankStore 1000000) tr
        (.ok res) s' ∧ s'.pool? "tank" = some p' ∧ (524250 : Int) ≤ p'.available := by
  obtain ⟨tr, res, s', hrun, -⟩ := runs_ok_of_exec zfsAct (localCreate halfReserved tankArgs).run
    (tankStore 1000000) (List.replicate 10 {}) (fun _ => True) (by decide)
  obtain ⟨p', hp', hleft⟩ := (localCreate_reserve_iff (tankStore_named _)
    (p := ⟨true, "ONLINE", 1000000, 2 ^ 20, 1000000⟩) rfl (by decide) hrun).2
      (.inr fun size h => by cases h)
  exact ⟨tr, res, s', p', hrun, hp', hleft⟩

/-- A clone that asks for less than its source has. -/
theorem clone_under_reserve :
    ∃ tr res s', Runs zfsAct (localCreate halfReserved tankClone).run
        ((tankStore 1000000).putVol "tank/csi/src" ⟨491520, "16K", ∅, 0⟩) tr (.ok res) s' ∧
      available (tankStore 1000000) "tank" = some 1000000 ∧
      reserveBytes (2 ^ 20) (halfReserved.cfg.reserveFor "tank") = 524250 ∧
      available s' "tank" = some 508480 := by
  obtain ⟨tr, res, s', hrun, hleft⟩ := runs_ok_of_exec zfsAct (localCreate halfReserved tankClone).run
    ((tankStore 1000000).putVol "tank/csi/src" ⟨491520, "16K", ∅, 0⟩) (List.replicate 20 {})
    (fun r => available r.2.2 "tank" = some 508480) (by decide)
  exact ⟨tr, res, s', hrun, by decide, by decide, hleft⟩

end NomadCsi.Local
