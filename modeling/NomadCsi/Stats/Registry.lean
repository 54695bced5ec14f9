import Mathlib.Data.List.Dedup
import NomadCsi.Lib.Go
import NomadCsi.Lib.Pool

/-!
# The stats registry

The node-side registry of `stats/registry.go`: which volumes are measured (`vols`), what is
known of them (`cache`), and how many sweeps in a row have missed a cached one (`absent`).
Each section under the registry's mutex is one call; `Track`, `Untrack` and `Reconcile` are
programs over the sections, and a `Pool` runs any number of them side by side. The
measurements themselves and the workers that take them are left out: they change no key of
the three maps.
-/

namespace NomadCsi.Stats

open Lib Lib.Go

inductive AccessType where
  | mount
  | block
deriving DecidableEq, Repr

structure CSIVolumeStats where
  volumeID : String
  node : String
  accessType : AccessType
deriving DecidableEq, Repr

structure TrackSpec where
  volumeID : String
  stagingPath : String
  accessType : AccessType
deriving DecidableEq, Repr

/-- `vols` holds the staging path of each volume that has a worker. -/
structure Registry where
  node : String
  vols : Map String String
  cache : Map String CSIVolumeStats
  absent : Map String Int64

/-- The keys of a map in the order a range over it takes: some of them as in `order`, then the
others. -/
def ranged (order keys : List String) : List String :=
  order.dedup.filter (· ∈ keys) ++ keys.filter (· ∉ order)

namespace Registry

def empty (node : String) : Registry := ⟨node, ∅, ∅, ∅⟩

/-- A volume with a worker only gets the new path; a block volume gets no worker. -/
def track (r : Registry) (d : TrackSpec) : Registry :=
  if d.volumeID ∈ r.vols then { r with vols := r.vols.insert d.volumeID d.stagingPath }
  else
    let cache := r.cache.insert d.volumeID ⟨d.volumeID, r.node, d.accessType⟩
    match d.accessType with
    | .block => { r with cache }
    | .mount => { r with cache, vols := r.vols.insert d.volumeID d.stagingPath }

def untrack (r : Registry) (id : String) : Registry :=
  { r with vols := r.vols.erase id, cache := r.cache.erase id }

/-- One cached volume of the sweep: a wanted one starts over, another is missed once more. -/
def countOne (want : List String) (grace : Int) (acc : Map String Int64 × List String)
    (id : String) : Map String Int64 × List String :=
  if id ∈ want then (acc.1.erase id, acc.2)
  else
    let n := (acc.1.lookup id).getD 0 + 1
    (acc.1.insert id n, if grace ≤ n.toInt then acc.2 ++ [id] else acc.2)

/-- The counting section of a sweep: the volumes to evict, and the counters without those of
volumes that are not cached. -/
def count (r : Registry) (want : List String) (grace : Int) (order : List String) :
    List String × Registry :=
  let (absent, toEvict) := (ranged order r.cache.keys).foldl (countOne want grace) (r.absent, [])
  (toEvict, { r with
    absent := (absent.keys.filter (· ∉ r.cache)).foldl (fun m id => m.erase id) absent })

def forget (r : Registry) (id : String) : Registry := { r with absent := r.absent.erase id }

end Registry

/-! ### The operations -/

/-- A section under the mutex; `called` is the call of Reconcile itself, before any section. -/
inductive Section where
  | called (desired : List TrackSpec)
  | track (d : TrackSpec)
  | untrack (id : String)
  | count (want : List String) (grace : Int)
  | forget (id : String)
deriving DecidableEq, Repr

@[reducible] def Section.Reply : Section → Type
  | count _ _ => List String
  | called _ | track _ | untrack _ | forget _ => Unit

/-- Answer a section; `order` is the order of the range over the cache. -/
def act (r : Registry) (c : Section) (order : List String) : c.Reply × Registry :=
  match c with
  | .called _ => ((), r)
  | .track d => ((), r.track d)
  | .untrack id => ((), r.untrack id)
  | .count want grace => r.count want grace order
  | .forget id => ((), r.forget id)

abbrev Op := Prog Section Section.Reply

abbrev Ev := Event Section Section.Reply Registry (List String)

def track (enabled : Bool) (d : TrackSpec) : Op Unit :=
  if enabled = false ∨ d.volumeID = "" then .ret () else .call (.track d) .ret

def untrack (id : String) : Op Unit := .call (.untrack id) .ret

/-- The volumes of a desired list; a spec without an id names none. -/
def wanted (desired : List TrackSpec) : List String :=
  (desired.map (·.volumeID)).filter (· ≠ "")

def trackAll (enabled : Bool) : List TrackSpec → Op Unit
  | [] => .ret ()
  | d :: ds => do
    if d.volumeID = "" then trackAll enabled ds
    else
      track enabled d
      trackAll enabled ds

/-- Evict, one volume after the other, the mutex given up in between. -/
def evictAll : List String → Op Unit
  | [] => .ret ()
  | id :: ids => do
    untrack id
    Prog.lift (Section.forget id)
    evictAll ids

/-- The eviction part of a sweep. -/
def sweep (want : List String) (graceSweeps : Int) : Op (List String) := do
  let toEvict ← Prog.lift (Section.count want (if graceSweeps < 1 then 1 else graceSweeps))
  evictAll toEvict
  return toEvict

def reconcile (enabled : Bool) (desired : List TrackSpec) (evict : Bool) (graceSweeps : Int) :
    Op (List String) := do
  if enabled then
    Prog.lift (Section.called desired)
    trackAll enabled desired
    if evict then sweep (wanted desired) graceSweeps else return []
  else return []

/-! ### Any number of them side by side -/

inductive Job where
  | track (d : TrackSpec)
  | untrack (id : String)
  | reconcile (desired : List TrackSpec) (evict : Bool) (graceSweeps : Int)
deriving DecidableEq, Repr

/-- The program of a job; only Reconcile returns something. -/
def Job.body (enabled : Bool) : Job → Op (List String)
  | track d => do
    Stats.track enabled d
    return []
  | untrack id => do
    Stats.untrack id
    return []
  | reconcile desired evict grace => Stats.reconcile enabled desired evict grace

abbrev Running := Thread Section Section.Reply Job (List String)
abbrev System := Pool Section Section.Reply Registry Job Unit (List String)
abbrev Moved := Move Section Section.Reply Registry (List String) Job (List String)

/-- The runs of a registry: no lock is held between two sections. -/
abbrev Run (enabled : Bool) (Ok : System → Action Job (List String) → Prop) (r : Registry)
    (ms : List Moved) (q : System) : Prop :=
  Reach act (Job.body enabled) (fun _ _ => some ()) (fun _ _ => ()) Ok ⟨r, (), []⟩ ms q

/-! ### What a counting section does -/

section

variable {order keys : List String} {id : String}

theorem mem_ranged : id ∈ ranged order keys ↔ id ∈ keys := by
  unfold ranged
  simp only [List.mem_append, List.mem_filter, List.mem_dedup, decide_eq_true_eq]
  by_cases h : id ∈ order
  · simp [h]
  · simp [h]

theorem nodup_ranged (order : List String) (h : keys.Nodup) : (ranged order keys).Nodup := by
  refine List.Nodup.append ((List.nodup_dedup _).filter _) (h.filter _) ?_
  intro x hx hx'
  have hin : x ∈ order := List.mem_dedup.1 (List.mem_of_mem_filter hx)
  have hout := (List.mem_filter.1 hx').2
  simp [hin] at hout

end

section

variable (want : List String) (grace : Int)

/-- How often a volume has been missed, by its counter. -/
def missed (absent : Map String Int64) (id : String) : Int := ((absent.lookup id).getD 0).toInt

/-- The counter of a volume that is missed once more. -/
def bumped (absent : Map String Int64) (id : String) : Int64 := (absent.lookup id).getD 0 + 1

theorem bumped_le (absent : Map String Int64) (id : String) :
    (bumped absent id).toInt ≤ missed absent id + 1 := by
  unfold bumped missed
  generalize (absent.lookup id).getD 0 = n
  have hle := n.le_toInt
  have hlt := n.toInt_lt
  rw [Int64.toInt_add, Int64.toInt_one, Int.bmod_def]
  split <;> omega

/-- Short of the largest int the counter does not wrap around. -/
theorem bumped_eq {absent : Map String Int64} {id : String} (h : missed absent id < 2 ^ 63 - 1) :
    (bumped absent id).toInt = missed absent id + 1 := by
  unfold bumped missed at *
  generalize (absent.lookup id).getD 0 = n at *
  have hle := n.le_toInt
  rw [Int64.toInt_add, Int64.toInt_one, Int.bmod_def]
  split <;> omega

theorem foldl_countOne {ks : List String} (hks : ks.Nodup) (m : Map String Int64)
    (l : List String) :
    (ks.foldl (Registry.countOne want grace) (m, l)).2 =
        l ++ ks.filter (fun id => id ∉ want ∧ grace ≤ (bumped m id).toInt) ∧
      ∀ id, (ks.foldl (Registry.countOne want grace) (m, l)).1.lookup id =
        if id ∈ ks then (if id ∈ want then none else some (bumped m id)) else m.lookup id := by
  induction ks generalizing m l with
  | nil => simp
  | cons k ks ih =>
    obtain ⟨hk, hks⟩ := List.nodup_cons.1 hks
    rw [List.foldl_cons]
    by_cases hwant : k ∈ want
    · have hone : Registry.countOne want grace (m, l) k = (m.erase k, l) := if_pos hwant
      obtain ⟨hl, hm⟩ := ih hks (m.erase k) l
      rw [hone]
      have hsame : ∀ id ∈ ks, bumped (m.erase k) id = bumped m id := by
        intro id hid
        unfold bumped
        rw [AList.lookup_erase_ne (by rintro rfl; exact hk hid)]
      refine ⟨?_, fun id => ?_⟩
      · rw [hl, List.filter_cons_of_neg (by simp [hwant])]
        congr 1
        exact List.filter_congr fun id hid => by rw [hsame id hid]
      · rw [hm]
        by_cases hid : id = k
        · subst hid
          simp [hk, hwant, AList.lookup_erase]
        · by_cases hmem : id ∈ ks
          · simp [hmem, hsame id hmem]
          · simp [hmem, hid, AList.lookup_erase_ne hid]
    · have hone : Registry.countOne want grace (m, l) k = (m.insert k (bumped m k),
          if grace ≤ (bumped m k).toInt then l ++ [k] else l) := if_neg hwant
      rw [hone]
      obtain ⟨hl, hm⟩ := ih hks (m.insert k (bumped m k))
        (if grace ≤ (bumped m k).toInt then l ++ [k] else l)
      have hsame : ∀ id ∈ ks, bumped (m.insert k (bumped m k)) id = bumped m id := by
        intro id hid
        unfold bumped
        rw [AList.lookup_insert_ne (by rintro rfl; exact hk hid)]
      have hrest : ks.filter (fun id => id ∉ want ∧
            grace ≤ (bumped (m.insert k (bumped m k)) id).toInt) =
          ks.filter (fun id => id ∉ want ∧ grace ≤ (bumped m id).toInt) :=
        List.filter_congr fun id hid => by rw [hsame id hid]
      refine ⟨?_, fun id => ?_⟩
      · rw [hl, hrest]
        by_cases hgrace : grace ≤ (bumped m k).toInt
        · rw [if_pos hgrace, List.filter_cons_of_pos (by simp only [hwant, hgrace]; decide),
            List.append_assoc]
          rfl
        · rw [if_neg hgrace, List.filter_cons_of_neg (by simp only [hgrace]; simp)]
      · rw [hm]
        by_cases hid : id = k
        · subst hid
          simp [hk, hwant, AList.lookup_insert]
        · by_cases hmem : id ∈ ks
          · simp [hmem, hsame id hmem]
          · simp [hmem, hid, AList.lookup_insert_ne hid]

theorem lookup_foldl_erase {ks : List String} (m : Map String Int64) (id : String) :
    (ks.foldl (fun m id => m.erase id) m).lookup id = if id ∈ ks then none else m.lookup id := by
  induction ks generalizing m with
  | nil => simp
  | cons k ks ih =>
    rw [List.foldl_cons, ih]
    by_cases hid : id = k
    · subst hid
      simp [AList.lookup_erase]
    · simp [hid, AList.lookup_erase_ne hid]

variable {want : List String} {grace : Int} {r : Registry} {order : List String} {id : String}

theorem lookup_count : (r.count want grace order).2.absent.lookup id =
    if id ∈ r.cache ∧ id ∉ want then some (bumped r.absent id) else none := by
  have hfold := (foldl_countOne want grace
    (nodup_ranged order r.cache.keys_nodup) r.absent []).2
  unfold Registry.count
  dsimp only
  rw [lookup_foldl_erase]
  by_cases hcached : id ∈ r.cache
  · have hnot : id ∉ ((ranged order r.cache.keys).foldl (Registry.countOne want grace)
        (r.absent, [])).1.keys.filter (· ∉ r.cache) := by simp [hcached]
    rw [if_neg hnot, hfold, if_pos (mem_ranged.2 (AList.mem_keys.1 hcached))]
    by_cases hwant : id ∈ want
    · simp [hwant]
    · simp [hwant, hcached]
  · rw [if_neg (c := id ∈ r.cache ∧ id ∉ want) fun h => hcached h.1]
    split
    · rfl
    · next hnot =>
      exact AList.lookup_eq_none.2 fun h => hnot
        (List.mem_filter.2 ⟨AList.mem_keys.1 h, by simpa using hcached⟩)

theorem mem_count : id ∈ (r.count want grace order).1 ↔
    id ∈ r.cache ∧ id ∉ want ∧ grace ≤ (bumped r.absent id).toInt := by
  have hfold := (foldl_countOne want grace
    (nodup_ranged order r.cache.keys_nodup) r.absent []).1
  unfold Registry.count
  dsimp only
  rw [hfold, List.nil_append, List.mem_filter, mem_ranged, ← AList.mem_keys]
  simp

theorem nodup_count : (r.count want grace order).1.Nodup := by
  have hnodup := nodup_ranged order r.cache.keys_nodup
  have hfold := (foldl_countOne want grace hnodup r.absent []).1
  unfold Registry.count
  dsimp only
  rw [hfold, List.nil_append]
  exact hnodup.filter _

end

end NomadCsi.Stats
