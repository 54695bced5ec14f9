import NomadCsi.Stats.Grace

/-!
# What is measured is what was tracked last

Mount and block specs alternate for one volume: a session seen before its mount, or while
a multipath lookup fails, is reported as block. Track of a volume that has a worker gives
the worker the new path and changes nothing else, so after a block spec the worker goes
on, with a path that is not a mount's, and the cache goes on to say mount.
-/

namespace NomadCsi.Stats

open Lib Lib.Go

/-- The last Track of the volume since it was last removed, one section on. -/
def lastTrack (v : String) (last : Option TrackSpec) : Section → Option TrackSpec
  | .track d => if v = d.volumeID then some d else last
  | .untrack id => if v = id then none else last
  | _ => last

/-- The last Track of the volume since its last removal. -/
def latest (v : String) (h : List Section) : Option TrackSpec := h.foldl (lastTrack v) none

@[simp] theorem latest_snoc (v : String) (h : List Section) (c : Section) :
    latest v (h ++ [c]) = lastTrack v (latest v h) c := by
  simp [latest]

def TrackSpec.mounts (d : TrackSpec) : Bool := d.accessType = .mount

/-- The registry after the sections `h`: there is a worker for a volume exactly if its last Track
was a mount one, on the path of that Track, and the cached access type is that of the last Track. -/
structure Shows (r : Registry) (h : List Section) : Prop where
  worker : ∀ v, r.vols.lookup v = ((latest v h).filter (·.mounts)).map (·.stagingPath)
  access : ∀ v, (r.cache.lookup v).map (·.accessType) = (latest v h).map (·.accessType)

/-- A section is not a block Track of a volume that has a worker. -/
def Section.Plain (r : Registry) : Section → Prop
  | .track d => d.volumeID ∈ r.vols → d.mounts = true
  | _ => True

section

variable {r : Registry} {v : String}

theorem lookup_vols_track (r : Registry) (d : TrackSpec) (v : String) :
    (r.track d).vols.lookup v =
      if v = d.volumeID then
        (if d.volumeID ∈ r.vols ∨ d.mounts = true then some d.stagingPath else none)
      else r.vols.lookup v := by
  have hinsert : (r.vols.insert d.volumeID d.stagingPath).lookup v =
      if v = d.volumeID then some d.stagingPath else r.vols.lookup v := by
    by_cases hv : v = d.volumeID
    · subst hv
      rw [if_pos rfl, AList.lookup_insert]
    · rw [if_neg hv, AList.lookup_insert_ne hv]
  unfold Registry.track
  by_cases hd : d.volumeID ∈ r.vols
  · rw [if_pos hd, hinsert]
    simp [hd]
  · rw [if_neg hd]
    unfold TrackSpec.mounts
    cases d.accessType with
    | mount =>
      simp only [hinsert]
      simp
    | block =>
      by_cases hv : v = d.volumeID
      · subst hv
        simp [hd, AList.lookup_eq_none.2 hd]
      · simp [hv]

theorem lookup_cache_track (r : Registry) (d : TrackSpec) (v : String) :
    (r.track d).cache.lookup v =
      if v = d.volumeID ∧ d.volumeID ∉ r.vols then some ⟨d.volumeID, r.node, d.accessType⟩
      else r.cache.lookup v := by
  unfold Registry.track
  by_cases hd : d.volumeID ∈ r.vols
  · simp [hd]
  · rw [if_neg hd]
    have hinsert : (r.cache.insert d.volumeID ⟨d.volumeID, r.node, d.accessType⟩).lookup v =
        if v = d.volumeID ∧ d.volumeID ∉ r.vols then some ⟨d.volumeID, r.node, d.accessType⟩
        else r.cache.lookup v := by
      by_cases hv : v = d.volumeID
      · subst hv
        rw [if_pos ⟨rfl, hd⟩, AList.lookup_insert]
      · rw [if_neg fun h => hv h.1, AList.lookup_insert_ne hv]
    obtain ⟨id, path, acc⟩ := d
    cases acc with
    | mount | block => exact hinsert

end

variable {r : Registry} {h : List Section}

theorem shows_empty (node : String) : Shows (.empty node) [] where
  worker _ := AList.lookup_empty _
  access _ := congrArg _ (AList.lookup_empty _)

theorem Shows.latest_of_mem (hr : Shows r h) {v : String} (hv : v ∈ r.vols) :
    ∃ d, latest v h = some d ∧ d.mounts = true := by
  obtain ⟨path, hpath⟩ := Option.isSome_iff_exists.1 (AList.lookup_isSome.2 hv)
  obtain ⟨d, hd, -⟩ := Option.map_eq_some_iff.1 ((hr.worker v).symm.trans hpath)
  exact ⟨d, Option.filter_eq_some_iff.1 hd⟩

theorem Shows.track (hr : Shows r h) {d : TrackSpec} (hd : d.volumeID ∈ r.vols → d.mounts = true) :
    Shows (r.track d) (h ++ [.track d]) where
  worker v := by
    rw [lookup_vols_track, latest_snoc, lastTrack]
    by_cases hv : v = d.volumeID
    · rw [if_pos hv, if_pos hv, Option.filter_some]
      by_cases hm : d.mounts = true
      · simp [hm]
      · have hno : d.volumeID ∉ r.vols := fun hin => hm (hd hin)
        simp [hm, hno]
    · rw [if_neg hv, if_neg hv]
      exact hr.worker v
  access v := by
    rw [lookup_cache_track, latest_snoc, lastTrack]
    by_cases hv : v = d.volumeID
    · subst hv
      rw [if_pos rfl]
      by_cases hin : d.volumeID ∈ r.vols
      · -- the cache keeps what the last Track wrote, and both were mount ones
        obtain ⟨d', hd', hm'⟩ := hr.latest_of_mem hin
        have hm := hd hin
        rw [if_neg fun h => h.2 hin, hr.access, hd']
        simp only [TrackSpec.mounts, decide_eq_true_eq] at hm hm'
        simp [hm, hm']
      · rw [if_pos ⟨rfl, hin⟩]
        rfl
    · rw [if_neg fun h => hv h.1, if_neg hv]
      exact hr.access v

theorem Shows.untrack (hr : Shows r h) (id : String) :
    Shows (r.untrack id) (h ++ [.untrack id]) where
  worker v := by
    rw [latest_snoc, lastTrack]
    by_cases hv : v = id
    · subst hv
      rw [if_pos rfl]
      exact AList.lookup_erase _ _
    · rw [if_neg hv]
      exact (AList.lookup_erase_ne hv).trans (hr.worker v)
  access v := by
    rw [latest_snoc, lastTrack]
    by_cases hv : v = id
    · subst hv
      rw [if_pos rfl]
      exact congrArg _ (AList.lookup_erase _ _)
    · rw [if_neg hv]
      exact (congrArg _ (AList.lookup_erase_ne hv)).trans (hr.access v)

theorem Shows.other (hr : Shows r h) {r' : Registry} {c : Section} (hvols : r'.vols = r.vols)
    (hcache : r'.cache = r.cache) (hc : ∀ v last, lastTrack v last c = last) :
    Shows r' (h ++ [c]) where
  worker v := by
    rw [latest_snoc, hc, hvols]
    exact hr.worker v
  access v := by
    rw [latest_snoc, hc, hcache]
    exact hr.access v

/-- A block Track of a volume with a worker leaves the worker where it is. -/
theorem not_shows_track {d : TrackSpec} (hin : d.volumeID ∈ r.vols) (hd : d.mounts = false) :
    ¬ Shows (r.track d) (h ++ [.track d]) := by
  intro hr
  have hworker := hr.worker d.volumeID
  rw [lookup_vols_track, latest_snoc, lastTrack] at hworker
  simp [hin, hd, Option.filter_some] at hworker

/-- One section keeps the registry on the last Tracks exactly if it is no block Track of a volume
that has a worker. -/
theorem shows_act_iff (hr : Shows r h) (c : Section) (order : List String) :
    Shows (act r c order).2 (h ++ [c]) ↔ c.Plain r := by
  cases c with
  | track d =>
    constructor
    · intro hshows hin
      by_contra hd
      exact not_shows_track hin (Bool.not_eq_true _ ▸ hd) hshows
    · exact hr.track
  | untrack id => exact iff_of_true (hr.untrack id) trivial
  | called | count | forget => exact iff_of_true (hr.other rfl rfl fun _ _ => rfl) trivial

/-! ### Runs -/

def upcoming (t : Running) : Option Section :=
  match t.rest with
  | .call c _ => some c
  | .ret _ => none

theorem upcoming_of_call {t : Running} {c : Section} {k : c.Reply → Op (List String)}
    (hrest : t.rest = .call c k) : upcoming t = some c := by
  unfold upcoming
  rw [hrest]

/-- No Track of a volume that has a worker is a block one, neither a Track of its own nor one of a
Reconcile. -/
def NoBlockOver (p : System) : Action Job (List String) → Prop
  | .step i _ => ∀ t ∈ p.threads[i]?, ∀ c ∈ upcoming t, c.Plain p.world
  | _ => True

instance (r : Registry) : (c : Section) → Decidable (c.Plain r)
  | .track d => inferInstanceAs (Decidable (d.volumeID ∈ r.vols → d.mounts = true))
  | .called _ | .untrack _ | .count _ _ | .forget _ => .isTrue trivial

instance (p : System) : (a : Action Job (List String)) → Decidable (NoBlockOver p a)
  | .step i _ => inferInstanceAs (Decidable (∀ t ∈ p.threads[i]?, ∀ c ∈ upcoming t, c.Plain p.world))
  | .spawn _ | .finish _ => .isTrue trivial

/-- In a run in which no volume with a worker is tracked as block, whatever calls run side by side,
every state shows the last Track of every volume. -/
theorem shows_latest {enabled : Bool} {node : String} {ms : List Moved} {q : System}
    (h : Run enabled NoBlockOver (.empty node) ms q) : Shows q.world (sections ms) := by
  refine h.history (I := fun ms q => Shows q.world (sections ms)) (shows_empty node) ?_
  intro ms q a ms' q' hq hok hnext
  rcases Pool.next_cases hnext with ⟨job, locks, -, -, rfl, rfl⟩ |
    ⟨i, order, t, c, k, rfl, ht, hrest, rfl, rfl⟩ | ⟨i, t, res, -, -, -, rfl, rfl⟩
  · rw [List.append_nil]
    exact hq
  · rw [sections_snoc]
    exact (shows_act_iff hq c order).2 (hok t ht c (upcoming_of_call hrest))
  · rw [List.append_nil]
    exact hq

theorem shows_latest_restaged : ∃ ms q, Run true NoBlockOver (.empty "n") ms q ∧
    latest "v" (sections ms) = some ⟨"v", "/staging/w", .mount⟩ ∧
    Shows q.world (sections ms) := by
  obtain ⟨ms, q, hrun, hlatest⟩ := reach_of_run act (Job.body true) (fun _ _ => some ())
    (fun _ _ => ()) NoBlockOver ⟨.empty "n", (), []⟩
    [.spawn (.track specV), .step 0 [], .finish 0,
      .spawn (.reconcile [⟨"v", "/staging/w", .mount⟩] true 2), .step 0 [], .step 0 [], .step 0 [],
      .finish 0]
    (fun ms _ => latest "v" (sections ms) = some ⟨"v", "/staging/w", .mount⟩) (by decide)
  exact ⟨ms, q, hrun, hlatest, shows_latest hrun⟩

/-- A volume is staged as a mount, and a sweep that does not find the mount lists it as block: the
worker goes on. -/
theorem worker_after_block : ¬ ∀ enabled node ms q,
    Run enabled (fun _ _ => True) (.empty node) ms q → Shows q.world (sections ms) := by
  intro h
  obtain ⟨ms, q, hrun, hworker, hlatest⟩ := reach_of_run act (Job.body true) (fun _ _ => some ())
    (fun _ _ => ()) (fun _ _ => True) ⟨.empty "n", (), []⟩
    [.spawn (.track specV), .step 0 [], .finish 0,
      .spawn (.reconcile [⟨"v", "", .block⟩] true 2), .step 0 [], .step 0 [], .step 0 [], .finish 0]
    (fun ms q => q.world.vols.lookup "v" = some "" ∧
      latest "v" (sections ms) = some ⟨"v", "", .block⟩) (by decide)
  have hshows := (h true "n" ms q hrun).worker "v"
  rw [hworker, hlatest] at hshows
  revert hshows
  decide

end NomadCsi.Stats
