import NomadCsi.Stats.Grace

/-!
# Reconcile converges

What one Reconcile does to a registry nobody else is using (`Round`), and what a row of
them does. A volume that is cached and not listed grows older by one sweep with every
call and is gone, and returned, in the call in which it reaches the grace.
-/

namespace NomadCsi.Stats

open Lib Lib.Go

namespace Registry

/-- A volume with a worker is cached: Track adds to the cache first, Untrack removes both. -/
def Measured (r : Registry) : Prop := ∀ v ∈ r.vols, v ∈ r.cache

def present (r : Registry) (v : String) : Nat := if v ∈ r.cache then 1 else 0

end Registry

variable {r r' : Registry} {v : String}

theorem measured_empty (node : String) : (Registry.empty node).Measured := by
  intro v hv
  exact absurd hv (AList.notMem_empty v)

theorem mem_cache_track (h : r.Measured) (d : TrackSpec) :
    v ∈ (r.track d).cache ↔ v = d.volumeID ∨ v ∈ r.cache := by
  unfold Registry.track
  by_cases hd : d.volumeID ∈ r.vols
  · rw [if_pos hd]
    constructor
    · exact .inr
    · rintro (rfl | hv)
      · exact h _ hd
      · exact hv
  · rw [if_neg hd]
    cases d.accessType with
    | mount | block => exact AList.mem_insert _

theorem mem_vols_track {d : TrackSpec} (hv : v ∈ (r.track d).vols) :
    v = d.volumeID ∨ v ∈ r.vols := by
  unfold Registry.track at hv
  by_cases hd : d.volumeID ∈ r.vols
  · rw [if_pos hd] at hv
    exact (AList.mem_insert _).1 hv
  · rw [if_neg hd] at hv
    cases hacc : d.accessType with
    | mount =>
      rw [hacc] at hv
      exact (AList.mem_insert _).1 hv
    | block =>
      rw [hacc] at hv
      exact .inr hv

theorem Registry.Measured.track (h : r.Measured) (d : TrackSpec) : (r.track d).Measured := by
  intro v hv
  rw [mem_cache_track h]
  rcases mem_vols_track hv with heq | hv
  · exact .inl heq
  · exact .inr (h v hv)

theorem Registry.Measured.untrack (h : r.Measured) (id : String) : (r.untrack id).Measured := by
  intro v hv
  obtain ⟨hne, hv⟩ := AList.mem_erase.1 hv
  exact AList.mem_erase.2 ⟨hne, h v hv⟩

theorem Registry.Measured.act (h : r.Measured) (c : Section) (order : List String) :
    (Stats.act r c order).2.Measured := by
  cases c with
  | called | count | forget => exact h
  | track d => exact h.track d
  | untrack id => exact h.untrack id

/-- Whatever Track, Untrack and Reconcile calls ran side by side, and however they were
interleaved. -/
theorem Run.measured {enabled : Bool} {Ok : System → Action Job (List String) → Prop}
    {node : String} {ms : List Moved} {q : System} (h : Run enabled Ok (.empty node) ms q) :
    q.world.Measured := by
  refine (h.invariant (I := fun q => q.world.Measured) (E := fun _ => True)
    (measured_empty node) ?_).1
  intro q a ms q' hq _ hnext
  rcases Pool.next_cases hnext with ⟨job, locks, -, -, rfl, rfl⟩ |
    ⟨i, order, t, c, k, -, -, -, rfl, rfl⟩ | ⟨i, t, res, -, -, -, rfl, rfl⟩
  · exact ⟨hq, by simp⟩
  · exact ⟨hq.act c order, by simp⟩
  · exact ⟨hq, by simp⟩

/-! ### The parts of a call -/

theorem wp_trackAll (h : r.Measured) (ds : List TrackSpec) :
    wp act (trackAll true ds) r fun _ _ r' => r'.Measured ∧ r'.absent = r.absent ∧
      ∀ v, v ∈ r'.cache ↔ v ∈ r.cache ∨ v ∈ wanted ds := by
  induction ds generalizing r with
  | nil => exact ⟨h, rfl, by simp [wanted]⟩
  | cons d ds ih =>
    by_cases hd : d.volumeID = ""
    · have hskip : trackAll true (d :: ds) = trackAll true ds := by simp [trackAll, hd]
      rw [hskip, wanted_cons_of_eq hd]
      exact ih h
    · have hcall : trackAll true (d :: ds) = .call (.track d) fun _ => trackAll true ds := by
        simp [trackAll, track, hd]
      rw [hcall, wanted_cons_of_ne hd]
      intro order
      apply wp_mono (ih (h.track d))
      rintro _ _ r' ⟨hr', habsent, hcache⟩
      refine ⟨hr', habsent.trans (absent_track r d), fun v => ?_⟩
      rw [hcache, mem_cache_track h, List.mem_cons, or_assoc, or_left_comm]

theorem wp_evictAll (h : r.Measured) (ids : List String) :
    wp act (evictAll ids) r fun _ _ r' => r'.Measured ∧
      (∀ v, v ∈ r'.cache ↔ v ∈ r.cache ∧ v ∉ ids) ∧
      ∀ v, v ∉ ids → missed r'.absent v = missed r.absent v := by
  induction ids generalizing r with
  | nil => exact ⟨h, by simp, fun _ _ => rfl⟩
  | cons id ids ih =>
    intro order order'
    have hnext : ((r.untrack id).forget id).Measured := h.untrack id
    apply wp_mono (ih hnext)
    rintro _ _ r' ⟨hr', hcache, hmissed⟩
    refine ⟨hr', fun v => ?_, fun v hv => ?_⟩
    · have herase : v ∈ ((r.untrack id).forget id).cache ↔ v ≠ id ∧ v ∈ r.cache := AList.mem_erase
      rw [hcache, herase, List.mem_cons]
      tauto
    · rw [List.mem_cons, not_or] at hv
      rw [hmissed v hv.2]
      unfold missed
      have hother : (r.absent.erase id).lookup v = r.absent.lookup v := AList.lookup_erase_ne hv.1
      exact congrArg (fun n : Option Int64 => (n.getD 0).toInt) hother

/-! ### One call -/

/-- What an evicting Reconcile does to a registry that nobody else is using. -/
structure Round (desired : List TrackSpec) (grace : Int) (r : Registry) (evicted : List String)
    (r' : Registry) : Prop where
  measured : r'.Measured
  listed : ∀ v ∈ wanted desired, v ∈ r'.cache ∧ v ∉ evicted
  /-- Any other volume is still cached, or returned, once, if it was cached before. -/
  other : ∀ v, v ∉ wanted desired → evicted.count v + r'.present v = r.present v
  /-- The ones that are still there have been missed once more and have grace left. -/
  older : ∀ v ∈ r'.cache, v ∉ wanted desired →
    missed r'.absent v = (bumped r.absent v).toInt ∧ missed r'.absent v < grace

theorem wp_sweep_exact (h : r.Measured) (desired : List TrackSpec) {grace : Int} (hg : 1 ≤ grace) :
    wp act (sweep (wanted desired) grace) r fun _ evicted r' => r'.Measured ∧ evicted.Nodup ∧ ∀ v,
      (v ∈ evicted ↔ v ∈ r.cache ∧ v ∉ wanted desired ∧ grace ≤ (bumped r.absent v).toInt) ∧
      (v ∈ r'.cache ↔ v ∈ r.cache ∧ v ∉ evicted) ∧
      (v ∈ r'.cache → missed r'.absent v =
        if v ∈ wanted desired then 0 else (bumped r.absent v).toInt) := by
  have hgrace : (if grace < 1 then 1 else grace) = grace := if_neg (by omega)
  unfold sweep
  rw [hgrace]
  refine wp_lift_bind.2 fun order => ?_
  have hcounted : (r.count (wanted desired) grace order).2.Measured := h
  refine wp_bind.2 (wp_mono (wp_evictAll hcounted _) ?_)
  rintro _ _ r' ⟨hr', hcache, hmissed⟩
  refine ⟨hr', nodup_count, fun v => ⟨mem_count, hcache v, fun hv => ?_⟩⟩
  obtain ⟨hc, hn⟩ := (hcache v).1 hv
  have hc : v ∈ r.cache := hc
  rw [hmissed v hn]
  unfold missed
  rw [lookup_count]
  by_cases hw : v ∈ wanted desired
  · simp [hw]
  · simp [hw, hc]

theorem wp_sweep (h : r.Measured) {desired : List TrackSpec} {grace : Int} (hg : 1 ≤ grace)
    (hlisted : ∀ v ∈ wanted desired, v ∈ r.cache) :
    wp act (sweep (wanted desired) grace) r fun _ evicted r' =>
      Round desired grace r evicted r' := by
  refine wp_mono (wp_sweep_exact h desired hg) ?_
  rintro _ evicted r' ⟨hr', hnodup, hexact⟩
  refine ⟨hr', fun v hv => ?_, fun v hv => ?_, fun v hv hwant => ?_⟩
  · have hnot : v ∉ evicted := fun hin => ((hexact v).1.1 hin).2.1 hv
    exact ⟨(hexact v).2.1.2 ⟨hlisted v hv, hnot⟩, hnot⟩
  · unfold Registry.present
    by_cases hin : v ∈ evicted
    · have hgone : v ∉ r'.cache := fun hv' => ((hexact v).2.1.1 hv').2 hin
      rw [if_neg hgone, if_pos ((hexact v).1.1 hin).1]
      exact List.count_eq_one_of_mem hnodup hin
    · have hsame : v ∈ r'.cache ↔ v ∈ r.cache :=
        (hexact v).2.1.trans ⟨fun hv' => hv'.1, fun hv' => ⟨hv', hin⟩⟩
      simp only [hsame, List.count_eq_zero.2 hin, Nat.zero_add]
  · obtain ⟨hv', hin⟩ := (hexact v).2.1.1 hv
    rw [(hexact v).2.2 hv, if_neg hwant]
    exact ⟨rfl, Int.not_le.1 fun hle => hin ((hexact v).1.2 ⟨hv', hwant, hle⟩)⟩

theorem Round.of_tracked {desired : List TrackSpec} {grace : Int} {r1 : Registry}
    {evicted : List String} (h : Round desired grace r1 evicted r') (habsent : r1.absent = r.absent)
    (hcache : ∀ v, v ∈ r1.cache ↔ v ∈ r.cache ∨ v ∈ wanted desired) :
    Round desired grace r evicted r' where
  measured := h.measured
  listed := h.listed
  other v hv := by
    have hsame : v ∈ r1.cache ↔ v ∈ r.cache := by simp [hcache, hv]
    have hother := h.other v hv
    unfold Registry.present at hother ⊢
    simp only [hsame] at hother
    exact hother
  older v hv hwant := habsent ▸ h.older v hv hwant

theorem wp_reconcile (h : r.Measured) (desired : List TrackSpec) {grace : Int} (hg : 1 ≤ grace) :
    wp act (reconcile true desired true grace) r fun _ evicted r' =>
      Round desired grace r evicted r' := by
  refine wp_lift_bind.2 fun _ => wp_bind.2 (wp_mono (wp_trackAll h desired) ?_)
  rintro _ _ r1 ⟨hr1, habsent, hcache⟩
  refine wp_mono (wp_sweep hr1 hg fun v hv => (hcache v).2 (.inr hv)) ?_
  intro _ evicted r' hround
  exact hround.of_tracked habsent hcache

/-! ### A row of calls -/

/-- Evicting Reconcile calls with the same list and grace, one after the other, and what each of
them returned. -/
inductive Sweeps (desired : List TrackSpec) (grace : Int) :
    Registry → List (List String) → Registry → Prop where
  | none (r : Registry) : Sweeps desired grace r [] r
  | call {r r1 r' : Registry} {tr : List Ev}
      {evicted : List String} {rest : List (List String)} :
      Runs act (reconcile true desired true grace) r tr evicted r1 →
      Sweeps desired grace r1 rest r' → Sweeps desired grace r (evicted :: rest) r'

section

variable {desired : List TrackSpec} {grace : Int} {returned : List (List String)}

/-- What the calls of a row did together: as in one call, but for the age of what is left, unless
its counter wraps around. -/
theorem Sweeps.spec (h : Sweeps desired grace r returned r') (hr : r.Measured) (hg : 1 ≤ grace) :
    r'.Measured ∧
      (∀ v ∈ wanted desired, returned.flatten.count v = 0 ∧ (returned ≠ [] → v ∈ r'.cache)) ∧
      (∀ v, v ∉ wanted desired → returned.flatten.count v + r'.present v = r.present v) ∧
      (grace < 2 ^ 63 → ∀ v ∈ r'.cache, v ∉ wanted desired → missed r.absent v < 2 ^ 63 - 1 →
        missed r'.absent v = missed r.absent v + returned.length ∧
          (returned ≠ [] → missed r'.absent v < grace)) := by
  induction h with
  | none r => exact ⟨hr, by simp, by simp, by simp⟩
  | @call r r1 r' tr evicted rest hrun hrest ih =>
    have hround := wp_iff.1 (wp_reconcile hr desired hg) _ _ _ hrun
    obtain ⟨hr', hlisted, hother, holder⟩ := ih hround.measured
    refine ⟨hr', fun v hv => ?_, fun v hv => ?_, fun hmax v hv hwant hshort => ?_⟩
    · obtain ⟨hcached, hnot⟩ := hround.listed v hv
      obtain ⟨hzero, hend⟩ := hlisted v hv
      refine ⟨?_, fun _ => ?_⟩
      · rw [List.flatten_cons, List.count_append, hzero, List.count_eq_zero.2 hnot]
      · cases hrest with
        | none => exact hcached
        | call _ _ => exact hend (by simp)
    · have hfirst := hround.other v hv
      have hlater := hother v hv
      rw [List.flatten_cons, List.count_append]
      omega
    · have hone : missed r1.absent v = missed r.absent v + 1 ∧ missed r1.absent v < grace := by
        rw [← bumped_eq hshort]
        apply hround.older v _ hwant
        -- what is cached at the end was cached all along
        have hlater := hother v hwant
        unfold Registry.present at hlater
        rw [if_pos hv] at hlater
        by_contra hnot
        rw [if_neg hnot] at hlater
        omega
      obtain ⟨hage, hgrace⟩ := holder hmax v hv hwant (by omega)
      refine ⟨?_, fun _ => ?_⟩
      · rw [hage, hone.1, List.length_cons]
        omega
      · cases hrest with
        | none => exact hone.2
        | call _ _ => exact hgrace (by simp)

theorem Sweeps.settled (h : Sweeps desired grace r returned r') (hr : r.Measured) (hg : 1 ≤ grace)
    (hmax : grace < 2 ^ 63)
    (hshort : ∀ v ∈ r.cache, 0 ≤ missed r.absent v ∧ missed r.absent v < 2 ^ 63 - 1)
    (hlen : grace ≤ returned.length) : v ∈ r'.cache ↔ v ∈ wanted desired := by
  obtain ⟨-, hlisted, hother, holder⟩ := h.spec hr hg
  have hne : returned ≠ [] := by
    rintro rfl
    simp only [List.length_nil] at hlen
    omega
  constructor
  · intro hv
    by_contra hwant
    have hcached : v ∈ r.cache := by
      by_contra hnot
      have hcount := hother v hwant
      simp only [Registry.present, if_pos hv, if_neg hnot] at hcount
      omega
    obtain ⟨hpos, hlt⟩ := hshort v hcached
    obtain ⟨hage, hgrace⟩ := holder hmax v hv hwant hlt
    have := hgrace hne
    omega
  · intro hv
    exact (hlisted v hv).2 hne

theorem Sweeps.nothing (h : Sweeps desired grace r returned r') (hr : r.Measured) (hg : 1 ≤ grace)
    (hcache : ∀ v ∈ r.cache, v ∈ wanted desired) : ∀ evicted ∈ returned, evicted = [] := by
  obtain ⟨-, hlisted, hother, -⟩ := h.spec hr hg
  intro evicted hin
  refine List.eq_nil_iff_forall_not_mem.2 fun v hv => ?_
  have hpos : 0 < returned.flatten.count v :=
    List.count_pos_iff.2 (List.mem_flatten.2 ⟨evicted, hin, hv⟩)
  by_cases hwant : v ∈ wanted desired
  · have := (hlisted v hwant).1
    omega
  · have hcount := hother v hwant
    have habsent : r.present v = 0 := if_neg fun hv => hwant (hcache v hv)
    omega

theorem Sweeps.split (h : Sweeps desired grace r returned r') (n : Nat) :
    ∃ r1, Sweeps desired grace r (returned.take n) r1 ∧
      Sweeps desired grace r1 (returned.drop n) r' := by
  induction n generalizing r returned with
  | zero => exact ⟨r, .none r, h⟩
  | succ n ih =>
    cases h with
    | none => exact ⟨_, .none _, .none _⟩
    | call hrun hrest =>
      obtain ⟨r1, hfirst, hlast⟩ := ih hrest
      exact ⟨r1, .call hrun hfirst, hlast⟩

end

/-- In a registry nobody else is using, from any cache and any counters short of the largest int:
once as many Reconcile calls as the grace have been made with one list, the cached volumes are the
listed ones, every further call evicts nothing, and every volume that was cached and is not listed
was returned once, by one call. A call that does not evict removes nothing. -/
theorem reconcile_converges (hr : r.Measured) (desired : List TrackSpec) {grace : Int}
    (hg : 1 ≤ grace) (hmax : grace < 2 ^ 63)
    (hshort : ∀ v ∈ r.cache, 0 ≤ missed r.absent v ∧ missed r.absent v < 2 ^ 63 - 1) :
    (∀ returned r', Sweeps desired grace r returned r' → grace ≤ returned.length →
      (∀ v, v ∈ r'.cache ↔ v ∈ wanted desired) ∧
      (∀ evicted ∈ returned.drop grace.toNat, evicted = []) ∧
      ∀ v, returned.flatten.count v = if v ∈ r.cache ∧ v ∉ wanted desired then 1 else 0) ∧
    ∀ g tr evicted r', Runs act (reconcile true desired false g) r tr evicted r' →
      evicted = [] ∧ ∀ v ∈ r.cache, v ∈ r'.cache := by
  constructor
  · intro returned r' h hlen
    have hsettled : ∀ v, v ∈ r'.cache ↔ v ∈ wanted desired :=
      fun v => h.settled hr hg hmax hshort hlen
    refine ⟨hsettled, ?_, fun v => ?_⟩
    · obtain ⟨r1, hfirst, hlast⟩ := h.split grace.toNat
      have htake : grace ≤ (returned.take grace.toNat).length := by
        rw [List.length_take]
        omega
      exact hlast.nothing (hfirst.spec hr hg).1 hg
        fun v hv => (hfirst.settled hr hg hmax hshort htake).1 hv
    · obtain ⟨-, hlisted, hother, -⟩ := h.spec hr hg
      by_cases hwant : v ∈ wanted desired
      · rw [if_neg fun hv => hv.2 hwant]
        exact (hlisted v hwant).1
      · have hcount := hother v hwant
        have hgone : r'.present v = 0 := if_neg fun hv => hwant ((hsettled v).1 hv)
        rw [hgone, Nat.add_zero] at hcount
        rw [hcount]
        simp [Registry.present, hwant]
  · intro g tr evicted r' hrun
    have hspec : wp act (reconcile true desired false g) r fun _ evicted r' =>
        evicted = [] ∧ ∀ v ∈ r.cache, v ∈ r'.cache := by
      refine wp_lift_bind.2 fun _ => wp_bind.2 (wp_mono (wp_trackAll hr desired) ?_)
      rintro _ _ r1 ⟨-, -, hcache⟩
      exact ⟨rfl, fun v hv => (hcache v).2 (.inl hv)⟩
    exact wp_iff.1 hspec _ _ _ hrun

/-- A cached volume that nobody lists any more, with a counter left over from before. -/
def leftover (counter : Int64) : Registry :=
  { (Registry.empty "n").track specV with absent := (∅ : Map String Int64).insert "v" counter }

theorem measured_leftover (counter : Int64) : (leftover counter).Measured :=
  (measured_empty "n").track specV

theorem reconcile_converges_leftover : ∃ returned r', Sweeps [] 2 (leftover 1) returned r' ∧
    (2 : Int) ≤ returned.length ∧ "v" ∈ (leftover 1).cache ∧
      (∀ v, v ∈ r'.cache ↔ v ∈ wanted []) ∧ returned.flatten.count "v" = 1 := by
  obtain ⟨_, _, r1, h1⟩ := exists_runs act (reconcile true [] true 2) (leftover 1)
  obtain ⟨_, _, r2, h2⟩ := exists_runs act (reconcile true [] true 2) r1
  have hsweeps := Sweeps.call h1 (.call h2 (.none r2))
  have hshort : ∀ v ∈ (leftover 1).cache.keys,
      0 ≤ missed (leftover 1).absent v ∧ missed (leftover 1).absent v < 2 ^ 63 - 1 := by decide
  obtain ⟨hcache, -, hcount⟩ := (reconcile_converges (measured_leftover 1) [] (by decide)
    (by decide) fun v hv => hshort v (AList.mem_keys.1 hv)).1 _ _ hsweeps (by simp)
  exact ⟨_, _, hsweeps, by simp, by decide, hcache, (hcount "v").trans (if_pos (by decide))⟩

/-- A counter at the largest int wraps around, and the volume is not evicted. -/
theorem reconcile_wraps : ¬ ∀ (r : Registry) (desired : List TrackSpec) (grace : Int)
    (returned : List (List String)) (r' : Registry), r.Measured →
    (∀ v, 0 ≤ missed r.absent v) → 1 ≤ grace → grace < 2 ^ 63 →
    Sweeps desired grace r returned r' → grace ≤ returned.length →
    ∀ v, v ∈ r'.cache ↔ v ∈ wanted desired := by
  intro h
  obtain ⟨tr, evicted, r', hrun, hkept⟩ := runs_of_exec act (reconcile true [] true 1)
    (leftover 9223372036854775807) [[], []] (fun x => "v" ∈ x.2.2.cache) (by decide)
  have hpos : ∀ v, 0 ≤ missed (leftover 9223372036854775807).absent v := by
    intro v
    have hlookup : (leftover 9223372036854775807).absent.lookup v =
        if v = "v" then some 9223372036854775807 else none := by
      split
      · next hv => rw [hv]; rfl
      · next hv => exact (AList.lookup_insert_ne hv).trans (AList.lookup_empty _)
    rw [missed, hlookup]
    split <;> decide
  have hiff := h _ [] 1 _ r' (measured_leftover _) hpos (by decide) (by decide)
    (.call hrun (.none r')) (by simp) "v"
  exact absurd (hiff.1 hkept) (by decide)

end NomadCsi.Stats
