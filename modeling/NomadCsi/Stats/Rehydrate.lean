import Mathlib.Algebra.Group.Nat.Defs
import NomadCsi.Node.Staged
import NomadCsi.Stats.Converge

/-!
# Rehydrating the stats registry

After a restart the registry of a local node is filled from the mount table: the stats
reconciler lists the mounts and hands the zvols among them to Reconcile, with a grace of two
sweeps. A failed listing is as if there had been no sweep, or, when `findmnt` exits 1, as if
nothing were mounted.
-/

namespace NomadCsi.Stats

open Lib Lib.Go

variable {r : Registry}

/-- The cache and the counters after a Reconcile that evicts. -/
theorem wp_reconcile_exact (h : r.Measured) (desired : List TrackSpec) {grace : Int}
    (hg : 1 ≤ grace) :
    wp act (reconcile true desired true grace) r fun _ _ r' => r'.Measured ∧ ∀ v,
      (v ∈ r'.cache ↔ v ∈ wanted desired ∨ v ∈ r.cache ∧ (bumped r.absent v).toInt < grace) ∧
      (v ∈ r'.cache → missed r'.absent v =
        if v ∈ wanted desired then 0 else (bumped r.absent v).toInt) := by
  refine wp_lift_bind.2 fun _ => wp_bind.2 (wp_mono (wp_trackAll h desired) ?_)
  rintro _ _ r1 ⟨hr1, habsent, hcached⟩
  refine wp_mono (wp_sweep_exact hr1 desired hg) ?_
  rintro _ evicted r' ⟨hr', -, hexact⟩
  refine ⟨hr', fun v => ?_⟩
  obtain ⟨hout, hin, hmissed⟩ := hexact v
  rw [habsent] at hout hmissed
  refine ⟨?_, hmissed⟩
  rw [hin, hout, hcached]
  by_cases hw : v ∈ wanted desired
  · simp [hw]
  · simp only [hw, or_false, false_or, not_false_eq_true, true_and, not_and, Int.not_le]
    exact and_congr_right fun hc => forall_prop_of_true hc

/-- What a Reconcile adds and leaves, whether or not it evicts. -/
theorem wp_reconcile_adds (h : r.Measured) (desired : List TrackSpec) (evict : Bool) {grace : Int}
    (hg : 1 ≤ grace) : wp act (reconcile true desired evict grace) r fun _ evicted r' =>
      (∀ v ∈ wanted desired, v ∈ r'.cache) ∧ (∀ v ∈ r'.cache, v ∈ r.cache ∨ v ∈ wanted desired) ∧
      (evict = false → evicted = [] ∧ ∀ v ∈ r.cache, v ∈ r'.cache) := by
  cases evict with
  | true =>
    refine wp_mono (wp_reconcile_exact h desired hg) ?_
    rintro _ _ r' ⟨-, hr'⟩
    refine ⟨fun v hv => (hr' v).1.2 (.inl hv), fun v hv => ?_, by simp⟩
    exact ((hr' v).1.1 hv).symm.imp_left And.left
  | false =>
    refine wp_lift_bind.2 fun _ => wp_bind.2 (wp_mono (wp_trackAll h desired) ?_)
    rintro _ _ r' ⟨-, -, hcache⟩
    exact ⟨fun v hv => (hcache v).2 (.inr hv), fun v hv => (hcache v).1 hv,
      fun _ => ⟨rfl, fun v hv => (hcache v).2 (.inl hv)⟩⟩

/-- Within fewer steps than the largest int no counter wraps around. -/
theorem Run.counters {enabled : Bool} {Ok : System → Action Job (List String) → Prop}
    {node : String} {ms : List Moved} {q : System} (h : Run enabled Ok (.empty node) ms q)
    (hfew : ms.length < 2 ^ 63 - 1) (v : String) :
    0 ≤ missed q.world.absent v ∧ missed q.world.absent v < 2 ^ 63 - 1 := by
  have hle : ms.length < 2 ^ 63 - 1 →
      0 ≤ missed q.world.absent v ∧ missed q.world.absent v ≤ ms.length := by
    refine h.history (I := fun (ms : List Moved) (q : System) => ms.length < 2 ^ 63 - 1 →
      0 ≤ missed q.world.absent v ∧ missed q.world.absent v ≤ ms.length) ?_ ?_
    · have hzero := missed_of_notMem (AList.notMem_empty v : v ∉ (∅ : Map String Int64))
      exact fun _ => ⟨Int.le_of_eq hzero.symm, Int.le_of_eq hzero⟩
    intro ms q a ms' q' ih _ hnext hlen
    rw [List.length_append] at hlen
    specialize ih (by omega)
    rcases Pool.next_cases hnext with ⟨job, locks, -, -, rfl, rfl⟩ |
      ⟨i, order, t, c, k, -, -, -, rfl, rfl⟩ | ⟨i, t, res, -, -, -, rfl, rfl⟩
    · simpa using ih
    · rw [List.length_append, List.length_singleton]
      cases c with
      | called | untrack => exact ⟨ih.1, Int.le_trans ih.2 (by omega)⟩
      | track d =>
        simp only [act, absent_track]
        omega
      | forget id =>
        simp only [act, Registry.forget, missed_erase]
        split <;> omega
      | count want grace =>
        have hbump : (bumped q.world.absent v).toInt = missed q.world.absent v + 1 :=
          bumped_eq (by omega)
        simp only [act]
        unfold missed at *
        rw [lookup_count]
        split
        · change 0 ≤ (bumped q.world.absent v).toInt ∧ (bumped q.world.absent v).toInt ≤ _
          omega
        · change 0 ≤ (0 : Int64).toInt ∧ (0 : Int64).toInt ≤ _
          rw [Int64.toInt_zero]
          omega
    · simpa using ih
  have := hle hfew
  omega

end NomadCsi.Stats

namespace NomadCsi.Local

open Lib Lib.Go Node Stats

/-- Sweeps a volume must have been missed by, in a row, to be evicted. -/
def statsEvictGraceSweeps : Int := 2

/-- What a sweep of the stats reconciler does with the listing. -/
def statsSweep : Except String (List TrackSpec) → Stats.Op (List String)
  | .error _ => return []
  | .ok desired => Stats.reconcile true desired true statsEvictGraceSweeps

/-- The zvols of the plugin by device, and the host, as a sweep finds them. -/
abbrev Sight := Map String String × Host

def Mounted (n : NodePlugin) (id : String) (x : Sight) : Prop :=
  ∃ p ∈ zvolMounts x.1 x.2.link x.2.mounts, ExternalID.toString ⟨n.nodeID, p.2⟩ = id

/-- What the sweeps were shown that listed the mounts, the last one first. -/
def sighted (x : Sight) (past : List Sight) (tr : List HostEv) :
    Except String (List TrackSpec) → List Sight
  | .error _ => past
  | .ok _ => (x.1, x.2.seen tr) :: past

/-- Sweeps from `r0` on, each in front of any host, and RPCs about other volumes than `id`. -/
inductive StatsSweeps (n : NodePlugin) (id : String) (r0 : Stats.Registry) :
    List Sight → Stats.Registry → Prop where
  | start : StatsSweeps n id r0 [] r0
  | sweep {past : List Sight} {r r' : Stats.Registry} {x : Sight} {h' : Host} {tr : List HostEv}
      {listing : Except String (List TrackSpec)} {evicted : List String}
      {tr' : List Stats.Ev} :
      StatsSweeps n id r0 past r → Runs hostAct (stagedVolumes n x.1).run x.2 tr listing h' →
      Runs act (statsSweep listing) r tr' evicted r' →
      StatsSweeps n id r0 (sighted x past tr listing) r'
  | staged {past : List Sight} {r : Stats.Registry} {d : TrackSpec} : StatsSweeps n id r0 past r →
      d.volumeID ≠ id → StatsSweeps n id r0 past (r.track d)
  | unstaged {past : List Sight} {r : Stats.Registry} {v : String} : StatsSweeps n id r0 past r →
      v ≠ id → StatsSweeps n id r0 past (r.untrack v)

variable {n : NodePlugin} {id : String} {past : List Sight} {r0 r : Stats.Registry}

theorem calls_collectSpecs (devs : Map String String) (mounts : List Mount) (seen : List String) :
    (collectSpecs n.nodeID devs mounts seen).Calls (· ≠ .findmnt) := by
  induction mounts generalizing seen with
  | nil => trivial
  | cons m rest ih =>
    have hsource : (sourceDataset devs m.source).Calls (· ≠ .findmnt) := by
      unfold sourceDataset
      split
      · trivial
      · exact ⟨by simp, fun _ => trivial⟩
    refine hsource.bind fun ds => ?_
    cases ds with
    | none => exact ih seen
    | some ds =>
      change Prog.Calls _ (if _ then _ else _)
      split
      · exact ih seen
      · exact (ih _).bind fun _ => trivial

theorem wanted_staged {x : Sight} {h' : Host} {tr : List HostEv} {desired : List TrackSpec}
    (hrun : Runs hostAct (stagedVolumes n x.1).run x.2 tr (.ok desired) h') (id : String) :
    id ∈ wanted desired ↔ Mounted n id (x.1, x.2.seen tr) := by
  suffices hwp : wp hostAct (stagedVolumes n x.1).run x.2 fun tr r _ => ∀ specs, r = .ok specs →
      ∀ id, id ∈ specs.map (·.volumeID) ↔ Mounted n id (x.1, x.2.seen tr) by
    unfold wanted
    rw [List.mem_filter, wp_iff.1 hwp _ _ _ hrun desired rfl id]
    refine and_iff_left_of_imp ?_
    rintro ⟨p, -, rfl⟩
    simp [ExternalID.toString]
  refine wp_run_bind.2 (wp_mono (wp_listMounts x.2) ?_)
  rintro tr res h' ⟨⟨t, rfl⟩, e, rfl, -, rfl | ⟨-, msg, rfl⟩⟩
  · refine wp_run_lift.2 (wp_mono (wp_and (wp_collectSpecs n.nodeID _ _ [])
      (wp_of_calls (calls_collectSpecs _ _ _) _)) ?_)
    rintro tr specs h'' ⟨⟨-, -, hmem⟩, hcalls⟩ _ ⟨⟩ id
    have hlink : (x.2.seen [e]).link = x.2.link := by
      unfold Host.seen
      split <;> rfl
    rw [x.2.seen_append hcalls, hmem, Mounted, hlink]
    simp [List.mem_map]
  · rintro specs ⟨⟩

theorem StatsSweeps.spec (h : StatsSweeps n id r0 past r) (h0 : r0.Measured)
    (hc0 : 0 ≤ missed r0.absent id ∧ missed r0.absent id < 2 ^ 63 - 1) : r.Measured ∧
    (id ∈ r.cache → 0 ≤ missed r.absent id ∧ missed r.absent id < 2 ^ 63 - 1) ∧
    (id ∉ r0.cache ∨ past ≠ [] →
      (id ∈ r.cache ∧ missed r.absent id = 0 ↔ ∃ x ∈ past.take 1, Mounted n id x)) ∧
    (id ∉ r0.cache ∨ 2 ≤ past.length →
      (id ∈ r.cache ↔ ∃ x ∈ past.take 2, Mounted n id x)) := by
  induction h with
  | start => exact ⟨h0, fun _ => hc0, by simp_all, by simp⟩
  | @staged past r d _ hd ih =>
    obtain ⟨hr, ih⟩ := ih
    rw [mem_cache_track hr, or_iff_right (Ne.symm hd), absent_track]
    exact ⟨hr.track d, ih⟩
  | @unstaged past r v _ hv ih =>
    obtain ⟨hr, ih⟩ := ih
    have hin : id ∈ (r.untrack v).cache ↔ id ∈ r.cache :=
      AList.mem_erase.trans (and_iff_right hv.symm)
    rw [hin]
    exact ⟨hr.untrack v, ih⟩
  | @sweep past r r' x h' tr listing evicted tr' _ hlist hrun ih =>
    cases listing with
    | error e =>
      obtain ⟨-, -, rfl⟩ := runs_ret.1 hrun
      exact ih
    | ok desired =>
      obtain ⟨hr, hcount, hlast, -⟩ := ih
      obtain ⟨hr', hspec⟩ := wp_iff.1 (wp_reconcile_exact hr desired (by decide)) _ _ _ hrun
      obtain ⟨hcache, hmissed⟩ := hspec id
      have hwant := wanted_staged hlist id
      rw [hwant] at hcache
      have hbump : id ∈ r.cache → (bumped r.absent id).toInt = missed r.absent id + 1 :=
        fun h => bumped_eq (hcount h).2
      refine ⟨hr', fun h => ?_, fun _ => ?_, fun hseen => ?_⟩
      · rw [hmissed h]
        split
        · decide
        · next hm =>
          obtain ⟨hc, hlt⟩ := (hcache.1 h).resolve_left (mt hwant.2 hm)
          have := hcount hc
          rw [hbump hc] at hlt ⊢
          unfold statsEvictGraceSweeps at hlt
          omega
      · simp only [sighted, List.take_succ_cons, List.take_zero, List.mem_singleton,
          exists_eq_left]
        constructor
        · rintro ⟨h, hzero⟩
          by_contra hm
          obtain ⟨hc, -⟩ := (hcache.1 h).resolve_left hm
          rw [hmissed h, if_neg (mt hwant.1 hm), hbump hc] at hzero
          have := hcount hc
          omega
        · intro hm
          exact ⟨hcache.2 (.inl hm), by rw [hmissed (hcache.2 (.inl hm)), if_pos (hwant.2 hm)]⟩
      · have hkept : id ∈ r.cache ∧ (bumped r.absent id).toInt < statsEvictGraceSweeps ↔
            ∃ x ∈ past.take 1, Mounted n id x := by
          rw [← hlast (hseen.imp_right fun h => by rintro rfl; simp [sighted] at h)]
          refine and_congr_right fun hc => ?_
          have := hcount hc
          rw [hbump hc]
          unfold statsEvictGraceSweeps
          omega
        rw [hcache, hkept]
        simp [sighted, -Prod.exists]

/-- From any state on, whatever is mounted between the sweeps and whichever listings fail: a volume
that was not cached at first, or that two sweeps have looked for, is cached exactly if it was
mounted in one of the last two sweeps that listed the mounts. -/
theorem rehydrated_iff {ms : List Moved} {q : System}
    (h0 : Run true (fun _ _ => True) (.empty n.nodeID) ms q) (hfew : ms.length < 2 ^ 63 - 1)
    (h : StatsSweeps n id q.world past r) (hseen : id ∉ q.world.cache ∨ 2 ≤ past.length) :
    id ∈ r.cache ↔ ∃ x ∈ past.take 2, Mounted n id x :=
  (h.spec h0.measured (h0.counters hfew id)).2.2.2 hseen

theorem rehydrated_boundOnce : ∃ r, StatsSweeps ⟨"node1", true⟩ "local/v1/node1/tank/csi/a"
    (.empty "node1") [(zvolDevices, boundOnce)] r ∧ "local/v1/node1/tank/csi/a" ∈ r.cache := by
  obtain ⟨tr, listing, h', hlist, hok, hread⟩ := runs_of_exec hostAct
    (stagedVolumes ⟨"node1", true⟩ zvolDevices).run boundOnce [{}]
    (fun x => x.2.1.isOk = true ∧ ∀ e ∈ x.1, e.call = .findmnt → e.choice.fail = none) (by decide)
  obtain ⟨tr', evicted, r, hrun⟩ := exists_runs act (statsSweep listing) (.empty "node1")
  have hseen : boundOnce.seen tr = boundOnce := if_pos hread
  cases listing with
  | error e => cases hok
  | ok desired =>
    have hsweeps : StatsSweeps _ "local/v1/node1/tank/csi/a" _ [(zvolDevices, boundOnce.seen tr)] r :=
      .sweep (x := (zvolDevices, boundOnce)) .start hlist hrun
    rw [hseen] at hsweeps
    refine ⟨r, hsweeps, (rehydrated_iff .refl (by decide) hsweeps (.inl (AList.notMem_empty _))).2
      ⟨_, .head _, ("/dev/zd0", "tank/csi/a"), ?_⟩⟩
    exact ⟨by decide, by decide⟩

end NomadCsi.Local
