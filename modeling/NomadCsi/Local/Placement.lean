import NomadCsi.Local.Create
import NomadCsi.Local.Ranking

/-!
# Where a volume is placed

When every peer answers, the stats of a node are a function of its store (`statsAt`) and
`pickRoomiest` is a fold over the roster. `Ahead` is the order it ranks by;
`eval_pickRoomiest` says that the node it picks is the first in that order among the nodes
with room (`RanksFirst`).
-/

namespace NomadCsi.Local

open Lib Lib.Go Driver Zfs

theorem share_zfs (node : String) : Share (Call.zfs node) zfsAct clusterAct (fun w => w.zfs node)
    fun w s => w.put node s where
  step _ _ _ := rfl
  get_put w s := by simp [Cluster.put]
  put_put w s t := by
    simp only [Cluster.put]
    congr 1
    funext n
    by_cases hn : n = node
    · simp [hn]
    · simp [hn]
  put_get w := by
    unfold Cluster.put
    congr 1
    funext n
    by_cases hn : n = node
    · simp [hn]
    · simp [hn]

/-! ### Stats -/

/-- What a node reports on a pool, from its store. -/
def statsOf (c : Controller) (pool : String) (s : Store) : StatsResult :=
  match (s.pool? pool).filter fun p => trimSpace p.health = "ONLINE" with
  | none => { node := c.localNode }
  | some p =>
    { node := c.localNode, hasPool := true
      volumeCount := (s.listed (c.parentDatasetFor pool)).length, freeBytes := p.free
      availBytes := max (overReserve c.cfg pool p.available p.size) 0 }

theorem eval_localStats (c : Controller) (pool : String) (s : Store) :
    eval zfsAct {} (localStats c pool).run s = (.ok (statsOf c pool s), s) := by
  unfold localStats statsOf
  rw [eval_run_bind, eval_poolReady]
  unfold Store.online
  cases hp : s.pool? pool with
  | none => rfl
  | some p =>
    by_cases hon : trimSpace p.health = "ONLINE"
    · simp only [Option.any_some, Option.filter_some, hon, decide_true, if_true, eval_run_bind,
        eval_onError, eval_listZvols, eval_poolFree hp, eval_poolAvailable hp, eval_poolSize hp,
        Except.mapError, eval_pure]
    · simp [Option.filter, hon]

def statsAt (c : Controller) (w : Cluster) (pool node : String) : StatsResult :=
  statsOf { c with localNode := node } pool (w.zfs node)

variable {α : Type}

theorem eval_onNode (w : Cluster) (node : String) (x : LocalOp α) :
    eval clusterAct {} (onNode node x).run w =
      ((eval zfsAct {} x.run (w.zfs node)).1, w.put node (eval zfsAct {} x.run (w.zfs node)).2) :=
  (share_zfs node).eval_inject {} x.run w

variable {node : String} {w : Cluster}

theorem eval_forward (hnode : node ∈ w.roster) (x : LocalOp α) :
    eval clusterAct {} (forward node x).run w =
      ((eval zfsAct {} x.run (w.zfs node)).1.mapError remoteError,
        w.put node (eval zfsAct {} x.run (w.zfs node)).2) := by
  have hres : clusterAct w (.resolve node) {} = (.ok (), w) := by
    simp [clusterAct, answered, hnode]
  unfold forward
  rw [eval_run_bind, eval_perform, hres]
  change eval clusterAct {} (do
    let r ← attempt (onNode node x)
    received node r : ClusterOp α).run w = _
  rw [eval_run_bind, eval_attempt, eval_onNode]
  rfl

variable {c : Controller}

theorem eval_runOn {x : Controller → LocalOp α} (hnode : node = c.localNode ∨ node ∈ w.roster)
    {r : α} {s : Store}
    (h : eval zfsAct {} (x { c with localNode := node }).run (w.zfs node) = (.ok r, s)) :
    eval clusterAct {} (runOn c node x).run w = (.ok r, w.put node s) := by
  unfold runOn
  by_cases hl : node = c.localNode
  · subst hl
    rw [if_pos rfl, eval_onNode, h]
  · rw [if_neg hl, eval_forward (hnode.resolve_left hl), h]
    rfl

theorem eval_runOn_error {x : Controller → LocalOp α} (hnode : node = c.localNode ∨ node ∈ w.roster)
    {e : Error} {s : Store}
    (h : eval zfsAct {} (x { c with localNode := node }).run (w.zfs node) = (.error e, s)) :
    ∃ e', eval clusterAct {} (runOn c node x).run w = (.error e', w.put node s) := by
  unfold runOn
  by_cases hl : node = c.localNode
  · subst hl
    rw [if_pos rfl, eval_onNode, h]
    exact ⟨e, rfl⟩
  · rw [if_neg hl, eval_forward (hnode.resolve_left hl), h]
    exact ⟨remoteError e, rfl⟩

theorem eval_statsFor (pool : String) (hnode : node ∈ w.roster) :
    eval clusterAct {} (statsFor c node pool).run w = (.ok (statsAt c w pool node), w) := by
  unfold statsFor
  rw [eval_runOn (.inr hnode) (eval_localStats _ pool _), (share_zfs node).put_get]
  rfl

/-! ### The ranking -/

section

variable (c : Controller) (w : Cluster) (pool : String)

/-- The node has the pool online with room for `size` bytes over the reserve. -/
def Fits (size : Int) (node : String) : Prop :=
  (statsAt c w pool node).hasPool = true ∧ size ≤ (statsAt c w pool node).availBytes

instance (size : Int) (node : String) : Decidable (Fits c w pool size node) :=
  inferInstanceAs (Decidable (_ ∧ _))

/-- `n` ranks before `m`: more available bytes, then fewer volumes, then the smaller name. -/
def Ahead (n m : String) : Prop :=
  (statsAt c w pool m).availBytes < (statsAt c w pool n).availBytes ∨
    ((statsAt c w pool n).availBytes = (statsAt c w pool m).availBytes ∧
      ((statsAt c w pool n).volumeCount < (statsAt c w pool m).volumeCount ∨
        ((statsAt c w pool n).volumeCount = (statsAt c w pool m).volumeCount ∧ n < m)))

instance (n m : String) : Decidable (Ahead c w pool n m) :=
  inferInstanceAs (Decidable (_ ∨ _))

/-- The node has room, and ranks before every other node of the roster that has room. -/
def RanksFirst (size : Int) (node : String) : Prop :=
  node ∈ w.roster ∧ Fits c w pool size node ∧
    ∀ n ∈ w.roster, n ≠ node → Fits c w pool size n → Ahead c w pool node n

instance (size : Int) (node : String) : Decidable (RanksFirst c w pool size node) :=
  inferInstanceAs (Decidable (_ ∧ _ ∧ ∀ n ∈ _, _))

end

variable {c : Controller} {w : Cluster} {pool : String} {size : Int}

def entry (c : Controller) (w : Cluster) (pool node : String) : Best :=
  ⟨node, (statsAt c w pool node).availBytes, (statsAt c w pool node).volumeCount⟩

theorem before_entry_iff {n m : String} :
    (entry c w pool n).Before (entry c w pool m) ↔ Ahead c w pool n m := Iff.rfl

theorem Ahead.asymm {n m : String} (h : Ahead c w pool n m) : ¬ Ahead c w pool m n := by
  rw [← before_entry_iff, ← rank_lt_iff] at h ⊢
  exact lt_asymm h

/-! ### Picking a node -/

theorem availBytes_nonneg (node : String) : 0 ≤ (statsAt c w pool node).availBytes := by
  unfold statsAt statsOf
  split
  · exact le_refl _
  · exact le_max_right _ _

def allAnswer (c : Controller) (w : Cluster) (pool : String) (peers : List String) : Answers :=
  peers.map fun p => (p, .ok (statsAt c w pool p))

theorem mem_candidates_allAnswer {peers : List String} {b : Best} :
    b ∈ candidates size (allAnswer c w pool peers) ↔
      ∃ n ∈ peers, Fits c w pool size n ∧ b = entry c w pool n := by
  rw [mem_candidates]
  constructor
  · rintro ⟨st, hmem, hpool, hle, hb⟩
    obtain ⟨n, hn, heq⟩ := List.mem_map.1 hmem
    cases heq
    exact ⟨_, hn, ⟨hpool, hle⟩, hb⟩
  · rintro ⟨n, hn, ⟨hpool, hle⟩, rfl⟩
    exact ⟨_, List.mem_map.2 ⟨n, hn, rfl⟩, hpool, hle, rfl⟩

theorem eval_pickLoop {peers : List String} (hpeers : ∀ p ∈ peers, p ∈ w.roster) (b : Best) :
    eval clusterAct {} (pickLoop c pool size peers b).run w =
      (.ok (pick size (allAnswer c w pool peers) b), w) := by
  induction peers generalizing b with
  | nil => rfl
  | cons p ps ih =>
    rw [pickLoop, eval_run_bind, eval_attempt, eval_statsFor pool (hpeers p (.head _))]
    exact ih (fun q hq => hpeers q (.tail _ hq)) _

/-- The pick is the node that ranks first; an empty name reads as no node. -/
theorem eval_pickRoomiest (c : Controller) (w : Cluster) (pool : String) (size : Int) :
    (∃ node, eval clusterAct {} (pickRoomiest c pool size).run w = (.ok node, w) ∧ node ≠ "" ∧
      RanksFirst c w pool size node) ∨
    ((∃ e, eval clusterAct {} (pickRoomiest c pool size).run w = (.error e, w)) ∧
      ∀ node, node ≠ "" → ¬ RanksFirst c w pool size node) := by
  have hpeers : eval clusterAct {} listPeers.run w = (.ok w.roster, w) := rfl
  unfold pickRoomiest
  rw [eval_run_bind, hpeers]
  by_cases hnil : w.roster = []
  · refine .inr ⟨⟨_, by simp only [if_pos hnil]; rfl⟩, ?_⟩
    rintro node - ⟨hmem, -⟩
    simp [hnil] at hmem
  · simp only [if_neg hnil]
    rw [eval_run_bind, eval_pickLoop fun p hp => hp]
    have hbeats : ∀ x ∈ candidates size (allAnswer c w pool w.roster), -1 < x.avail := by
      intro x hx
      obtain ⟨n, -, -, rfl⟩ := mem_candidates_allAnswer.1 hx
      have hnonneg : 0 ≤ (entry c w pool n).avail := availBytes_nonneg n
      omega
    rcases pick_cases hbeats with ⟨hnone, hpick⟩ | ⟨hpick, hbest⟩
    · rw [hpick]
      refine .inr ⟨⟨_, rfl⟩, fun node _ h => ?_⟩
      have hmem := mem_candidates_allAnswer.2 ⟨node, h.1, h.2.1, rfl⟩
      rw [hnone] at hmem
      cases hmem
    · obtain ⟨node, hmem, hfit, heq⟩ := mem_candidates_allAnswer.1 hpick
      rw [heq] at hbest ⊢
      have hahead : ∀ n ∈ w.roster, n ≠ node → Fits c w pool size n → Ahead c w pool node n := by
        intro n hn hne hf
        exact hbest _ (mem_candidates_allAnswer.2 ⟨n, hn, hf, rfl⟩) fun h =>
          hne (congrArg Best.node h)
      by_cases hempty : (entry c w pool node).node = ""
      · refine .inr ⟨⟨_, by dsimp only; rw [if_pos hempty]; rfl⟩, ?_⟩
        intro m hm hfirst
        have hne : m ≠ node := fun h => hm (h.trans hempty)
        exact (hahead m hfirst.1 hne hfirst.2.1).asymm (hfirst.2.2 node hmem hne.symm hfit)
      · exact .inl ⟨node, by dsimp only; rw [if_neg hempty]; rfl, hempty, hmem, hfit, hahead⟩

theorem RanksFirst.unique {n m : String} (hn : RanksFirst c w pool size n)
    (hm : RanksFirst c w pool size m) : n = m := by
  by_contra hne
  exact (hn.2.2 m hm.1 (Ne.symm hne) hm.2.1).asymm (hm.2.2 n hn.1 hne hn.2.1)

end NomadCsi.Local
