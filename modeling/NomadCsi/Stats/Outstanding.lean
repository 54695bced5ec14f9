import Mathlib.Algebra.Order.BigOperators.Group.List
import Mathlib.Algebra.Order.Group.Nat
import NomadCsi.Stats.Walk

/-!
# Outstanding items

The wait group of a job counts its outstanding items, whoever holds them: a step changes the
counter as it changes what the queue and the goroutines hold (`WalkMove.accounts`), so the two
agree throughout (`Balanced`).
-/

namespace NomadCsi.Stats

open Lib

/-! ### The jobs after an operation -/

namespace WalkPool

variable {p : WalkPool} {j k : Nat}

theorem job_update (f : WalkJob → WalkJob) :
    (p.update k f).jobs[j]? = if k = j then (p.jobs[j]?).map f else p.jobs[j]? := by
  unfold update
  rw [List.getElem?_modify]
  by_cases hk : k = j
  · simp [hk]
  · simp [hk]

theorem job_cancel : p.cancel.jobs[j]? =
    (p.jobs[j]?).map fun job => { job with ctxErr := job.ctxErr <|> some canceled } :=
  List.getElem?_map

theorem job_newJob : p.newJob.jobs[j]? = if p.jobs.length = j then
    some { ctxErr := if p.cancelled then some canceled else none, wg := 1 } else p.jobs[j]? := by
  unfold newJob
  by_cases hj : p.jobs.length = j
  · subst hj
    simp
  · rw [if_neg hj, List.getElem?_append]
    split
    · rfl
    · next hlt =>
      rw [List.getElem?_eq_none (by simp; omega), List.getElem?_eq_none (by omega)]

/-! ### The wait groups -/

/-- The counter of a job; there is none for a job to come. -/
def wg (p : WalkPool) (j : Nat) : Int := ((p.jobs[j]?).map (·.wg)).getD 0

theorem lt_of_wg_ne (h : p.wg j ≠ 0) : j < p.jobs.length := by
  by_contra hle
  unfold wg at h
  rw [List.getElem?_eq_none (Nat.le_of_not_lt hle)] at h
  exact h rfl

theorem wg_update {f : WalkJob → WalkJob} (h : ∀ job, (f job).wg = job.wg) :
    (p.update k f).wg j = p.wg j := by
  unfold wg
  rw [job_update]
  split
  · rw [Option.map_map]
    congr 2
    funext job
    exact h job
  · rfl

theorem wg_wgAdd (hk : k < p.jobs.length) (n : Int) :
    (p.wgAdd k n).wg j = p.wg j + if k = j then n else 0 := by
  unfold wg wgAdd
  rw [job_update]
  by_cases hkj : k = j
  · subst hkj
    simp [List.getElem?_eq_getElem hk]
  · simp [hkj]

theorem wg_cancel : p.cancel.wg j = p.wg j := by
  unfold wg
  rw [job_cancel, Option.map_map]
  rfl

theorem wg_newJob : p.newJob.wg j = p.wg j + if p.jobs.length = j then 1 else 0 := by
  unfold wg
  rw [job_newJob]
  by_cases hj : p.jobs.length = j
  · subst hj
    simp
  · simp [hj]

theorem wg_count (kind : Kind) : (p.update k (·.count kind)).wg j = p.wg j := by
  refine wg_update fun job => ?_
  cases kind with
  | other | file | dir => rfl

def queued (p : WalkPool) (j : Nat) : Nat := p.queue.countP (·.job = j)

theorem queued_push (it : WalkItem) :
    queued { p with queue := p.queue ++ [it] } j = p.queued j + if it.job = j then 1 else 0 := by
  unfold queued
  rw [List.countP_append, List.countP_singleton]
  simp only [decide_eq_true_eq]

theorem queued_pop {it : WalkItem} {queue : List WalkItem} (h : p.queue = it :: queue) :
    p.queued j = queued { p with queue } j + if it.job = j then 1 else 0 := by
  unfold queued
  rw [h, List.countP_cons]
  simp only [decide_eq_true_eq]

theorem accounts_wgAdd (hk : k < p.jobs.length) {n : Int} {a b : Nat}
    (h : (b : Int) = a + if k = j then n else 0) :
    (p.wgAdd k n).wg j + (p.queued j + a : Nat) =
      p.wg j + ((p.wgAdd k n).queued j + b : Nat) := by
  rw [wg_wgAdd hk]
  change _ = _ + ((p.queued j + b : Nat) : Int)
  push_cast
  omega

end WalkPool

/-! ### Outstanding items -/

/-- How many items of a job a goroutine has in hand. -/
def WalkTask.held (j : Nat) : WalkTask → Nat
  | submitRoot k _ | balanceRoot k _ => if k = j then 1 else 0
  | drain rest => rest.countP (·.job = j)
  | enter it | read it | scan it _ | count it _ _ | add it _ _ | finish it =>
    if it.job = j then 1 else 0
  -- the item in process, and the child that is being submitted
  | submit it _ _ | balance it _ => if it.job = j then 2 else 0
  | _ => 0

/-- The items of a job that are being submitted, queued, in process or taken off to be
drained. -/
def outstanding (c : WalkCrew) (j : Nat) : Nat := c.weight (·.queued j) (WalkTask.held j)

/-- Every wait group counts the outstanding items. -/
def Balanced (c : WalkCrew) : Prop := ∀ j, c.shared.wg j = outstanding c j

variable {i : Nat}

section

variable {fs : FileSystem} {p p' : WalkPool} {t t' : WalkTask} {c c' : WalkCrew} {j : Nat}

/-- A step changes the wait group as it changes what is outstanding. -/
theorem WalkMove.accounts (h : WalkMove fs p t p' t')
    (hin : ∀ k, 0 < t.held k → k < p.jobs.length) (j : Nat) :
    p'.wg j + (p.queued j + t.held j : Nat) = p.wg j + (p'.queued j + t'.held j : Nat) := by
  cases h with
  | walk =>
    rw [WalkPool.wg_newJob]
    change _ + ((p.queued j + 0 : Nat) : Int) = _ + ((p.queued j + if _ then 1 else 0 : Nat) : Int)
    push_cast
    omega
  | submitRoot _ | submit _ =>
    rw [WalkPool.queued_push]
    simp only [WalkTask.held]
    change p.wg j + _ = _
    push_cast
    split <;> omega
  | balanceRoot | add | balance | finish =>
    refine WalkPool.accounts_wgAdd (hin _ (by simp [WalkTask.held])) ?_
    simp only [WalkTask.held]
    split <;> rfl
  | take _ hqueue =>
    rw [WalkPool.queued_pop hqueue]
    rfl
  | stop _ =>
    change _ + ((p.queued j + 0 : Nat) : Int) = _ + ((0 + p.queued j : Nat) : Int)
    rw [Nat.zero_add]
    rfl
  | cancelJob | failed => exact congrArg (· + _) (WalkPool.wg_update fun _ => rfl)
  | cancel => exact congrArg (· + _) WalkPool.wg_cancel
  | drain =>
    refine WalkPool.accounts_wgAdd (hin _ (by simp [WalkTask.held])) ?_
    simp only [WalkTask.held, List.countP_cons, decide_eq_true_eq]
    push_cast
    split <;> omega
  | countDir _ | count _ => exact congrArg (· + _) (WalkPool.wg_count _)
  | refuseRoot _ | wait _ _ | load _ | judge _ | close _ | drained | drop _ _ | enter | read _
  | scanned | abandon _ _ | scan | refuse _ => rfl

theorem held_le_outstanding (ht : c.tasks[i]? = some t) (j : Nat) :
    c.shared.queued j + t.held j ≤ outstanding c j :=
  Nat.add_le_add_left (List.single_le_sum (by simp) _
    (List.mem_map_of_mem (List.mem_of_getElem? ht))) _

theorem Balanced.lt_of_held (h : Balanced c) (ht : c.tasks[i]? = some t) (hheld : 0 < t.held j) :
    j < c.shared.jobs.length := by
  have hle := held_le_outstanding ht j
  exact WalkPool.lt_of_wg_ne (by rw [h j]; omega)

theorem Balanced.step (h : Balanced c) (ht : c.tasks[i]? = some t)
    (hmove : WalkMove fs c.shared t p' t') : Balanced ⟨p', c.tasks.set i t'⟩ := by
  intro j
  have haccounts := hmove.accounts (fun k => h.lt_of_held ht) j
  have hset : outstanding ⟨p', c.tasks.set i t'⟩ j + _ = outstanding c j + _ :=
    Crew.weight_set (·.queued j) (WalkTask.held j) ht p' t'
  have hbefore := h j
  dsimp only at hset ⊢
  omega

theorem WalkTask.held_of_called (h : t.called = true) : t.held j = 0 := by
  cases t with
  | walk | cancelJob | cancel => rfl
  | _ => cases h

theorem Balanced.new (workers : Int) : Balanced (newWalkPool workers) := by
  intro j
  unfold outstanding Crew.weight newWalkPool
  simp [WalkPool.wg, WalkPool.queued, WalkTask.held]

theorem Balanced.call (h : Balanced c) (ht : t.called = true) :
    Balanced ⟨c.shared, c.tasks ++ [t]⟩ := by
  intro j
  rw [outstanding, Crew.weight_start _ _ (WalkTask.held_of_called ht)]
  exact h j

/-! ### After the wait -/

/-- The job of a walk that has passed its wait. -/
def WalkTask.waited : WalkTask → Option Nat
  | load j _ | judge j _ _ _ _ | returned j _ _ => some j
  | _ => none

def WalkTask.opens : WalkTask → List String
  | walk root => [root]
  | _ => []

theorem WalkMove.length_eq (h : WalkMove fs p t p' t') :
    p'.jobs.length = p.jobs.length + t.opens.length := by
  cases h with
  | walk => simp [WalkPool.newJob, WalkTask.opens]
  | balanceRoot | cancelJob | drain | failed _ | countDir _ | count _ | add | balance | finish =>
    simp [WalkPool.wgAdd, WalkPool.cancelJob, WalkPool.update, WalkTask.opens]
  | cancel => simp [WalkPool.cancel, WalkTask.opens]
  | _ => rfl

theorem WalkMove.waited (h : WalkMove fs p t p' t') (hj : t'.waited = some j) :
    t.waited = some j ∨ j < p.jobs.length ∧ p.wg j = 0 := by
  cases h with
  | wait hjob hwg =>
    cases hj
    refine .inr ⟨(List.getElem?_eq_some_iff.1 hjob).1, ?_⟩
    unfold WalkPool.wg
    rw [hjob]
    exact hwg
  | load _ | judge _ => exact .inl hj
  | count _ => cases hj
  | _ => cases hj

theorem WalkMove.wg_eq (h : WalkMove fs p t p' t') (hin : ∀ k, 0 < t.held k → k < p.jobs.length)
    (hj : j < p.jobs.length) (hheld : t.held j = 0) : p'.wg j = p.wg j := by
  cases h with
  | walk => rw [WalkPool.wg_newJob, if_neg (Nat.ne_of_gt hj), add_zero]
  | balanceRoot | drain | add | balance | finish =>
    rw [WalkPool.wg_wgAdd (hin _ (by simp [WalkTask.held])), if_neg, add_zero]
    rintro rfl
    simp [WalkTask.held] at hheld
  | cancelJob | failed _ => exact WalkPool.wg_update fun _ => rfl
  | cancel => exact WalkPool.wg_cancel
  | countDir _ | count _ => exact WalkPool.wg_count _
  | _ => rfl

theorem Balanced.still (h : Balanced c) (ht : c.tasks[i]? = some t)
    (hmove : WalkMove fs c.shared t p' t') (hj : j < c.shared.jobs.length)
    (hnone : outstanding c j = 0) : outstanding ⟨p', c.tasks.set i t'⟩ j = 0 := by
  have hle := held_le_outstanding ht j
  have hwg := hmove.wg_eq (fun k => h.lt_of_held ht) hj (by omega)
  have hafter : p'.wg j = _ := h.step ht hmove j
  have hbefore := h j
  omega

/-- A walk that has passed its wait has nothing outstanding. -/
def Waited (c : WalkCrew) : Prop :=
  ∀ t ∈ c.tasks, ∀ j, t.waited = some j → j < c.shared.jobs.length ∧ outstanding c j = 0

theorem Waited.step (h : Waited c) (hc : Balanced c) (ht : c.tasks[i]? = some t)
    (hmove : WalkMove fs c.shared t p' t') : Waited ⟨p', c.tasks.set i t'⟩ := by
  intro u hu j hj
  have hnone : j < c.shared.jobs.length ∧ outstanding c j = 0 := by
    rcases mem_set_cases hu with rfl | ⟨k, -, hk⟩
    · rcases hmove.waited hj with hj | ⟨hlt, hwg⟩
      · exact h t (List.mem_of_getElem? ht) j hj
      · refine ⟨hlt, ?_⟩
        have hcount := hc j
        omega
    · exact h u (List.mem_of_getElem? hk) j hj
  exact ⟨hmove.length_eq ▸ Nat.lt_add_right _ hnone.1, hc.still ht hmove hnone.1 hnone.2⟩

theorem Waited.new (workers : Int) : Waited (newWalkPool workers) := by
  intro t ht j hj
  rcases mem_newWalkPool ht with rfl | rfl
  · cases hj
  · cases hj

theorem Waited.call (h : Waited c) (ht : t.called = true) : Waited ⟨c.shared, c.tasks ++ [t]⟩ := by
  intro u hu j hj
  rw [outstanding, Crew.weight_start _ _ (WalkTask.held_of_called ht)]
  rcases mem_snoc.1 hu with hu | rfl
  · exact h u hu j hj
  · cases u with
    | walk | cancelJob | cancel => cases hj
    | _ => cases ht

end

end NomadCsi.Stats
