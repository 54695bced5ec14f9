import Mathlib.Data.List.MinMax
import Mathlib.Data.Prod.Lex
import NomadCsi.Local.Cluster

/-!
# Ranking the peers

`host=auto` walks the roster once and keeps the best peer so far. Ranked by `Best.rank`, the
walk is a search for the least candidate (`pick_eq`), whatever the peers answered and in
whatever order they were asked.
-/

namespace NomadCsi.Local

open Lib Lib.Go Driver

/-- What the peers answered, in the order they were asked. -/
abbrev Answers := List (String × Except Error StatsResult)

/-- A peer that answered, has the pool and room for `size` bytes. -/
def candidate (size : Int) (a : String × Except Error StatsResult) : Option Best :=
  match a.2 with
  | .error _ => none
  | .ok st =>
    if st.hasPool && size ≤ st.availBytes then some ⟨a.1, st.availBytes, st.volumeCount⟩ else none

def candidates (size : Int) (answers : Answers) : List Best := answers.filterMap (candidate size)

/-- More available bytes, then fewer volumes, then the smaller name. -/
def Best.Before (a b : Best) : Prop :=
  b.avail < a.avail ∨ (a.avail = b.avail ∧ (a.count < b.count ∨ (a.count = b.count ∧ a.node < b.node)))

def First (size : Int) (answers : Answers) (node : String) : Prop :=
  ∃ b ∈ candidates size answers, b.node = node ∧
    ∀ x ∈ candidates size answers, x ≠ b → b.Before x

def pick (size : Int) (answers : Answers) (b : Best) : Best :=
  answers.foldl (fun b a => b.consider size a.1 a.2) b

/-! ### The rank -/

/-- The order of the walk as a lexicographic one. -/
def Best.rank (b : Best) : Lex (ℤᵒᵈ × Lex (ℤ × String)) :=
  toLex (OrderDual.toDual b.avail, toLex (b.count, b.node))

variable {b : Best}

theorem rank_lt_iff {a : Best} : a.rank < b.rank ↔ a.Before b := by
  unfold Best.rank Best.Before
  rw [Prod.Lex.toLex_lt_toLex, Prod.Lex.toLex_lt_toLex]
  rfl

theorem rank_injective : Function.Injective Best.rank := by
  rintro ⟨n, a, k⟩ ⟨n', a', k'⟩ h
  cases h
  rfl

theorem before_of_rank_le {a : Best} (h : a.rank ≤ b.rank) (hne : b ≠ a) : a.Before b :=
  rank_lt_iff.1 (h.lt_of_ne fun he => hne (rank_injective he).symm)

/-! ### The walk -/

/-- The better of two, the first one if they are equal. -/
def Best.better (b x : Best) : Best := if x.rank < b.rank then x else b

theorem beaten_iff {node : String} {st : StatsResult} :
    b.beaten node st = true ↔ Best.rank ⟨node, st.availBytes, st.volumeCount⟩ < b.rank := by
  rw [rank_lt_iff]
  unfold Best.beaten Best.Before
  simp only [Bool.or_eq_true, Bool.and_eq_true, decide_eq_true_eq, gt_iff_lt]
  tauto

theorem consider_eq (size : Int) (b : Best) (a : String × Except Error StatsResult) :
    b.consider size a.1 a.2 = (candidate size a).elim b b.better := by
  obtain ⟨node, e | st⟩ := a
  · rfl
  · unfold Best.consider candidate
    dsimp only
    by_cases hroom : (st.hasPool && decide (size ≤ st.availBytes)) = true
    · rw [if_pos hroom, Option.elim_some, Best.better, hroom, Bool.true_and]
      exact if_congr beaten_iff rfl rfl
    · rw [if_neg hroom, if_neg (fun h => hroom (Bool.and_eq_true_iff.1 h).1), Option.elim_none]

theorem pick_eq_foldl (size : Int) (answers : Answers) (b : Best) :
    pick size answers b = (candidates size answers).foldl Best.better b := by
  unfold pick candidates
  rw [List.foldl_filterMap]
  congr 1
  funext b a
  rw [consider_eq]
  cases candidate size a with
  | none => rfl
  | some x => rfl

/-- From a start that every element beats, a walk that keeps the better of two finds the least. -/
theorem foldl_argmin {α β : Type} [LinearOrder β] {f : α → β} {start : α} {l : List α}
    (h : ∀ x ∈ l, f x < f start) :
    l.foldl (fun b x => if f x < f b then x else b) start = (l.argmin f).getD start := by
  induction l using List.reverseRecOn with
  | nil => rfl
  | append_singleton l x ih =>
    rw [List.foldl_concat, ih fun y hy => h y (List.mem_append_left _ hy), List.argmin_concat]
    cases l.argmin f with
    | none => exact if_pos (h x (by simp))
    | some y =>
      dsimp only [Option.getD_some]
      split
      · rfl
      · rfl

variable {answers : Answers} {size : Int}

theorem mem_candidates :
    b ∈ candidates size answers ↔ ∃ st, (b.node, .ok st) ∈ answers ∧ st.hasPool = true ∧
      size ≤ st.availBytes ∧ b = ⟨b.node, st.availBytes, st.volumeCount⟩ := by
  unfold candidates
  rw [List.mem_filterMap]
  constructor
  · rintro ⟨⟨node, e | st⟩, hmem, hb⟩
    · cases hb
    · obtain ⟨hroom, hb⟩ := Option.ite_none_right_eq_some.1 hb
      cases hb
      obtain ⟨hpool, hle⟩ := Bool.and_eq_true_iff.1 hroom
      exact ⟨st, hmem, hpool, of_decide_eq_true hle, rfl⟩
  · rintro ⟨st, hmem, hpool, hle, hb⟩
    refine ⟨_, hmem, ?_⟩
    rw [hb]
    exact if_pos (Bool.and_eq_true_iff.2 ⟨hpool, decide_eq_true hle⟩)

theorem pick_cases (h : ∀ x ∈ candidates size answers, -1 < x.avail) :
    (candidates size answers = [] ∧ pick size answers .start = .start) ∨
    (pick size answers .start ∈ candidates size answers ∧
      ∀ x ∈ candidates size answers, x ≠ pick size answers .start →
        (pick size answers .start).Before x) := by
  have hstart : ∀ x ∈ candidates size answers, x.rank < Best.start.rank :=
    fun x hx => rank_lt_iff.2 (.inl (h x hx))
  have hfold : (candidates size answers).foldl Best.better .start = _ := foldl_argmin hstart
  rw [pick_eq_foldl, hfold]
  cases hb : (candidates size answers).argmin Best.rank with
  | none => exact .inl ⟨List.argmin_eq_none.1 hb, rfl⟩
  | some b =>
    refine .inr ⟨List.argmin_mem hb, fun x hx hne => ?_⟩
    exact before_of_rank_le (List.le_of_mem_argmin hx hb) hne

theorem First.unique {answers' : Answers} {n m : String} (hperm : answers'.Perm answers)
    (hn : First size answers n) (hm : First size answers' m) : m = n := by
  obtain ⟨b, hb, rfl, hfirst⟩ := hn
  obtain ⟨b', hb', rfl, hfirst'⟩ := hm
  have hmem : ∀ x, x ∈ candidates size answers' ↔ x ∈ candidates size answers :=
    fun x => (hperm.filterMap _).mem_iff
  by_contra hne
  have hbb : b' ≠ b := fun h => hne (congrArg Best.node h)
  have hlt := rank_lt_iff.2 (hfirst b' ((hmem b').1 hb') hbb)
  have hgt := rank_lt_iff.2 (hfirst' b ((hmem b).2 hb) hbb.symm)
  exact lt_asymm hlt hgt

end NomadCsi.Local
