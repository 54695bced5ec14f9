import Mathlib.Algebra.BigOperators.Group.List.Basic
import Mathlib.Tactic.Abel
import NomadCsi.Lib.Pool

/-!
# Goroutines over shared state

A crew is a shared state and any number of tasks. A task is where its goroutine stands; one
step of it changes the shared state, moves the task and may start others. Tasks may also be
started from outside at any time. `Crew.Reach` carries a record that is kept beside the runs.
-/

namespace NomadCsi.Lib

variable {σ τ ι γ : Type}

structure Crew (σ τ : Type) where
  shared : σ
  tasks : List τ

namespace Crew

/-- Start a task, or let task `i` take a step with an input of its environment. -/
inductive Act (τ ι : Type) where
  | start (t : τ)
  | go (i : Nat) (x : ι)

section

variable (go : σ → τ → ι → Option (σ × τ × List τ)) (note : Crew σ τ → Act τ ι → γ → γ)
  (Ok : Crew σ τ → Act τ ι → Prop)

def next (c : Crew σ τ) : Act τ ι → Option (Crew σ τ)
  | .start t => some { c with tasks := c.tasks ++ [t] }
  | .go i x => do
    let t ← c.tasks[i]?
    let r ← go c.shared t x
    some ⟨r.1, c.tasks.set i r.2.1 ++ r.2.2⟩

/-- The crews reached by allowed actions, with the record kept beside them. -/
inductive Reach (c0 : Crew σ τ) (g0 : γ) : Crew σ τ → γ → Prop where
  | refl : Reach c0 g0 c0 g0
  | next {c c' : Crew σ τ} {g : γ} {a : Act τ ι} : Reach c0 g0 c g → Ok c a →
      c.next go a = some c' → Reach c0 g0 c' (note c a g)

/-- Run a crew on a list of actions, all of which must be allowed. -/
def play [∀ c a, Decidable (Ok c a)] (c : Crew σ τ) (g : γ) :
    List (Act τ ι) → Option (Crew σ τ × γ)
  | [] => some (c, g)
  | a :: as =>
    if Ok c a then
      match c.next go a with
      | none => none
      | some c' => c'.play (note c a g) as
    else none

end

variable {go : σ → τ → ι → Option (σ × τ × List τ)} {note : Crew σ τ → Act τ ι → γ → γ}
  {Ok : Crew σ τ → Act τ ι → Prop} {c c' c0 : Crew σ τ} {g g0 : γ} {a : Act τ ι}

theorem next_cases (h : c.next go a = some c') :
    (∃ t, a = .start t ∧ c' = ⟨c.shared, c.tasks ++ [t]⟩) ∨
    ∃ i x t s t' new, a = .go i x ∧ c.tasks[i]? = some t ∧ go c.shared t x = some (s, t', new) ∧
      c' = ⟨s, c.tasks.set i t' ++ new⟩ := by
  cases a with
  | start t => exact .inl ⟨t, rfl, (Option.some.inj h).symm⟩
  | go i x =>
    obtain ⟨t, ht, h⟩ := Option.bind_eq_some_iff.1 h
    obtain ⟨⟨s, t', new⟩, hgo, h⟩ := Option.bind_eq_some_iff.1 h
    exact .inr ⟨i, x, t, s, t', new, rfl, ht, hgo, (Option.some.inj h).symm⟩

/-- What holds at the start and is kept by every allowed action holds throughout. -/
theorem Reach.invariant {I : Crew σ τ → γ → Prop} (h : Reach go note Ok c0 g0 c g) (h0 : I c0 g0)
    (hnext : ∀ c c' g a, I c g → Ok c a → c.next go a = some c' → I c' (note c a g)) : I c g := by
  induction h with
  | refl => exact h0
  | next _ hok hstep ih => exact hnext _ _ _ _ ih hok hstep

theorem Reach.play [∀ c a, Decidable (Ok c a)] {r : Crew σ τ × γ} {as : List (Act τ ι)}
    (h : Reach go note Ok c0 g0 c g) (hplay : c.play go note Ok g as = some r) :
    Reach go note Ok c0 g0 r.1 r.2 := by
  induction as generalizing c g with
  | nil =>
    obtain rfl := Option.some.inj hplay
    exact h
  | cons a as ih =>
    unfold Crew.play at hplay
    split at hplay
    · next hok =>
      split at hplay
      · cases hplay
      · next hnext => exact ih (h.next hok hnext) hplay
    · cases hplay

variable (go note Ok) in
theorem reach_of_play [∀ c a, Decidable (Ok c a)] (c : Crew σ τ) (g : γ) (as : List (Act τ ι))
    (P : Crew σ τ × γ → Prop) [DecidablePred P]
    (h : ((c.play go note Ok g as).any fun r => decide (P r)) = true) :
    ∃ c' g', Reach go note Ok c g c' g' ∧ P (c', g') := by
  obtain ⟨r, hplay, hr⟩ := (Option.any_eq_true _ _).1 h
  exact ⟨r.1, r.2, Reach.refl.play hplay, of_decide_eq_true hr⟩

/-- The tasks after a step: the one that moved, those it started, and the others. -/
theorem mem_tasks {i : Nat} {t' u : τ} {new : List τ} (h : u ∈ c.tasks.set i t' ++ new) :
    u = t' ∨ u ∈ new ∨ u ∈ c.tasks := by
  rcases List.mem_append.1 h with h | h
  · rcases mem_set_cases h with rfl | ⟨j, -, hj⟩
    · exact .inl rfl
    · exact .inr (.inr (List.mem_of_getElem? hj))
  · exact .inr (.inl h)

section

variable {M : Type} [AddCommMonoid M] (g : σ → M) (f : τ → M)

/-- What the shared state and the tasks weigh together. -/
def weight (c : Crew σ τ) : M := g c.shared + (c.tasks.map f).sum

/-- A step changes the weight by what it changes for the shared state and the task that
moved, and by what the new tasks weigh. -/
theorem weight_next {i : Nat} {t : τ} (ht : c.tasks[i]? = some t) (s : σ) (t' : τ)
    (new : List τ) :
    weight g f ⟨s, c.tasks.set i t' ++ new⟩ + (g c.shared + f t) =
      weight g f c + (g s + f t' + (new.map f).sum) := by
  obtain ⟨hlt, rfl⟩ := List.getElem?_eq_some_iff.1 ht
  have hset := ((List.set_perm_cons_eraseIdx hlt t').map f).sum_eq
  have hself := ((List.getElem_cons_eraseIdx_perm hlt).map f).sum_eq
  rw [List.map_cons, List.sum_cons] at hset hself
  unfold weight
  dsimp only
  rw [List.map_append, List.sum_append, hset, ← hself]
  abel

theorem weight_set {i : Nat} {t : τ} (ht : c.tasks[i]? = some t) (s : σ) (t' : τ) :
    weight g f ⟨s, c.tasks.set i t'⟩ + (g c.shared + f t) = weight g f c + (g s + f t') := by
  have hnext := weight_next g f ht s t' []
  rwa [List.append_nil, List.map_nil, List.sum_nil, add_zero] at hnext

theorem weight_start {t : τ} (ht : f t = 0) : weight g f ⟨c.shared, c.tasks ++ [t]⟩ = weight g f c := by
  unfold weight
  simp [ht]

end

end Crew

end NomadCsi.Lib
