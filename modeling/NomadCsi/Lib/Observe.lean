import NomadCsi.Lib.Pool

/-!
# Watching a pool

`Observed` carries a record along the run of a pool that `see` brings up to date after every
action, from the action and the pool it led to: the promises made so far, say.
-/

namespace NomadCsi.Lib

variable {C : Type} {R : C → Type} {σ ω α J L γ : Type}

section

variable (act : Act C R σ ω) (body : J → Prog C R α) (accept : J → L → Option L)
  (leave : J → L → L) (see : γ → Action J ω → Pool C R σ J L α → γ)
  (Ok : Pool C R σ J L α → Action J ω → Prop)

/-- The pools reached from `p` by actions that satisfy `Ok`, with the record kept from `g`. -/
inductive Observed (g : γ) (p : Pool C R σ J L α) : γ → Pool C R σ J L α → Prop where
  | start : Observed g p g p
  | next {l : γ} {ms : List (Move C R σ ω J α)} {q q' : Pool C R σ J L α} (a : Action J ω) :
      Observed g p l q → Ok q a → q.next act body accept leave a = some (ms, q') →
      Observed g p (see l a q') q'

/-- Watch a pool run through a list of actions, each of which must satisfy `Ok`. -/
def Pool.watch [∀ p a, Decidable (Ok p a)] (g : γ) (p : Pool C R σ J L α) :
    List (Action J ω) → Option (γ × Pool C R σ J L α)
  | [] => some (g, p)
  | a :: as =>
    if Ok p a then
      match p.next act body accept leave a with
      | none => none
      | some (_, q) => q.watch (see g a q) as
    else none

end

section

variable {act : Act C R σ ω} {body : J → Prog C R α} {accept : J → L → Option L}
  {leave : J → L → L} {see : γ → Action J ω → Pool C R σ J L α → γ}
  {Ok : Pool C R σ J L α → Action J ω → Prop} {g l : γ} {p q : Pool C R σ J L α}

/-- What holds at the start and is kept by every allowed action holds of every pool reached and
the record kept up to it. -/
theorem Observed.invariant {I : γ → Pool C R σ J L α → Prop}
    (h : Observed act body accept leave see Ok g p l q) (h0 : I g p)
    (hstep : ∀ l q a ms q', I l q → Ok q a → q.next act body accept leave a = some (ms, q') →
      I (see l a q') q') : I l q := by
  induction h with
  | start => exact h0
  | next a _ hok hnext ih => exact hstep _ _ _ _ _ ih hok hnext

theorem Observed.watch [∀ p a, Decidable (Ok p a)]
    (h : Observed act body accept leave see Ok g p l q) {as : List (Action J ω)} {l' : γ}
    {q' : Pool C R σ J L α}
    (hr : q.watch act body accept leave see Ok l as = some (l', q')) :
    Observed act body accept leave see Ok g p l' q' := by
  induction as generalizing q l with
  | nil =>
    cases hr
    exact h
  | cons a as ih =>
    rw [Pool.watch] at hr
    split at hr
    · next hok =>
      split at hr
      · cases hr
      · next ms q1 hnext => exact ih (.next a h hok hnext) hr
    · cases hr

variable (act body accept leave see Ok) in
theorem observed_of_watch [∀ p a, Decidable (Ok p a)] (g : γ) (p : Pool C R σ J L α)
    (as : List (Action J ω)) (P : γ → Pool C R σ J L α → Prop)
    (h : ∃ x ∈ p.watch act body accept leave see Ok g as, P x.1 x.2) :
    ∃ l q, Observed act body accept leave see Ok g p l q ∧ P l q := by
  obtain ⟨⟨l, q⟩, hrun, hP⟩ := h
  exact ⟨l, q, Observed.start.watch hrun, hP⟩

end

end NomadCsi.Lib
