import Mathlib.Data.Set.Function

/-!
# A store against its ledger

A ledger lists what was done, the latest first. A thing is live if some entry made it and no
later one undid it. `Reflects` says that the keys present in a store are those whose names are
live; the rules follow one entry.
-/

namespace NomadCsi.Lib

variable {δ α κ : Type}

/-- Made, and not undone since. -/
def Live (made gone : δ → α → Prop) (x : α) : List δ → Prop
  | [] => False
  | d :: past => made d x ∨ (¬ gone d x ∧ Live made gone x past)

theorem Live.exists_made {made gone : δ → α → Prop} {x : α} {past : List δ}
    (h : Live made gone x past) : ∃ d ∈ past, made d x := by
  induction past with
  | nil => exact h.elim
  | cons d past ih =>
    rcases h with hmade | ⟨-, hlive⟩
    · exact ⟨d, List.mem_cons_self, hmade⟩
    · obtain ⟨d', hd', hmade⟩ := ih hlive
      exact ⟨d', List.mem_cons_of_mem _ hd', hmade⟩

/-- The keys of the domain that are present are those with a live name. -/
def Reflects (made gone : δ → α → Prop) (name : κ → α) (D K : Set κ) (past : List δ) : Prop :=
  ∀ k ∈ D, k ∈ K ↔ Live made gone (name k) past

namespace Reflects

variable {made gone : δ → α → Prop} {name : κ → α} {D K : Set κ} {past : List δ} {d : δ} {k : κ}

theorem nil (h : ∀ k ∈ D, k ∉ K) : Reflects made gone name D K [] :=
  fun k hk => iff_of_false (h k hk) id

theorem keep (h : Reflects made gone name D K past) (hmade : ∀ x, ¬ made d x)
    (hgone : ∀ x, ¬ gone d x) : Reflects made gone name D K (d :: past) := by
  intro k hk
  change _ ↔ made d (name k) ∨ (¬ gone d (name k) ∧ _)
  rw [or_iff_right (hmade _), and_iff_right (hgone _)]
  exact h k hk

theorem add (h : Reflects made gone name D K past) (hinj : Set.InjOn name D) (hk : k ∈ D)
    (hmade : ∀ x, made d x ↔ x = name k) (hgone : ∀ x, ¬ gone d x) :
    Reflects made gone name D (insert k K) (d :: past) := by
  intro k' hk'
  change k' = k ∨ k' ∈ K ↔ made d (name k') ∨ (¬ gone d (name k') ∧ _)
  rw [hmade, hinj.eq_iff hk' hk, and_iff_right (hgone _)]
  exact or_congr Iff.rfl (h k' hk')

theorem drop (h : Reflects made gone name D K past) (hmade : ∀ x, ¬ made d x)
    (hgone : ∀ k' ∈ D, gone d (name k') ↔ k' = k) :
    Reflects made gone name D (K \ {k}) (d :: past) := by
  intro k' hk'
  change k' ∈ K ∧ k' ≠ k ↔ made d (name k') ∨ (¬ gone d (name k') ∧ _)
  rw [or_iff_right (hmade _), hgone k' hk', and_comm]
  exact and_congr Iff.rfl (h k' hk')

end Reflects

end NomadCsi.Lib
