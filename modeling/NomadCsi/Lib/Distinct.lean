import Mathlib.Data.Finset.Card

/-!
# Counting distinct keys

A loop over a list that keeps a set of the keys seen so far counts the distinct keys of the
list (`length_eq_dedup`). Two such loops that key the same elements differently agree in
number just if the coarser key separates what the finer one does (`dedup_length_eq_iff`).
-/

namespace NomadCsi.Lib

variable {α β γ : Type} [DecidableEq β] [DecidableEq γ]

theorem foldl_insert_nodup (key : α → β) (l : List α) {seen : List β} (hseen : seen.Nodup) :
    (l.foldl (fun (seen : List β) a => seen.insert (key a)) seen).Nodup ∧
      ∀ x, x ∈ l.foldl (fun (seen : List β) a => seen.insert (key a)) seen ↔
        x ∈ seen ∨ x ∈ l.map key := by
  induction l generalizing seen with
  | nil => exact ⟨hseen, by simp⟩
  | cons a rest ih =>
    obtain ⟨hnodup, hmem⟩ := ih (hseen.insert (a := key a))
    refine ⟨hnodup, fun x => ?_⟩
    rw [List.foldl_cons, hmem, List.mem_insert_iff, List.map_cons, List.mem_cons, or_assoc,
      or_left_comm]

/-- The members of `m`, each once: as many as `m` has distinct ones. -/
theorem length_eq_dedup [DecidableEq α] {l m : List α} (hnodup : l.Nodup) (hmem : ∀ x, x ∈ l ↔ x ∈ m) :
    l.length = m.dedup.length := by
  have hperm : l.Perm m.dedup := by
    rw [List.perm_ext_iff_of_nodup hnodup m.nodup_dedup]
    intro x
    rw [hmem, List.mem_dedup]
  exact hperm.length_eq

theorem dedup_length_map_iff [DecidableEq α] (f : α → β) (l : List α) :
    (l.map f).dedup.length = l.dedup.length ↔
      ∀ a ∈ l, ∀ b ∈ l, f a = f b → a = b := by
  have himage : (l.map f).toFinset = l.toFinset.image f := by
    ext x
    simp
  rw [← List.card_toFinset, ← List.card_toFinset, himage, Finset.card_image_iff]
  simp [Set.InjOn]

/-- Keys of which the first determines the second are equally many just if the second determines
the first. -/
theorem dedup_length_eq_iff {key : α → β} {key' : α → γ} {l : List α}
    (hfiner : ∀ a ∈ l, ∀ b ∈ l, key a = key b → key' a = key' b) :
    (l.map key).dedup.length = (l.map key').dedup.length ↔
      ∀ a ∈ l, ∀ b ∈ l, key' a = key' b → key a = key b := by
  -- both are projections of the pairs, the first one to one
  let pairs := l.map fun a => (key a, key' a)
  have hmem : ∀ {p}, p ∈ pairs ↔ ∃ a ∈ l, (key a, key' a) = p := List.mem_map
  have hfst : (pairs.map (·.1)).dedup.length = pairs.dedup.length := by
    refine (dedup_length_map_iff _ _).2 fun p hp q hq heq => ?_
    obtain ⟨a, ha, rfl⟩ := hmem.1 hp
    obtain ⟨b, hb, rfl⟩ := hmem.1 hq
    exact Prod.ext heq (hfiner a ha b hb heq)
  have hkey : pairs.map (·.1) = l.map key := by simp [pairs]
  have hkey' : pairs.map (·.2) = l.map key' := by simp [pairs]
  rw [hkey] at hfst
  rw [hfst, ← hkey', eq_comm, dedup_length_map_iff]
  constructor
  · intro h a ha b hb heq
    exact congrArg Prod.fst (h _ (hmem.2 ⟨a, ha, rfl⟩) _ (hmem.2 ⟨b, hb, rfl⟩) heq)
  · intro h p hp q hq heq
    obtain ⟨a, ha, rfl⟩ := hmem.1 hp
    obtain ⟨b, hb, rfl⟩ := hmem.1 hq
    exact Prod.ext (h a ha b hb heq) heq

end NomadCsi.Lib
