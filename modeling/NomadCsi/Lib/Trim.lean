import Mathlib.Data.List.DropRight
import NomadCsi.Lib.Go

/-!
# Trimming

`strings.TrimSpace` as a fact about both ends of a text: what is trimmed has no blank at
either end, and what has none is left alone.
-/

namespace NomadCsi.Lib.Go

section

variable {α : Type} {p : α → Bool} {l : List α}

def trim (p : α → Bool) (l : List α) : List α := (l.dropWhile p).rdropWhile p

structure Trimmed (p : α → Bool) (l : List α) : Prop where
  head : ∀ c ∈ l.head?, p c = false
  last : ∀ c ∈ l.getLast?, p c = false

theorem dropWhile_eq_self {l : List α} (h : ∀ c ∈ l.head?, p c = false) : l.dropWhile p = l := by
  cases l with
  | nil => rfl
  | cons c cs =>
    have hc : p c = false := h c rfl
    rw [List.dropWhile_cons, hc]
    rfl

theorem Trimmed.trim_eq (h : Trimmed p l) : trim p l = l := by
  unfold trim
  rw [dropWhile_eq_self h.head, List.rdropWhile, dropWhile_eq_self, List.reverse_reverse]
  rw [List.head?_reverse]
  exact h.last

theorem trimmed_trim (p : α → Bool) (l : List α) : Trimmed p (trim p l) where
  head c hc := by
    -- a blank at the front of what is left would have been at the front before
    obtain ⟨rest, hrest⟩ := List.rdropWhile_prefix p (l := l.dropWhile p)
    have hfront : (l.dropWhile p).head? = some c := by
      have hleft : ((l.dropWhile p).rdropWhile p).head? = some c := hc
      rw [← hrest, List.head?_append, hleft]
      rfl
    have hnot := List.head?_dropWhile_not p l
    rw [hfront] at hnot
    simpa using hnot
  last c hc := by
    have hne : (l.dropWhile p).rdropWhile p ≠ [] := by
      intro hnil
      rw [trim, hnil] at hc
      cases hc
    have hnot := List.rdropWhile_last_not p _ hne
    have hlast : (trim p l).getLast? = some (((l.dropWhile p).rdropWhile p).getLast hne) :=
      List.getLast?_eq_some_getLast hne
    obtain rfl := Option.some.inj (hlast.symm.trans hc)
    simpa using hnot

theorem trim_eq_self_iff : trim p l = l ↔ Trimmed p l :=
  ⟨fun h => h ▸ trimmed_trim p l, Trimmed.trim_eq⟩

end

theorem trimSpace_eq (s : String) : trimSpace s = String.ofList (trim isSpace s.toList) := rfl

theorem toList_trimSpace (s : String) : (trimSpace s).toList = trim isSpace s.toList := by
  rw [trimSpace_eq, String.toList_ofList]

theorem trimSpace_eq_self_iff {s : String} : trimSpace s = s ↔ Trimmed isSpace s.toList := by
  rw [← trim_eq_self_iff, ← toList_trimSpace]
  exact String.toList_inj.symm

theorem trimSpace_trimSpace (s : String) : trimSpace (trimSpace s) = trimSpace s := by
  rw [trimSpace_eq_self_iff, toList_trimSpace]
  exact trimmed_trim _ _

end NomadCsi.Lib.Go
