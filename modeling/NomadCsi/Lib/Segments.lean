import Mathlib.Data.List.Chain
import NomadCsi.Lib.Go

/-!
# Names in segments

A name is a list of segments with a slash between them. A two-character pattern that a name must
not hold is a condition on neighbouring characters (`contains_pair`), so it is checked segment by
segment.
-/

namespace NomadCsi.Lib.Go

/-! ### Splitting and joining -/

theorem toList_slash (a b : String) : (a ++ "/" ++ b).toList = a.toList ++ '/' :: b.toList := by
  rw [String.toList_append, String.toList_append, show "/".toList = ['/'] by decide,
    List.append_assoc]
  rfl

theorem split_slash (a b : String) : split (a ++ "/" ++ b) '/' = split a '/' ++ split b '/' := by
  unfold split
  rw [toList_slash, List.splitOn_append_cons_self, List.map_append]

theorem split_of_notMem {a : String} (h : '/' ∉ a.toList) : split a '/' = [a] := by
  unfold split
  rw [List.splitOn_eq_singleton h, List.map_singleton, String.ofList_toList]

theorem split_ne_nil (s : String) (sep : Char) : split s sep ≠ [] := by
  intro h
  exact List.splitOn_ne_nil sep s.toList (List.map_eq_nil_iff.1 h)

theorem join_split (s : String) : join (split s '/') "/" = s := by
  apply String.toList_injective
  unfold join split
  rw [String.toList_intercalate, List.map_map]
  have hid : String.toList ∘ String.ofList = id := funext fun l => String.toList_ofList
  rw [hid, List.map_id, show "/".toList = ['/'] by decide, List.intercalate_splitOn]

variable {s : String}

theorem notMem_of_mem_split {x : String} {sep : Char} (h : x ∈ split s sep) : sep ∉ x.toList := by
  obtain ⟨l, hl, rfl⟩ := List.mem_map.1 h
  rw [String.toList_ofList]
  suffices hall : ∀ cs : List Char, ∀ l ∈ cs.splitOn sep, sep ∉ l from hall s.toList l hl
  intro cs
  induction cs with
  | nil => simp
  | cons c cs ih =>
    intro l hl
    rw [List.splitOn_cons_eq_if_modifyHead] at hl
    split at hl
    · rcases List.mem_cons.1 hl with rfl | hl
      · simp
      · exact ih l hl
    · next hne =>
      have hc : sep ≠ c := fun e => hne (by rw [e, beq_self_eq_true])
      cases hs : cs.splitOn sep with
      | nil => exact absurd hs (List.splitOn_ne_nil _ _)
      | cons m ms =>
        rw [hs, List.modifyHead_cons] at hl
        rcases List.mem_cons.1 hl with rfl | hl
        · have hm := ih m (by rw [hs]; exact .head _)
          simp [hc, hm]
        · exact ih l (by rw [hs]; exact .tail _ hl)

/-- The last segment of a name, and what stands before it, are determined. -/
theorem slash_inj_right {a a' b b' : String} (hb : '/' ∉ b.toList) (hb' : '/' ∉ b'.toList)
    (h : a ++ "/" ++ b = a' ++ "/" ++ b') : a = a' ∧ b = b' := by
  have hl := congrArg (fun s : String => s.toList.reverse) h
  simp only [toList_slash, List.reverse_append, List.reverse_cons, List.append_assoc,
    List.singleton_append] at hl
  obtain ⟨h1, h2⟩ := cut_inj (by simpa using hb) (by simpa using hb') hl
  exact ⟨String.toList_injective (List.reverse_inj.1 h2),
    String.toList_injective (List.reverse_inj.1 h1)⟩

theorem cut_eq {a b : String} {sep : Char} (hs : s.toList = a.toList ++ sep :: b.toList)
    (ha : sep ∉ a.toList) : cut s sep = some (a, b) := by
  have hall : ∀ x ∈ a.toList, decide (x ≠ sep) = true := by
    intro x hx
    exact decide_eq_true fun h => ha (h ▸ hx)
  have hmem : sep ∈ a.toList ++ sep :: b.toList := by simp
  unfold cut
  rw [hs, if_pos hmem, List.takeWhile_append_of_pos hall, List.dropWhile_append_of_pos hall]
  simp [String.ofList_toList]

/-! ### Patterns -/

theorem hasPrefix_iff {pre : String} : hasPrefix s pre = true ↔ pre.toList <+: s.toList :=
  List.isPrefixOf_iff_prefix

theorem hasSuffix_iff {suf : String} : hasSuffix s suf = true ↔ suf.toList <:+ s.toList :=
  List.isSuffixOf_iff_suffix

theorem contains_pair {c d : Char} : contains s (String.ofList [c, d]) = false ↔
    s.toList.IsChain fun x y => ¬ (x = c ∧ y = d) := by
  unfold contains
  rw [String.toList_ofList]
  induction s.toList with
  | nil => simp
  | cons x l ih =>
    cases l with
    | nil => simp [List.isPrefixOf]
    | cons y l =>
      rw [List.isChain_cons_cons, ← ih]
      change ((List.isPrefixOf [c, d] (x :: y :: l)) ||
        ((y :: l).tails.any fun t => [c, d].isPrefixOf t)) = false ↔ _
      rw [Bool.or_eq_false_iff]
      have hhead : List.isPrefixOf [c, d] (x :: y :: l) = false ↔ ¬ (x = c ∧ y = d) := by
        simp only [List.isPrefixOf, Bool.and_true, Bool.and_eq_false_imp, beq_iff_eq]
        constructor
        · rintro h ⟨rfl, rfl⟩
          simpa using h rfl
        · intro h hc
          exact beq_eq_false_iff_ne.2 fun hd => h ⟨hc.symm, hd.symm⟩
      rw [hhead]

end NomadCsi.Lib.Go
