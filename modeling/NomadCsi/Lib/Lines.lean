import Mathlib.Data.List.Infix
import NomadCsi.Lib.Trim

/-!
# Lines and their fields

A text is read line by line, and a line field by field (`strings.Fields`). The rows of a printed
table are read back line by line (`rows_unlines`).
-/

namespace NomadCsi.Lib.Go

/-! ### Texts without blanks -/

/-- No character is a blank. -/
def Solid (l : List Char) : Prop := ∀ c ∈ l, isSpace c = false

variable {l : List Char}

theorem solid_of_all (h : (l.all fun c => !isSpace c) = true) : Solid l := by
  intro c hc
  simpa using List.all_eq_true.1 h c hc

theorem trimmed_of_all (hhead : (l.head?.all fun c => !isSpace c) = true)
    (hlast : (l.getLast?.all fun c => !isSpace c) = true) : Trimmed isSpace l := by
  rw [Option.all_eq_true] at hhead hlast
  exact ⟨fun c hc => by simpa using hhead c hc, fun c hc => by simpa using hlast c hc⟩

theorem Solid.oneLine (h : Solid l) : '\n' ∉ l := by
  intro hin
  have hblank := h '\n' hin
  revert hblank
  decide

theorem isSpace_of_range {c : Char} (hlo : 33 ≤ c.toNat) (hhi : c.toNat ≤ 126) :
    isSpace c = false := by
  unfold isSpace
  simp only [List.mem_cons, List.not_mem_nil, or_false, Bool.or_eq_false_iff,
    decide_eq_false_iff_not, Bool.and_eq_false_iff]
  omega

theorem solid_itoa (n : Int) : Solid (itoa n).toList := by
  intro c hc
  rcases mem_itoa hc with rfl | hd
  · decide
  · simp only [Char.isDigit, Bool.and_eq_true, decide_eq_true_eq] at hd
    have hlo : 48 ≤ c.toNat := hd.1
    have hhi : c.toNat ≤ 57 := hd.2
    exact isSpace_of_range (by omega) (by omega)

theorem Solid.trimmed_between {a b : List Char} (ha : Solid a) (hb : Solid b) (hane : a ≠ [])
    (hbne : b ≠ []) (mid : List Char) : Trimmed isSpace (a ++ (mid ++ b)) := by
  constructor
  · intro c hc
    rw [List.head?_append_of_ne_nil _ hane] at hc
    exact ha c (List.mem_of_head? hc)
  · intro c hc
    rw [← List.append_assoc, List.getLast?_append_of_ne_nil _ hbne] at hc
    exact hb c (List.mem_of_getLast? hc)

/-! ### Fields -/

/-- `strings.Fields` of a text, as characters. -/
def fieldList (l : List Char) : List (List Char) := (l.splitOnP isSpace).filter (!·.isEmpty)

def fields (s : String) : List String := (fieldList s.toList).map String.ofList

theorem fieldList_append {b : Char} (hb : isSpace b = true) (l r : List Char) :
    fieldList (l ++ b :: r) = fieldList l ++ fieldList r := by
  unfold fieldList
  rw [List.splitOnP_append_cons l r hb, List.filter_append]

variable {w : List Char}

theorem fieldList_word (hne : w ≠ []) (hw : Solid w) : fieldList w = [w] := by
  unfold fieldList
  rw [List.splitOnP_eq_singleton hw]
  simpa using hne

theorem fieldList_cons (hne : w ≠ []) (hw : Solid w) {b : Char} (hb : isSpace b = true)
    (r : List Char) : fieldList (w ++ b :: r) = w :: fieldList r := by
  rw [fieldList_append hb, fieldList_word hne hw]
  rfl

theorem fieldList_blank {b : Char} (hb : isSpace b = true) (r : List Char) :
    fieldList (b :: r) = fieldList r :=
  fieldList_append hb [] r

theorem fieldList_blanks {bs : List Char} (hbs : ∀ b ∈ bs, isSpace b = true) :
    fieldList bs = [] := by
  induction bs with
  | nil => rfl
  | cons b bs ih =>
    rw [fieldList_blank (hbs b (.head _))]
    exact ih fun c hc => hbs c (.tail _ hc)

theorem fieldList_rdropWhile (l : List Char) : fieldList (l.rdropWhile isSpace) = fieldList l := by
  have hall : ∀ b ∈ l.rtakeWhile isSpace, isSpace b = true := fun b hb =>
    List.mem_rtakeWhile_imp hb
  have hsplit : l = l.rdropWhile isSpace ++ l.rtakeWhile isSpace :=
    List.rdropWhile_append_rtakeWhile.symm
  generalize l.rtakeWhile isSpace = bs at hall hsplit
  generalize l.rdropWhile isSpace = front at hsplit
  subst hsplit
  cases bs with
  | nil => rw [List.append_nil]
  | cons b bs =>
    rw [fieldList_append (hall b (.head _)),
      fieldList_blanks fun c hc => hall c (.tail _ hc), List.append_nil]

theorem fieldList_indented {pre : List Char} (hpre : ∀ c ∈ pre, isSpace c = true) (l : List Char) :
    fieldList (pre ++ l) = fieldList l := by
  induction pre with
  | nil => rfl
  | cons b pre ih =>
    rw [List.cons_append, fieldList_blank (hpre b (.head _))]
    exact ih fun c hc => hpre c (.tail _ hc)

theorem fieldList_dropWhile (l : List Char) : fieldList (l.dropWhile isSpace) = fieldList l := by
  rw [← fieldList_indented (fun c hc => List.mem_takeWhile_imp hc) (l.dropWhile isSpace),
    List.takeWhile_append_dropWhile]

theorem fields_trimSpace (s : String) : fields (trimSpace s) = fields s := by
  unfold fields
  rw [toList_trimSpace, trim, fieldList_rdropWhile, fieldList_dropWhile]

theorem fields_solid {s : String} (hne : s ≠ "") (hs : Solid s.toList) : fields s = [s] := by
  unfold fields
  rw [fieldList_word (fun h => hne (String.toList_eq_nil_iff.1 h)) hs]
  simp

theorem itoa_ne_empty (n : Int) : itoa n ≠ "" := by
  intro h
  cases (congrArg decimal h).symm.trans (decimal_itoa n)

/-- A number behind a tab is a field of its own. -/
theorem fields_tab_itoa (s : String) (n : Int) : fields (s ++ "\t" ++ itoa n) = fields s ++ [itoa n] := by
  rw [← fields_solid (itoa_ne_empty n) (solid_itoa n)]
  unfold fields
  rw [String.toList_append, String.toList_append, List.append_assoc, show "\t".toList = ['\t'] by decide,
    List.singleton_append, fieldList_append (by decide), List.map_append]

/-! ### A line behind its indentation -/

/-- What is left of an indented line: its beginning, if that begins and ends in no blank, and the
rest without the blanks at the end. -/
theorem trim_indented {pre : List Char} (hpre : ∀ c ∈ pre, isSpace c = true) (hne : w ≠ [])
    (hw : Trimmed isSpace w) (rest : List Char) :
    trim isSpace (pre ++ (w ++ rest)) = w ++ rest.rdropWhile isSpace := by
  have hfront : (pre ++ (w ++ rest)).dropWhile isSpace = w ++ rest := by
    rw [List.dropWhile_append_of_pos hpre]
    apply dropWhile_eq_self
    intro c hc
    rw [List.head?_append_of_ne_nil _ hne] at hc
    exact hw.head c hc
  unfold trim
  rw [hfront, List.rdropWhile, List.reverse_append, List.dropWhile_append]
  cases hrest : (rest.reverse.dropWhile isSpace).isEmpty with
  | false =>
    rw [if_neg (by simp)]
    simp [List.rdropWhile]
  | true =>
    rw [if_pos rfl, dropWhile_eq_self, List.reverse_reverse, List.rdropWhile,
      List.isEmpty_iff.1 hrest]
    · simp
    · rw [List.head?_reverse]
      exact hw.last

def trimPrefix (s pre : String) : String :=
  if hasPrefix s pre then String.ofList (s.toList.drop pre.toList.length) else s

/-! ### Prefixes and parts -/

theorem hasPrefix_of_toList {s pre : String} {rest : List Char}
    (h : s.toList = pre.toList ++ rest) : hasPrefix s pre = true := by
  unfold hasPrefix
  rw [h]
  exact List.isPrefixOf_iff_prefix.2 (List.prefix_append _ _)

theorem toList_trimPrefix {s pre : String} {rest : List Char} (h : s.toList = pre.toList ++ rest) :
    (trimPrefix s pre).toList = rest := by
  unfold trimPrefix
  rw [if_pos (hasPrefix_of_toList h), String.toList_ofList, h, List.drop_left]

theorem contains_of_toList {s sub : String} {a b : List Char}
    (h : s.toList = a ++ (sub.toList ++ b)) : contains s sub = true := by
  unfold contains
  rw [List.any_eq_true]
  refine ⟨sub.toList ++ b, ?_, List.isPrefixOf_iff_prefix.2 (List.prefix_append _ _)⟩
  rw [List.mem_tails, h]
  exact List.suffix_append _ _

/-! ### Lines -/

/-- Each line with its line end. -/
def unlines (ls : List String) : String := String.ofList (ls.flatMap fun l => l.toList ++ ['\n'])

theorem toList_unlines (ls : List String) :
    (unlines ls).toList = ls.flatMap fun l => l.toList ++ ['\n'] := String.toList_ofList

theorem splitOn_unlines {ls : List String} (h : ∀ l ∈ ls, '\n' ∉ l.toList) (r : List Char) :
    ((unlines ls).toList ++ r).splitOn '\n' = ls.map String.toList ++ r.splitOn '\n' := by
  rw [toList_unlines]
  induction ls with
  | nil => rfl
  | cons l ls ih =>
    rw [List.flatMap_cons, List.append_assoc, List.append_assoc, List.singleton_append,
      List.splitOn_append_cons_self, List.splitOn_eq_singleton (h l (.head _)),
      ih fun l hl => h l (.tail _ hl)]
    rfl

theorem split_unlines {ls : List String} (h : ∀ l ∈ ls, '\n' ∉ l.toList) :
    split (unlines ls) '\n' = ls ++ [""] := by
  have hsplit := splitOn_unlines h []
  rw [List.append_nil] at hsplit
  unfold split
  rw [hsplit]
  simp

/-! ### Rows -/

/-- What the lines of an output give, by their fields. -/
def rows {β : Type} (row : List String → Option β) (out : String) : List β :=
  (split (trimSpace out) '\n').filterMap fun line => row (fields line)

/-- A line that ends in no blank. -/
def Line (l : String) : Prop := '\n' ∉ l.toList ∧ ∃ c ∈ l.toList.getLast?, isSpace c = false

theorem line_itoa {s : String} (hs : '\n' ∉ s.toList) (n : Int) : Line (s ++ "\t" ++ itoa n) := by
  have hne : (itoa n).toList ≠ [] := fun h => itoa_ne_empty n (String.toList_eq_nil_iff.1 h)
  refine ⟨by simp [hs, (solid_itoa n).oneLine], (itoa n).toList.getLast hne, ?_,
    solid_itoa n _ (List.getLast_mem hne)⟩
  rw [String.toList_append, List.getLast?_append_of_ne_nil _ hne]
  exact List.getLast?_eq_some_getLast hne

theorem splitOn_rdropWhile_unlines {ls : List String} (hne : ls ≠ []) (h : ∀ l ∈ ls, Line l) :
    ((unlines ls).toList.rdropWhile isSpace).splitOn '\n' = ls.map String.toList := by
  obtain ⟨init, z, rfl⟩ := (List.eq_nil_or_concat ls).resolve_left hne
  rw [List.concat_eq_append] at h ⊢
  obtain ⟨hz, c, hc, hblank⟩ := h z (by simp)
  have hcut : (unlines (init ++ [z])).toList.rdropWhile isSpace =
      (unlines init).toList ++ z.toList := by
    obtain ⟨front, hfront⟩ := List.getLast?_eq_some_iff.1 hc
    rw [toList_unlines, toList_unlines, List.flatMap_append, List.flatMap_singleton, hfront,
      ← List.append_assoc, List.rdropWhile_concat_pos _ _ _ (by decide), ← List.append_assoc,
      List.rdropWhile_concat_neg _ _ _ (by simp [hblank])]
  rw [hcut, splitOn_unlines (fun l hl => (h l (List.mem_append_left _ hl)).1),
    List.splitOn_eq_singleton hz, List.map_append]
  rfl

theorem split_trim_unlines {l : String} {ls : List String} (h : ∀ x ∈ l :: ls, Line x) :
    split (trimSpace (unlines (l :: ls))) '\n' =
      String.ofList (l.toList.dropWhile isSpace) :: ls := by
  obtain ⟨hl, c, hc, hblank⟩ := h l (.head _)
  obtain ⟨front, hfront⟩ := List.getLast?_eq_some_iff.1 hc
  have hw : l.toList.dropWhile isSpace = front.dropWhile isSpace ++ [c] := by
    rw [hfront, List.dropWhile_append]
    cases hd : front.dropWhile isSpace with
    | nil => simp [hblank]
    | cons => rfl
  have hdrop : (unlines (l :: ls)).toList.dropWhile isSpace =
      (unlines (String.ofList (l.toList.dropWhile isSpace) :: ls)).toList := by
    rw [toList_unlines, toList_unlines, List.flatMap_cons, List.flatMap_cons, String.toList_ofList,
      List.append_assoc, List.dropWhile_append, hw]
    simp
  have hline : Line (String.ofList (l.toList.dropWhile isSpace)) := by
    refine ⟨?_, c, ?_, hblank⟩
    · rw [String.toList_ofList]
      exact fun hmem => hl ((List.dropWhile_sublist _).mem hmem)
    · simp [hw]
  unfold split
  rw [toList_trimSpace, trim, hdrop, splitOn_rdropWhile_unlines (by simp)
    (List.forall_mem_cons.2 ⟨hline, (List.forall_mem_cons.1 h).2⟩)]
  simp

theorem rows_unlines {β : Type} {row : List String → Option β} (hrow : row [] = none)
    {ls : List String} (h : ∀ l ∈ ls, Line l) :
    rows row (unlines ls) = ls.filterMap fun l => row (fields l) := by
  unfold rows
  cases ls with
  | nil =>
    have hempty : split (trimSpace (unlines [])) '\n' = [""] := by decide
    rw [hempty]
    simp [fields, fieldList, hrow]
  | cons l ls =>
    have hfields : fields (String.ofList (l.toList.dropWhile isSpace)) = fields l := by
      unfold fields
      rw [String.toList_ofList, fieldList_dropWhile]
    rw [split_trim_unlines h, List.filterMap_cons, List.filterMap_cons, hfields]

end NomadCsi.Lib.Go
