import NomadCsi.Lib.Bytes

/-!
# The mount table

`mountutil.ListMounts` reads the mounts off the raw output of findmnt (`parseMounts`): one
mount a line, its target and its source with a blank between them, every other byte that
could be taken for a separator written as `\\xNN`. Paths are sequences of bytes here, since an
escape stands for any byte.
-/

namespace NomadCsi.Node

open Lib Lib.Go

structure RawMount where
  target : Bytes
  source : Bytes
deriving DecidableEq

/-! ### The parser -/

def hexDigit (b : UInt8) : Option UInt8 :=
  if 0x30 ≤ b ∧ b ≤ 0x39 then some (b - 0x30)
  else if 0x61 ≤ b ∧ b ≤ 0x66 then some (b - 0x61 + 10)
  else if 0x41 ≤ b ∧ b ≤ 0x46 then some (b - 0x41 + 10)
  else none

/-- `strconv.ParseUint` of two characters in base 16. -/
def hexByte (hi lo : UInt8) : Option UInt8 := do
  let h ← hexDigit hi
  let l ← hexDigit lo
  return 16 * h + l

/-- The loop of `unescapeRaw`: an escape takes four bytes, anything else one. -/
def unescapeLoop : Bytes → Bytes
  | [] => []
  | b :: x :: hi :: lo :: rest =>
    if b = 0x5c ∧ x = 0x78 then
      match hexByte hi lo with
      | some v => v :: unescapeLoop rest
      | none => b :: unescapeLoop (x :: hi :: lo :: rest)
    else b :: unescapeLoop (x :: hi :: lo :: rest)
  | b :: rest => b :: unescapeLoop rest

/-- Decode the escapes; a text without one is returned as it is. -/
def unescapeRaw (s : Bytes) : Bytes :=
  if s.tails.any ([0x5c, 0x78].isPrefixOf ·) then unescapeLoop s else s

/-- One line: blank lines give nothing, a line without a blank has no source. -/
def parseMount (line : Bytes) : Option RawMount :=
  let line := trimSpaceBytes line
  if line = [] then none
  else
    let target := line.takeWhile (· ≠ 0x20)
    if 0x20 ∈ line then
      some ⟨unescapeRaw target,
        unescapeRaw (trimSpaceBytes ((line.dropWhile (· ≠ 0x20)).drop 1))⟩
    else some ⟨unescapeRaw target, []⟩

def parseMounts (text : Bytes) : List RawMount := (text.splitOn 0x0a).filterMap parseMount

/-! ### What findmnt writes -/

def hexLower (n : UInt8) : UInt8 := if n < 10 then 0x30 + n else 0x61 + (n - 10)

/-- A blank, control, non-ASCII or backslash byte is escaped. -/
def escapeByte (b : UInt8) : Bytes :=
  if b ≤ 0x20 ∨ 0x7f ≤ b ∨ b = 0x5c then [0x5c, 0x78, hexLower (b / 16), hexLower (b % 16)] else [b]

def escape (s : Bytes) : Bytes := s.flatMap escapeByte

def renderMount (m : RawMount) : Bytes := escape m.target ++ 0x20 :: escape m.source

def renderMounts (ms : List RawMount) : Bytes := ms.flatMap fun m => renderMount m ++ [0x0a]

/-! ### Escapes -/

theorem unescapeLoop_of_ne {b : UInt8} (hb : b ≠ 0x5c) (s : Bytes) :
    unescapeLoop (b :: s) = b :: unescapeLoop s := by
  rcases s with _ | ⟨x, _ | ⟨hi, _ | ⟨lo, rest⟩⟩⟩
  · rfl
  · rfl
  · rfl
  · rw [unescapeLoop, if_neg fun h => hb h.1]

theorem hexByte_lower : ∀ b : UInt8, hexByte (hexLower (b / 16)) (hexLower (b % 16)) = some b :=
  forall_byte (by decide +kernel)

theorem unescapeLoop_escapeByte (b : UInt8) (s : Bytes) :
    unescapeLoop (escapeByte b ++ s) = b :: unescapeLoop s := by
  unfold escapeByte
  split
  · simp only [List.cons_append, List.nil_append]
    rw [unescapeLoop, if_pos ⟨rfl, rfl⟩, hexByte_lower]
  · next hplain =>
    simp only [not_or] at hplain
    exact unescapeLoop_of_ne hplain.2.2 s

theorem unescapeLoop_escape (s : Bytes) : unescapeLoop (escape s) = s := by
  induction s with
  | nil => rfl
  | cons b s ih =>
    have hcons : escape (b :: s) = escapeByte b ++ escape s := List.flatMap_cons
    rw [hcons, unescapeLoop_escapeByte, ih]

theorem unescapeLoop_of_none {s : Bytes} (h : s.tails.any ([0x5c, 0x78].isPrefixOf ·) = false) :
    unescapeLoop s = s := by
  induction s with
  | nil => rfl
  | cons b s ih =>
    have hany : ([0x5c, 0x78].isPrefixOf (b :: s) || s.tails.any ([0x5c, 0x78].isPrefixOf ·)) =
      false := h
    obtain ⟨hfirst, hrest⟩ := Bool.or_eq_false_iff.1 hany
    rcases s with _ | ⟨x, _ | ⟨hi, _ | ⟨lo, rest⟩⟩⟩
    · rfl
    · rfl
    · rfl
    · have hno : ¬ (b = 0x5c ∧ x = 0x78) := by
        rintro ⟨rfl, rfl⟩
        simp at hfirst
      rw [unescapeLoop, if_neg hno, ih hrest]

theorem unescapeRaw_eq (s : Bytes) : unescapeRaw s = unescapeLoop s := by
  unfold unescapeRaw
  split
  · rfl
  · next h => exact (unescapeLoop_of_none (Bool.not_eq_true _ ▸ h)).symm

/-! ### Lines -/

theorem graphic_escapeByte : ∀ b : UInt8, (escapeByte b).all graphic = true :=
  forall_byte (by decide +kernel)

theorem graphic_of_mem_escape {s : Bytes} {c : UInt8} (h : c ∈ escape s) : graphic c = true := by
  obtain ⟨b, -, hc⟩ := List.mem_flatMap.1 h
  exact List.all_eq_true.1 (graphic_escapeByte b) c hc

theorem escape_ne_nil {s : Bytes} (h : s ≠ []) : escape s ≠ [] := by
  cases s with
  | nil => exact absurd rfl h
  | cons b s =>
    have hcons : escape (b :: s) = escapeByte b ++ escape s := List.flatMap_cons
    rw [hcons]
    unfold escapeByte
    split
    · simp
    · simp

theorem notMem_escape {c : UInt8} (hc : graphic c = false) (s : Bytes) : c ∉ escape s := by
  intro h
  rw [graphic_of_mem_escape h] at hc
  cases hc

theorem parseMount_render {m : RawMount} (h : m.target ≠ []) :
    parseMount (renderMount m) = some m := by
  have hne := escape_ne_nil h
  have hblank : ∀ s, (0x20 : UInt8) ∉ escape s := notMem_escape (by decide)
  have hhead : ∀ s, ∀ b ∈ (escape s).head?, graphic b = true :=
    fun s b hb => graphic_of_mem_escape (List.mem_of_head? hb)
  have hlast : ∀ s, ∀ b ∈ (escape s).getLast?, graphic b = true :=
    fun s b hb => graphic_of_mem_escape (List.mem_of_getLast? hb)
  have hne' : ∀ b ∈ escape m.target, decide (b ≠ 0x20) = true := by
    intro b hb
    have : b ≠ 0x20 := by
      rintro rfl
      exact hblank _ hb
    simpa using this
  unfold parseMount renderMount
  by_cases hsource : escape m.source = []
  · -- the blank at the end of the line is trimmed away
    have hempty : m.source = [] := by
      by_contra hs
      exact escape_ne_nil hs hsource
    rw [hsource, trimSpaceBytes_blank hne (hhead _) (hlast _)]
    simp only [if_neg hne, if_neg (hblank m.target), List.takeWhile_eq_self_iff.2 hne',
      unescapeRaw_eq, unescapeLoop_escape]
    rw [← hempty]
  · have hline : trimSpaceBytes (escape m.target ++ 0x20 :: escape m.source) =
        escape m.target ++ 0x20 :: escape m.source := by
      apply trimSpaceBytes_of_graphic
      · intro b hb
        rw [List.head?_append_of_ne_nil _ hne] at hb
        exact hhead _ b hb
      · intro b hb
        rw [List.getLast?_append_cons, List.getLast?_cons_of_ne_nil hsource] at hb
        exact hlast _ b hb
    have htake : (escape m.target ++ 0x20 :: escape m.source).takeWhile (· ≠ 0x20) =
        escape m.target := by
      rw [List.takeWhile_append_of_pos hne']
      simp
    have hdrop : ((escape m.target ++ 0x20 :: escape m.source).dropWhile (· ≠ 0x20)).drop 1 =
        escape m.source := by
      rw [List.dropWhile_append_of_pos hne']
      simp
    simp only [hline, htake, hdrop, trimSpaceBytes_of_graphic (hhead _) (hlast _), unescapeRaw_eq,
      unescapeLoop_escape]
    simp

/-- Any table of mounts reads back from what findmnt writes for it. -/
theorem parseMounts_render {ms : List RawMount} (h : ∀ m ∈ ms, m.target ≠ []) :
    parseMounts (renderMounts ms) = ms := by
  unfold parseMounts
  induction ms with
  | nil => rfl
  | cons m ms ih =>
    have hcons : renderMounts (m :: ms) = renderMount m ++ 0x0a :: renderMounts ms := by
      simp [renderMounts]
    have hline : (0x0a : UInt8) ∉ renderMount m := by
      unfold renderMount
      simp [notMem_escape (c := 0x0a) (by decide)]
    rw [hcons, List.splitOn_append_cons_self, List.splitOn_eq_singleton hline,
      List.filterMap_append, ih fun m hm => h m (.tail _ hm)]
    simp [parseMount_render (h m (.head _))]

/-- A target that reads like an escape, a source that ends in a backslash, and a mount without a
source. -/
def oddMounts : List RawMount :=
  [⟨[0x5c, 0x78, 0x32, 0x30], [0xff, 0x20, 0x5c]⟩, ⟨[0x2f, 0x0a], []⟩]

theorem parseMounts_render_odd : (∀ m ∈ oddMounts, m.target ≠ []) ∧
    parseMounts (renderMounts oddMounts) = oddMounts :=
  ⟨by decide, parseMounts_render (by decide)⟩

end NomadCsi.Node
