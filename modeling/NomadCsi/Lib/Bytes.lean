import NomadCsi.Lib.Go

/-!
# Texts as bytes

A Go string is a sequence of bytes. Where a program makes strings of arbitrary bytes, a text
is a `Bytes`; `trimSpaceBytes` is `strings.TrimSpace` on it, which knows the white space
characters by their encodings.
-/

namespace NomadCsi.Lib.Go

abbrev Bytes := List UInt8

/-- The encodings of the white space characters. -/
def spaces : List Bytes :=
  [[0x09], [0x0a], [0x0b], [0x0c], [0x0d], [0x20], [0xc2, 0x85], [0xc2, 0xa0], [0xe1, 0x9a, 0x80],
    [0xe2, 0x80, 0x80], [0xe2, 0x80, 0x81], [0xe2, 0x80, 0x82], [0xe2, 0x80, 0x83],
    [0xe2, 0x80, 0x84], [0xe2, 0x80, 0x85], [0xe2, 0x80, 0x86], [0xe2, 0x80, 0x87],
    [0xe2, 0x80, 0x88], [0xe2, 0x80, 0x89], [0xe2, 0x80, 0x8a], [0xe2, 0x80, 0xa8],
    [0xe2, 0x80, 0xa9], [0xe2, 0x80, 0xaf], [0xe2, 0x81, 0x9f], [0xe3, 0x80, 0x80]]

/-- Drop, at most `n` times, one of the texts in `es` from the front. -/
def strip (es : List Bytes) : Nat → Bytes → Bytes
  | 0, s => s
  | n + 1, s =>
    match es.find? (·.isPrefixOf s) with
    | none => s
    | some e => strip es n (s.drop e.length)

def trimSpaceBytes (s : Bytes) : Bytes :=
  let front := strip spaces s.length s
  (strip (spaces.map List.reverse) front.length front.reverse).reverse

/-- A printing ASCII character other than the blank. -/
def graphic (b : UInt8) : Bool := 0x21 ≤ b && b ≤ 0x7e

theorem forall_byte {P : UInt8 → Prop} (h : ∀ n < 256, P (UInt8.ofNat n)) (b : UInt8) : P b := by
  have hb := h b.toNat b.toNat_lt
  rwa [UInt8.ofNat_toNat] at hb

/-- None of the texts in `es` has a graphic character. -/
theorem strip_of_graphic {es : List Bytes} (hes : ∀ e ∈ es, e ≠ [] ∧ ∀ b ∈ e, graphic b = false)
    {b : UInt8} (hb : graphic b = true) (n : Nat) (s : Bytes) :
    strip es n (b :: s) = b :: s := by
  cases n with
  | zero => rfl
  | succ n =>
    have hnone : es.find? (·.isPrefixOf (b :: s)) = none := by
      rw [List.find?_eq_none]
      intro e he hpre
      obtain ⟨hne, hall⟩ := hes e he
      cases e with
      | nil => exact hne rfl
      | cons c cs =>
        obtain ⟨rfl, -⟩ := List.cons_prefix_cons.1 (List.isPrefixOf_iff_prefix.1 hpre)
        rw [hall c (.head _)] at hb
        cases hb
    rw [strip, hnone]

theorem spaces_plain {e : Bytes} (he : e ∈ spaces) : e ≠ [] ∧ ∀ b ∈ e, graphic b = false := by
  have hall : spaces.all (fun e => !e.isEmpty && e.all fun b => !graphic b) = true := by decide
  have hplain := List.all_eq_true.1 hall e he
  simp only [Bool.and_eq_true, Bool.not_eq_true', List.isEmpty_eq_false_iff, List.all_eq_true]
    at hplain
  exact hplain

theorem reversed_spaces_plain {e : Bytes} (he : e ∈ spaces.map List.reverse) :
    e ≠ [] ∧ ∀ b ∈ e, graphic b = false := by
  obtain ⟨e', he', rfl⟩ := List.mem_map.1 he
  obtain ⟨hne, hall⟩ := spaces_plain he'
  exact ⟨by simpa using hne, fun b hb => hall b (List.mem_reverse.1 hb)⟩

theorem strip_blank (n : Nat) (s : Bytes) :
    strip (spaces.map List.reverse) (n + 1) (0x20 :: s) = strip (spaces.map List.reverse) n s := by
  have hblank : (spaces.map List.reverse).find? (·.isPrefixOf (0x20 :: s)) = some [0x20] := rfl
  rw [strip, hblank]
  rfl

theorem trimSpaceBytes_of_head {b : UInt8} (hb : graphic b = true) (s : Bytes) :
    trimSpaceBytes (b :: s) =
      (strip (spaces.map List.reverse) (b :: s).length (b :: s).reverse).reverse := by
  simp only [trimSpaceBytes, strip_of_graphic (fun _ => spaces_plain) hb]

theorem strip_of_last {s : Bytes} (hlast : ∀ b ∈ s.getLast?, graphic b = true) (n : Nat) :
    strip (spaces.map List.reverse) (n + 1) s.reverse = s.reverse := by
  rw [← List.head?_reverse] at hlast
  cases hr : s.reverse with
  | nil => rfl
  | cons c cs =>
    rw [hr] at hlast
    exact strip_of_graphic (fun _ => reversed_spaces_plain) (hlast c rfl) _ cs

theorem trimSpaceBytes_of_graphic {s : Bytes} (hhead : ∀ b ∈ s.head?, graphic b = true)
    (hlast : ∀ b ∈ s.getLast?, graphic b = true) : trimSpaceBytes s = s := by
  cases s with
  | nil => rfl
  | cons b rest =>
    rw [trimSpaceBytes_of_head (hhead b rfl), List.length_cons, strip_of_last hlast,
      List.reverse_reverse]

theorem trimSpaceBytes_blank {s : Bytes} (hne : s ≠ []) (hhead : ∀ b ∈ s.head?, graphic b = true)
    (hlast : ∀ b ∈ s.getLast?, graphic b = true) : trimSpaceBytes (s ++ [0x20]) = s := by
  cases s with
  | nil => exact absurd rfl hne
  | cons b rest =>
    have hrev : (b :: (rest ++ [0x20])).reverse = 0x20 :: (b :: rest).reverse := by simp
    have hlen : (b :: (rest ++ [0x20])).length = rest.length + 1 + 1 := by simp
    rw [List.cons_append, trimSpaceBytes_of_head (hhead b rfl), hrev, hlen, strip_blank,
      strip_of_last hlast, List.reverse_reverse]

end NomadCsi.Lib.Go
