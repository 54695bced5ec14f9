import Mathlib.Data.List.Induction
import NomadCsi.Lib.Go

/-!
# The spellings of a number

`strconv.Atoi` reads a number with a plus sign, with leading zeros and minus zero; `%d`
writes none of these. A text that reads as a number is the one that is written for it
exactly if it is `Canonical` (`itoa_of_decimal_iff`).
-/

namespace NomadCsi.Lib.Go

/-- Digits without a leading zero, but for zero itself. -/
def PlainDigits (cs : List Char) : Prop := cs = ['0'] ∨ cs.head? ≠ some '0'

/-- No plus sign, no leading zero, no minus zero. -/
def Canonical (s : String) : Prop :=
  match s.toList with
  | '-' :: cs => cs.head? ≠ some '0'
  | '+' :: _ => False
  | cs => PlainDigits cs

theorem toDigits_digit {c : Char} (h : c.isDigit = true) :
    Nat.toDigits 10 (c.toNat - '0'.toNat) = [c] := by
  simp only [Char.isDigit, Bool.and_eq_true, decide_eq_true_eq] at h
  have hlo : 48 ≤ c.toNat := h.1
  have hhi : c.toNat ≤ 57 := h.2
  have hzero : '0'.toNat = 48 := rfl
  have hlt : c.toNat - '0'.toNat < 10 := by omega
  rw [Nat.toDigits_of_lt_base hlt]
  have hc : c = Char.ofNat c.toNat := (Char.ofNat_toNat c).symm
  obtain ⟨d, hd, hcd⟩ : ∃ d, d < 10 ∧ c.toNat = 48 + d := ⟨c.toNat - 48, by omega, by omega⟩
  rw [hc, hcd]
  clear hc hcd hlt hlo hhi h
  revert d
  decide

variable {cs : List Char}

theorem toDigits_ofDigitChars (hne : cs ≠ []) (hd : ∀ c ∈ cs, c.isDigit = true)
    (hz : cs.head? ≠ some '0') : Nat.toDigits 10 (Nat.ofDigitChars 10 cs 0) = cs := by
  induction cs using List.reverseRecOn with
  | nil => exact absurd rfl hne
  | append_singleton cs c ih =>
    have hc : c.isDigit = true := hd c (by simp)
    rw [Nat.ofDigitChars_append, Nat.ofDigitChars_cons, Nat.ofDigitChars_nil]
    cases hcs : cs with
    | nil =>
      rw [Nat.ofDigitChars_nil, Nat.mul_zero, Nat.zero_add, toDigits_digit hc]
      rfl
    | cons d ds =>
      rw [← hcs]
      have hne' : cs ≠ [] := by simp [hcs]
      have hz' : cs.head? ≠ some '0' := by
        rw [hcs] at hz ⊢
        exact hz
      have hrec := ih hne' (fun x hx => hd x (by simp [hx])) hz'
      have hpos : 0 < Nat.ofDigitChars 10 cs 0 := by
        apply Nat.pos_of_ne_zero
        intro hzero
        rw [hzero, Nat.toDigits_zero] at hrec
        exact hz' (hrec ▸ rfl)
      have hlt : c.toNat - '0'.toNat < 10 := by
        simp only [Char.isDigit, Bool.and_eq_true, decide_eq_true_eq] at hc
        have hhi : c.toNat ≤ 57 := hc.2
        have hzero : '0'.toNat = 48 := rfl
        omega
      rw [← Nat.toDigits_append_toDigits (by decide) hpos hlt, hrec, toDigits_digit hc]

theorem head_toDigits {n : Nat} (h : 0 < n) : (Nat.toDigits 10 n).head? ≠ some '0' := by
  induction n using Nat.strongRecOn with
  | ind n ih =>
    rw [Nat.toDigits_eq_if (by decide)]
    split
    · next hlt =>
      have hall : ∀ m < 10, 0 < m → [m.digitChar].head? ≠ some '0' := by decide
      exact hall n hlt h
    · next hge =>
      have hrec := ih (n / 10) (by omega) (by omega)
      cases hd : Nat.toDigits 10 (n / 10) with
      | nil => exact absurd hd Nat.toDigits_ne_nil
      | cons c cs =>
        rw [hd] at hrec
        exact hrec

theorem digits_eq_some {k : Nat} (h : digits cs = some k) :
    cs ≠ [] ∧ (∀ c ∈ cs, c.isDigit = true) ∧ Nat.ofDigitChars 10 cs 0 = k := by
  unfold digits at h
  split at h
  · cases h
  · next hcond =>
    simp only [Bool.or_eq_true, Bool.not_eq_true', not_or, Bool.not_eq_false] at hcond
    exact ⟨by simpa using hcond.1, List.all_eq_true.1 hcond.2, Option.some.inj h⟩

theorem repr_of_digits_iff {k : Nat} (h : digits cs = some k) :
    k.repr.toList = cs ↔ PlainDigits cs := by
  obtain ⟨hne, hd, rfl⟩ := digits_eq_some h
  rw [Nat.repr_eq_ofList_toDigits, String.toList_ofList]
  constructor
  · intro heq
    rcases Nat.eq_zero_or_pos (Nat.ofDigitChars 10 cs 0) with hzero | hpos
    · rw [hzero, Nat.toDigits_zero] at heq
      exact .inl heq.symm
    · right
      rw [← heq]
      exact head_toDigits hpos
  · rintro (rfl | hz)
    · decide
    · exact toDigits_ofDigitChars hne hd hz

theorem itoa_ofNat (k : Nat) : itoa k = k.repr := by
  rw [itoa, Int.repr_eq_if, if_pos (by omega)]
  rfl

theorem itoa_neg {k : Nat} (h : 0 < k) : itoa (-k) = "-" ++ k.repr := by
  rw [itoa, Int.repr_eq_if, if_neg (by omega), show (-(-(k : Int))).toNat = k by omega]

theorem decimal_cases {s : String} {n : Int} (h : decimal s = some n) :
    (∃ cs k, s.toList = '-' :: cs ∧ digits cs = some k ∧ n = -(k : Int)) ∨
      (∃ cs k, s.toList = '+' :: cs ∧ digits cs = some k ∧ n = k) ∨
      ∃ k, digits s.toList = some k ∧ n = k := by
  unfold decimal at h
  split at h
  · next cs hs =>
    cases hd : digits cs with
    | none =>
      rw [hd] at h
      cases h
    | some k =>
      rw [hd] at h
      exact .inl ⟨cs, k, hs, hd, (Option.some.inj h).symm⟩
  · next cs hs =>
    cases hd : digits cs with
    | none =>
      rw [hd] at h
      cases h
    | some k =>
      rw [hd] at h
      exact .inr (.inl ⟨cs, k, hs, hd, (Option.some.inj h).symm⟩)
  · cases hd : digits s.toList with
    | none =>
      rw [hd] at h
      cases h
    | some k =>
      rw [hd] at h
      exact .inr (.inr ⟨k, rfl, (Option.some.inj h).symm⟩)

theorem itoa_of_decimal_iff {s : String} {n : Int} (h : decimal s = some n) :
    itoa n = s ↔ Canonical s := by
  rw [← String.toList_inj]
  unfold Canonical
  rcases decimal_cases h with ⟨cs, k, hs, hk, rfl⟩ | ⟨cs, k, hs, hk, rfl⟩ | ⟨k, hk, rfl⟩
  · -- minus zero is written without the sign
    simp only [hs]
    rcases Nat.eq_zero_or_pos k with rfl | hpos
    · obtain ⟨hne, hd, hval⟩ := digits_eq_some hk
      refine iff_of_false (fun hzero => ?_) fun hz => ?_
      · have hminus : '-' ∈ (itoa 0).toList := by
          have : (itoa (-((0 : Nat) : Int))).toList = '-' :: cs := hzero
          exact this ▸ .head _
        revert hminus
        decide
      · have hback := toDigits_ofDigitChars hne hd hz
        rw [hval, Nat.toDigits_zero] at hback
        exact hz (hback ▸ rfl)
    · rw [itoa_neg hpos, String.toList_append, show "-".toList = ['-'] from rfl,
        List.singleton_append, List.cons_inj_right, repr_of_digits_iff hk]
      refine ⟨?_, .inr⟩
      rintro (rfl | hz)
      · have hzero : digits ['0'] = some 0 := by decide
        obtain rfl := Option.some.inj (hzero.symm.trans hk)
        omega
      · exact hz
  · -- a plus sign is never written
    simp only [hs, iff_false, itoa_ofNat]
    intro heq
    have hplus : '+' ∈ k.repr.toList := heq ▸ .head _
    exact absurd (isDigit_of_mem_repr hplus) (by decide)
  · rw [itoa_ofNat, repr_of_digits_iff hk]
    obtain ⟨-, hd, -⟩ := digits_eq_some hk
    split
    · next hs => exact absurd (hd '-' (hs ▸ .head _)) (by decide)
    · next hs => exact absurd (hd '+' (hs ▸ .head _)) (by decide)
    · rfl

theorem itoa_of_atoi_iff {s : String} {n : Int} (h : atoi s = some n) : itoa n = s ↔ Canonical s :=
  itoa_of_decimal_iff (Option.filter_eq_some_iff.1 h).1

end NomadCsi.Lib.Go
