import Mathlib.Algebra.Ring.Int.Defs
import Mathlib.Data.List.AList
import Mathlib.Data.List.Perm.Basic
import Mathlib.Data.List.TakeWhile

/-!
# The Go library functions the modelled code calls

Strings are lists of Unicode characters; `int` and `int64` are `Int` with `wrap64`
where an operation can leave the 64-bit range. A `map[K]V` is a `Map K V`: a missing
key reads as `none`, and `StrMap.get` reads a missing string as the empty one.
-/

namespace NomadCsi.Lib.Go

abbrev Map (κ ν : Type) := AList fun _ : κ => ν

abbrev StrMap := Map String String

/-- `m[k]` of a `map[string]string`. -/
def StrMap.get (m : StrMap) (k : String) : String := (m.lookup k).getD ""

/-- Every entry of `m` is one of `m'`. -/
def SubMap (m m' : StrMap) : Prop := ∀ k v, m.lookup k = some v → m'.lookup k = some v

theorem SubMap.get {m m' : StrMap} (h : SubMap m m') (k : String) :
    m.get k = "" ∨ m.get k = m'.get k := by
  unfold StrMap.get
  cases hm : m.lookup k with
  | none => exact .inl rfl
  | some v => exact .inr (by rw [h k v hm])

variable {β κ ν : Type} {key : β → κ} {l : List β} {val : β → ν} {k : κ}

variable {m : Map κ ν}

theorem lookup_insert_if [DecidableEq κ] (m : Map κ ν) (k j : κ) (v : ν) :
    (m.insert k v).lookup j = if j = k then some v else m.lookup j := by
  split
  · next h => rw [h, AList.lookup_insert]
  · next h => rw [AList.lookup_insert_ne h]

/-- A map filled in a loop: what is read back was put there by the loop or was there before. -/
theorem lookup_foldl_insert [DecidableEq κ] {v : ν}
    (h : (l.foldl (fun m b => m.insert (key b) (val b)) m).lookup k = some v) :
    (∃ b ∈ l, key b = k ∧ val b = v) ∨ m.lookup k = some v := by
  induction l generalizing m with
  | nil => exact .inr h
  | cons b l ih =>
    rcases ih h with ⟨b', hb', hkv⟩ | h
    · exact .inl ⟨b', .tail _ hb', hkv⟩
    · by_cases hk : k = key b
      · rw [hk, AList.lookup_insert] at h
        exact .inl ⟨b, .head _, hk.symm, Option.some.inj h⟩
      · rw [AList.lookup_insert_ne hk] at h
        exact .inr h

theorem mem_of_lookup_foldl [DecidableEq κ] {v : β}
    (h : (l.foldl (fun m b => m.insert (key b) b) (∅ : Map κ β)).lookup k = some v) :
    v ∈ l ∧ key v = k := by
  rcases lookup_foldl_insert (ν := β) h with ⟨b, hb, hk, rfl⟩ | hnone
  · exact ⟨hb, hk⟩
  · cases hnone

theorem isSome_lookup_foldl [DecidableEq κ] (h : (∃ b ∈ l, key b = k) ∨ k ∈ m) :
    ((l.foldl (fun m b => m.insert (key b) (val b)) m).lookup k).isSome = true := by
  induction l generalizing m with
  | nil =>
    rcases h with ⟨b, hb, -⟩ | h
    · cases hb
    · exact AList.lookup_isSome.2 h
  | cons b l ih =>
    refine ih ?_
    rcases h with ⟨b', hb', rfl⟩ | h
    · rcases List.mem_cons.1 hb' with rfl | hb'
      · exact .inr ((AList.mem_insert _).2 (.inl rfl))
      · exact .inl ⟨b', hb', rfl⟩
    · exact .inr ((AList.mem_insert _).2 (.inr h))

theorem lookup_foldl_iff [DecidableEq κ] {v : ν}
    (hone : ∀ b ∈ l, ∀ b' ∈ l, key b = key b' → val b = val b') :
    (l.foldl (fun m b => m.insert (key b) (val b)) (∅ : Map κ ν)).lookup k = some v ↔
      ∃ b ∈ l, key b = k ∧ val b = v := by
  have hfound : ∀ {v}, (l.foldl (fun m b => m.insert (key b) (val b)) (∅ : Map κ ν)).lookup k =
      some v → ∃ b ∈ l, key b = k ∧ val b = v := by
    intro v h
    rcases lookup_foldl_insert h with h | h
    · exact h
    · cases h
  refine ⟨hfound, ?_⟩
  rintro ⟨b, hb, hk, rfl⟩
  obtain ⟨v, hv⟩ := Option.isSome_iff_exists.1 (isSome_lookup_foldl (ν := ν) (.inl ⟨b, hb, hk⟩))
  obtain ⟨b', hb', hk', rfl⟩ := hfound hv
  rw [hone b hb b' hb' (hk.trans hk'.symm)]
  exact hv

theorem erase_insert [DecidableEq κ] {v : ν} (h : m.lookup k = none) :
    (m.insert k v).erase k = m := by
  have hk : k ∉ m.keys := AList.lookup_eq_none.1 h
  apply AList.ext
  calc List.kerase k (⟨k, v⟩ :: List.kerase k m.entries)
      = List.kerase k m.entries := List.kerase_cons_eq rfl
    _ = m.entries := List.kerase_of_notMem_keys hk

/-- An `int64` result, wrapped to two's complement. -/
def wrap64 (n : Int) : Int := (n + 2 ^ 63) % 2 ^ 64 - 2 ^ 63

theorem wrap64_eq {n : Int} (h : -2 ^ 63 ≤ n ∧ n < 2 ^ 63) : wrap64 n = n := by
  unfold wrap64
  omega

/-- `a / b` on `int64`; a zero divisor panics. -/
def quot64 (a b : Int) : Option Int := if b = 0 then none else some (wrap64 (a.tdiv b))

/-- `t.Sub(u)` of two times in nanoseconds: a duration, saturated at its range. -/
def timeSub (t u : Int) : Int := max (-2 ^ 63) (min (2 ^ 63 - 1) (t - u))

theorem timeSub_mono {t t' : Int} (h : t ≤ t') (u : Int) : timeSub t u ≤ timeSub t' u := by
  unfold timeSub
  omega

def isSpace (c : Char) : Bool :=
  c.toNat ∈ [0x09, 0x0a, 0x0b, 0x0c, 0x0d, 0x20, 0x85, 0xa0, 0x1680, 0x2028, 0x2029, 0x202f,
    0x205f, 0x3000] || (0x2000 ≤ c.toNat && c.toNat ≤ 0x200a)

def trimSpace (s : String) : String :=
  String.ofList (((s.toList.dropWhile isSpace).reverse.dropWhile isSpace).reverse)

theorem trimSpace_eq_empty {s : String} :
    trimSpace s = "" ↔ ∀ c ∈ s.toList, isSpace c = true := by
  have hofList : ∀ l : List Char, String.ofList l = "" ↔ l = [] := by
    intro l
    constructor
    · intro h
      have := congrArg String.toList h
      simpa using this
    · rintro rfl
      rfl
  have hdrop : (∀ c ∈ s.toList.dropWhile isSpace, isSpace c = true) ↔
      ∀ c ∈ s.toList, isSpace c = true := by
    constructor
    · intro h c hc
      rw [← List.takeWhile_append_dropWhile (p := isSpace) (l := s.toList), List.mem_append] at hc
      rcases hc with hc | hc
      · exact List.mem_takeWhile_imp hc
      · exact h c hc
    · exact fun h c hc => h c ((List.dropWhile_sublist _).mem hc)
  rw [trimSpace, hofList, List.reverse_eq_nil_iff, List.dropWhile_eq_nil_iff, ← hdrop]
  simp only [List.mem_reverse]

theorem trimSpace_trimSpace_ne_empty {s : String} (h : trimSpace s ≠ "") :
    trimSpace (trimSpace s) ≠ "" := by
  intro htt
  have hall := trimSpace_eq_empty.1 htt
  have hne : (s.toList.dropWhile isSpace).reverse.dropWhile isSpace ≠ [] := by
    intro hnil
    apply h
    rw [trimSpace, hnil]
    rfl
  have hhead := List.head_dropWhile_not isSpace hne
  rw [hall _ (by simp [trimSpace])] at hhead
  cases hhead

/-- `strings.Split` at a one-character separator. -/
def split (s : String) (sep : Char) : List String := (s.toList.splitOn sep).map String.ofList

/-- `strings.Cut` at a one-character separator. -/
def cut (s : String) (sep : Char) : Option (String × String) :=
  if sep ∈ s.toList then
    some (String.ofList (s.toList.takeWhile (· ≠ sep)),
      String.ofList ((s.toList.dropWhile (· ≠ sep)).drop 1))
  else none

/-- `net.SplitHostPort` of a string, as characters: the host and the port around the last colon. -/
def splitHostPort (s : List Char) : Option (List Char × List Char) :=
  if ':' ∉ s then none
  else
    let port := (s.reverse.takeWhile (· ≠ ':')).reverse
    let host := ((s.reverse.dropWhile (· ≠ ':')).drop 1).reverse
    if s.head? = some '[' then
      -- the first closing bracket must stand right before the last colon
      if host.getLast? = some ']' ∧ ']' ∉ host.dropLast ∧ '[' ∉ s.tail ∧ ']' ∉ port then
        some (host.tail.dropLast, port)
      else none
    else if ':' ∈ host ∨ '[' ∈ s ∨ ']' ∈ s then none
    else some (host, port)

def joinHostPort (host port : String) : String :=
  if ':' ∈ host.toList then "[" ++ host ++ "]:" ++ port else host ++ ":" ++ port

/-- `filepath.Base`. -/
def base (path : String) : String :=
  if path = "" then "."
  else
    let cs := path.toList.reverse.dropWhile (· = '/')
    if cs.isEmpty then "/" else String.ofList (cs.takeWhile (· ≠ '/')).reverse

def hasPrefix (s pre : String) : Bool := pre.toList.isPrefixOf s.toList

def hasSuffix (s suf : String) : Bool := suf.toList.isSuffixOf s.toList

def contains (s sub : String) : Bool := s.toList.tails.any fun t => sub.toList.isPrefixOf t

/-- The order in which a map is iterated: each pick takes one of the keys that are left. -/
def shuffle {α : Type} : List Nat → List α → List α
  | _, [] => []
  | [], l => l
  | n :: ns, x :: l =>
    match (x :: l)[n]? with
    | some y => y :: shuffle ns ((x :: l).eraseIdx n)
    | none => x :: shuffle ns l

theorem shuffle_perm {α : Type} (picks : List Nat) (l : List α) :
    (shuffle picks l).Perm l := by
  induction picks generalizing l with
  | nil => cases l <;> exact .refl _
  | cons n ns ih =>
    cases l with
    | nil => exact .refl _
    | cons x l =>
      rw [shuffle]
      split
      · next y hy =>
        obtain ⟨hn, rfl⟩ := List.getElem?_eq_some_iff.1 hy
        exact ((ih _).cons _).trans (List.getElem_cons_eraseIdx_perm hn)
      · exact (ih l).cons x

def join (l : List String) (sep : String) : String := sep.intercalate l

/-- The value of a non-empty run of decimal digits. -/
def digits (cs : List Char) : Option Nat :=
  if cs.isEmpty || !cs.all Char.isDigit then none else some (Nat.ofDigitChars 10 cs 0)

/-- A decimal number of any size, with an optional sign. -/
def decimal (s : String) : Option Int :=
  match s.toList with
  | '-' :: cs => (digits cs).map fun n => -(n : Int)
  | '+' :: cs => (digits cs).map fun n => (n : Int)
  | cs => (digits cs).map fun n => (n : Int)

/-- `strconv.Atoi`, and `strconv.ParseInt` in base 10 at 64 bits. -/
def atoi (s : String) : Option Int := (decimal s).filter fun n => -2 ^ 63 ≤ n ∧ n < 2 ^ 63

def parseBool (s : String) : Option Bool :=
  if s ∈ ["1", "t", "T", "TRUE", "true", "True"] then some true
  else if s ∈ ["0", "f", "F", "FALSE", "false", "False"] then some false
  else none

/-- Two hexadecimal digits of a control character in a quoted string. -/
def hex2 (n : Nat) : List Char := [Nat.digitChar (n / 16), Nat.digitChar (n % 16)]

/-- One character as `%q` prints it. -/
def quoteChar (c : Char) : List Char :=
  if c = '"' then ['\\', '"']
  else if c = '\\' then ['\\', '\\']
  else if c = '\n' then ['\\', 'n']
  else if c = '\t' then ['\\', 't']
  else if c = '\r' then ['\\', 'r']
  else if c.toNat = 7 then ['\\', 'a']
  else if c.toNat = 8 then ['\\', 'b']
  else if c.toNat = 12 then ['\\', 'f']
  else if c.toNat = 11 then ['\\', 'v']
  else if c.toNat < 32 ∨ c.toNat = 127 then ['\\', 'x'] ++ hex2 c.toNat
  else [c]

/-- `%q` of a string. -/
def quote (s : String) : String := String.ofList ('"' :: s.toList.flatMap quoteChar ++ ['"'])

def atoiError (s : String) : String :=
  "strconv.Atoi: parsing " ++ quote s ++
    (if (decimal s).isSome then ": value out of range" else ": invalid syntax")

/-- `%d` of an integer. -/
def itoa (n : Int) : String := n.repr

theorem isDigit_of_mem_repr {k : Nat} {c : Char} (h : c ∈ k.repr.toList) : c.isDigit := by
  rw [Nat.repr_eq_ofList_toDigits, String.toList_ofList] at h
  exact Nat.isDigit_of_mem_toDigits (by decide) (by decide) h

theorem mem_itoa {n : Int} {c : Char} (h : c ∈ (itoa n).toList) : c = '-' ∨ c.isDigit := by
  rw [itoa, Int.repr_eq_if] at h
  split at h
  · exact .inr (isDigit_of_mem_repr h)
  · rw [String.toList_append, List.mem_append] at h
    rcases h with h | h
    · exact .inl (by simpa using h)
    · exact .inr (isDigit_of_mem_repr h)

theorem digits_repr (k : Nat) : digits k.repr.toList = some k := by
  have hd : k.repr.toList.all Char.isDigit = true :=
    List.all_eq_true.2 fun c hc => isDigit_of_mem_repr hc
  rw [Nat.repr_eq_ofList_toDigits, String.toList_ofList] at hd ⊢
  simp [digits, hd, Nat.ofDigitChars_ten_toDigits]

theorem decimal_itoa (n : Int) : decimal (itoa n) = some n := by
  have hdigit : ∀ {k : Nat} {c : Char} {cs : List Char}, k.repr.toList = c :: cs →
      c.isDigit = true := by
    intro k c cs h
    exact isDigit_of_mem_repr (by rw [h]; exact .head _)
  rw [itoa, Int.repr_eq_if]
  unfold decimal
  split_ifs with hn
  · split
    · next h => exact absurd (hdigit h) (by decide)
    · next h => exact absurd (hdigit h) (by decide)
    · rw [digits_repr]
      change some (n.toNat : Int) = some n
      congr 1
      omega
  · rw [String.toList_append, show "-".toList = ['-'] by decide, List.singleton_append]
    simp only [digits_repr]
    change some (-((-n).toNat : Int)) = some n
    congr 1
    omega

theorem atoi_itoa (n : Int) : atoi (itoa n) = if -2 ^ 63 ≤ n ∧ n < 2 ^ 63 then some n else none := by
  rw [atoi, decimal_itoa, Option.filter_some]
  simp

theorem minus_ne_repr (j k : Nat) : "-" ++ j.repr ≠ k.repr := by
  intro h
  have : '-' ∈ k.repr.toList := by simp [← h]
  exact absurd (isDigit_of_mem_repr this) (by decide)

theorem repr_inj {j k : Nat} (h : j.repr = k.repr) : j = k :=
  Option.some.inj (by rw [← digits_repr j, h, digits_repr])

theorem itoa_inj {m n : Int} (h : itoa m = itoa n) : m = n := by
  rw [itoa, itoa, Int.repr_eq_if, Int.repr_eq_if] at h
  split_ifs at h with hm hn hn
  · have := repr_inj h
    omega
  · exact absurd h.symm (minus_ne_repr _ _)
  · exact absurd h (minus_ne_repr _ _)
  · have := repr_inj ((String.append_right_inj _).1 h)
    omega

theorem slash_notMem_itoa (n : Int) : '/' ∉ (itoa n).toList := by
  intro h
  rcases mem_itoa h with h | h <;> revert h <;> decide

theorem cut_inj {α : Type} {a : α} {x x' z z' : List α} (hx : a ∉ x) (hx' : a ∉ x')
    (h : x ++ a :: z = x' ++ a :: z') : x = x' ∧ z = z' := by
  induction x generalizing x' with
  | nil =>
    cases x' with
    | nil => exact ⟨rfl, List.cons.inj h |>.2⟩
    | cons c' x' => exact absurd (List.cons.inj h).1 fun e => hx' (e ▸ .head _)
  | cons c x ih =>
    cases x' with
    | nil => exact absurd (List.cons.inj h).1 fun e => hx (e ▸ .head _)
    | cons c' x' =>
      simp only [List.cons_append, List.cons.injEq] at h
      obtain ⟨rfl, rfl⟩ := ih (fun m => hx (.tail _ m)) (fun m => hx' (.tail _ m)) h.2
      exact ⟨by rw [h.1], rfl⟩

/-- Two fields joined by a slash, the first without one, are determined. -/
theorem slash_inj {a a' b b' : String} (ha : '/' ∉ a.toList) (ha' : '/' ∉ a'.toList)
    (h : a ++ ("/" ++ b) = a' ++ ("/" ++ b')) : a = a' ∧ b = b' := by
  have hl := congrArg String.toList h
  rw [String.toList_append, String.toList_append, String.toList_append, String.toList_append,
    show "/".toList = ['/'] by decide] at hl
  obtain ⟨h1, h2⟩ := cut_inj ha ha' hl
  exact ⟨String.toList_injective h1, String.toList_injective h2⟩

/-- What an `if err != nil { return err }` chain went through when it succeeded. -/
theorem bind_ok {ε α : Type} {x : Except ε α} {f : α → Except ε β} {b : β} :
    (x >>= f) = .ok b ↔ ∃ a, x = .ok a ∧ f a = .ok b := by
  cases x with
  | error | ok => simp [bind, Except.bind]

end NomadCsi.Lib.Go
