import NomadCsi.Lib.Go

/-!
# Addresses with a port

What `net.SplitHostPort` accepts, as a grammar: a host without colons, or any host in
brackets, then a colon and the port, and no bracket anywhere else (`splitHostPort_iff`).
-/

namespace NomadCsi.Lib.Go

def Bare (s : List Char) : Prop := '[' ∉ s ∧ ']' ∉ s

instance (s : List Char) : Decidable (Bare s) := inferInstanceAs (Decidable (_ ∧ _))

/-- `host:port`, or `[host]:port`. -/
inductive Address : List Char → List Char → List Char → Prop where
  | plain {host port : List Char} : ':' ∉ host → Bare host → ':' ∉ port → Bare port →
      Address (host ++ ':' :: port) host port
  | bracketed {host port : List Char} : Bare host → ':' ∉ port → Bare port →
      Address ('[' :: host ++ ']' :: ':' :: port) host port

variable {s : List Char}

theorem exists_last_colon (h : ':' ∈ s) : ∃ host port, s = host ++ ':' :: port ∧ ':' ∉ port := by
  obtain ⟨as, bs, heq, has⟩ := List.eq_append_cons_of_mem (List.mem_reverse.2 h)
  refine ⟨bs.reverse, as.reverse, ?_, by simpa using has⟩
  rw [← List.reverse_reverse s, heq]
  simp

theorem last_colon_inj {x x' z z' : List Char} (hz : ':' ∉ z) (hz' : ':' ∉ z')
    (h : x ++ ':' :: z = x' ++ ':' :: z') : x = x' ∧ z = z' := by
  have hrev := congrArg List.reverse h
  simp only [List.reverse_append, List.reverse_cons, List.append_assoc, List.singleton_append] at hrev
  obtain ⟨hlast, hfront⟩ := cut_inj (by simpa using hz) (by simpa using hz') hrev
  exact ⟨List.reverse_inj.1 hfront, List.reverse_inj.1 hlast⟩

variable {host port : List Char}

theorem splitHostPort_at (hp : ':' ∉ port) : splitHostPort (host ++ ':' :: port) =
      if (host ++ ':' :: port).head? = some '[' then
        if host.getLast? = some ']' ∧ ']' ∉ host.dropLast ∧ '[' ∉ (host ++ ':' :: port).tail ∧
            ']' ∉ port then some (host.tail.dropLast, port)
        else none
      else if ':' ∈ host ∨ '[' ∈ host ++ ':' :: port ∨ ']' ∈ host ++ ':' :: port then none
      else some (host, port) := by
  have hne : ∀ c ∈ port.reverse, decide (c ≠ ':') = true := by
    intro c hc
    have : c ≠ ':' := by
      rintro rfl
      exact hp (List.mem_reverse.1 hc)
    simpa using this
  have hrev : (host ++ ':' :: port).reverse = port.reverse ++ ':' :: host.reverse := by simp
  have htake : ((host ++ ':' :: port).reverse.takeWhile (· ≠ ':')).reverse = port := by
    rw [hrev, List.takeWhile_append_of_pos hne]
    simp
  have hdrop : (((host ++ ':' :: port).reverse.dropWhile (· ≠ ':')).drop 1).reverse = host := by
    rw [hrev, List.dropWhile_append_of_pos hne]
    simp
  have hcolon : ¬ ':' ∉ host ++ ':' :: port := by simp
  unfold splitHostPort
  rw [if_neg hcolon]
  simp only [htake, hdrop]

theorem Address.colon (h : Address s host port) : ':' ∈ s := by
  cases h with
  | plain _ _ _ _ => simp
  | bracketed _ _ _ => simp

theorem splitHostPort_of_address (h : Address s host port) :
    splitHostPort s = some (host, port) := by
  cases h with
  | plain hcolon hhost hport hbare =>
    rw [splitHostPort_at hport, if_neg, if_neg]
    · rintro (hin | hin | hin)
      · exact hcolon hin
      · simp [hhost.1, hbare.1] at hin
      · simp [hhost.2, hbare.2] at hin
    · intro hhead
      cases host with
      | nil => simp at hhead
      | cons c cs =>
        obtain rfl : c = '[' := by simpa using hhead
        exact hhost.1 (.head _)
  | bracketed hhost hport hbare =>
    have hsplit : '[' :: host ++ ']' :: ':' :: port = ('[' :: host ++ [']']) ++ ':' :: port := by
      simp
    rw [hsplit, splitHostPort_at hport, if_pos (by simp), if_pos]
    · simp
    · refine ⟨List.getLast?_concat, ?_, ?_, hbare.2⟩
      · rw [List.dropLast_concat]
        simp [hhost.2]
      · simp [hhost.1, hbare.1]

/-- `net.SplitHostPort` accepts exactly the addresses, and returns their parts. -/
theorem splitHostPort_iff : splitHostPort s = some (host, port) ↔ Address s host port := by
  refine ⟨fun h => ?_, splitHostPort_of_address⟩
  by_cases hcolon : ':' ∈ s
  · obtain ⟨front, last, rfl, hlast⟩ := exists_last_colon hcolon
    rw [splitHostPort_at hlast] at h
    split at h
    · next hhead =>
      split at h
      · next hok =>
        obtain ⟨hend, hclose, hopen, hport⟩ := hok
        obtain ⟨rfl, rfl⟩ := Prod.mk.inj (Option.some.inj h)
        -- the front is the host between its brackets
        obtain ⟨body, rfl⟩ := List.getLast?_eq_some_iff.1 hend
        rw [List.dropLast_concat] at hclose
        cases body with
        | nil => simp at hhead
        | cons c host =>
          obtain rfl : c = '[' := by simpa using hhead
          simp only [List.cons_append, List.tail_cons, List.mem_append, List.mem_cons,
            List.append_assoc, not_or] at hopen hclose ⊢
          simp only [List.dropLast_concat, List.nil_append]
          exact .bracketed ⟨hopen.1, hclose.2⟩ hlast ⟨hopen.2.2.2.2, hport⟩
      · cases h
    · split at h
      · cases h
      · next hno =>
        obtain ⟨rfl, rfl⟩ := Prod.mk.inj (Option.some.inj h)
        simp only [List.mem_append, List.mem_cons, not_or] at hno
        obtain ⟨hfront, ⟨hopen, -, hopen'⟩, hclose, -, hclose'⟩ := hno
        exact .plain hfront ⟨hopen, hclose⟩ hlast ⟨hopen', hclose'⟩
  · unfold splitHostPort at h
    rw [if_pos hcolon] at h
    cases h

end NomadCsi.Lib.Go
