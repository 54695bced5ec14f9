import NomadCsi.Lib.Prog

/-!
# A logic for programs that may fail

`Ends act E x s Q X`: from `s`, every call that a run of `x` issues satisfies `E`, and
the run ends in `Q` of its value or in `X` of its error. One rule for each way of
building such a program; `Ends.runs` reads a judgement back as a fact about runs.
-/

namespace NomadCsi.Lib

variable {C : Type} {R : C → Type} {σ ω ε δ α β : Type}

/-- One postcondition for either outcome. -/
def Outcome (Q : α → σ → Prop) (X : ε → σ → Prop) : Except ε α → σ → Prop
  | .ok a, s => Q a s
  | .error e, s => X e s

section

variable (act : Act C R σ ω) (E : Event C R σ ω → Prop)

def Ends (x : ExceptT ε (Prog C R) α) (s : σ) (Q : α → σ → Prop) (X : ε → σ → Prop) : Prop :=
  wp act x.run s fun tr r s' => (∀ e ∈ tr, E e) ∧ Outcome Q X r s'

end

variable {x : ExceptT ε (Prog C R) α}

namespace Ends

variable {act : Act C R σ ω} {E : Event C R σ ω → Prop} {s : σ}
  {P Q : α → σ → Prop} {X Y : ε → σ → Prop}

theorem runs (h : Ends act E x s Q X) {tr : List (Event C R σ ω)} {r : Except ε α} {s' : σ}
    (hr : Runs act x.run s tr r s') : (∀ e ∈ tr, E e) ∧ Outcome Q X r s' :=
  wp_iff.1 h tr r s' hr

theorem next_call [Nonempty ω] (h : Ends act E x s Q X) {tr : List (Event C R σ ω)} {c : C}
    {k : R c → Prog C R (Except ε α)} {s' : σ} (hs : Steps act x.run s tr (.call c k) s') (ch : ω) :
    E ⟨s', c, ch, (act s' c ch).1⟩ := by
  have hw := wp_steps (hs.snoc ch) h
  obtain ⟨tr', r, s'', hr⟩ := exists_runs act (k (act s' c ch).1) (act s' c ch).2
  exact (wp_iff.1 hw tr' r s'' hr).1 _ (by simp)

theorem mono (h : Ends act E x s P Y) (hQ : ∀ a s, P a s → Q a s) (hX : ∀ e s, Y e s → X e s) :
    Ends act E x s Q X := by
  refine wp_mono h fun tr r s' hp => ⟨hp.1, ?_⟩
  cases r with
  | ok a => exact hQ a s' hp.2
  | error e => exact hX e s' hp.2

theorem weaken (h : Ends act E x s Q Y) (hX : ∀ e s, Y e s → X e s) : Ends act E x s Q X :=
  h.mono (fun _ _ h => h) hX

theorem pure {a : α} (h : Q a s) :
    Ends act E (Pure.pure a : ExceptT ε (Prog C R) α) s Q X := by
  refine wp_run_pure.2 ⟨?_, h⟩
  simp

theorem throw {e : ε} (h : X e s) :
    Ends act E (MonadExcept.throw e : ExceptT ε (Prog C R) α) s Q X := by
  refine wp_run_throw.2 ⟨?_, h⟩
  simp

theorem perform {c : C} {Q : R c → σ → Prop}
    (h : ∀ ch, E ⟨s, c, ch, (act s c ch).1⟩ ∧ Q (act s c ch).1 (act s c ch).2) :
    Ends act E (Lib.perform c : ExceptT ε (Prog C R) (R c)) s Q X := by
  refine wp_perform.2 fun ch => ⟨?_, (h ch).2⟩
  simpa using (h ch).1

theorem bind {f : α → ExceptT ε (Prog C R) β} {P : β → σ → Prop} (hx : Ends act E x s Q X)
    (hf : ∀ a s', Q a s' → Ends act E (f a) s' P X) : Ends act E (x >>= f) s P X := by
  refine wp_run_bind.2 (wp_mono hx fun tr r s' hp => ?_)
  cases r with
  | error e => exact hp
  | ok a =>
    refine wp_mono (hf a s' hp.2) fun tr' r' s'' hp' => ⟨fun e he => ?_, hp'.2⟩
    rcases List.mem_append.1 he with he | he
    · exact hp.1 e he
    · exact hp'.1 e he

theorem attempt {x : ExceptT δ (Prog C R) α} {P : Except δ α → σ → Prop}
    (h : Ends act E x s (fun a => P (.ok a)) fun e => P (.error e)) :
    Ends act E (Lib.attempt x) s P X := by
  refine wp_attempt.2 (wp_mono h fun tr r s' hp => ⟨hp.1, ?_⟩)
  cases r with
  | ok | error => exact hp.2

theorem onError {f : δ → ε} {x : ExceptT δ (Prog C R) α}
    (h : Ends act E x s Q fun e => X (f e)) : Ends act E (Lib.onError f x) s Q X := by
  refine wp_onError.2 (wp_mono h fun tr r s' hp => ⟨hp.1, ?_⟩)
  cases r with
  | ok | error => exact hp.2

theorem decided {r : Except ε α} (h : Outcome Q X r s) :
    Ends act E (Lib.decided r) s Q X := by
  refine ⟨?_, h⟩
  simp

theorem unchanged {K : C → Prop} (h : Ends act E x s Q X) (hx : x.run.Calls K)
    (hK : ∀ s c ch, K c → (act s c ch).2 = s) :
    Ends act E x s (fun a s' => s' = s ∧ Q a s') fun e s' => s' = s ∧ X e s' := by
  refine wp_iff.2 fun tr r s' hr => ?_
  have hsame : s' = s :=
    (hr.invariant (I := fun t => t = s) (fun t c ch hc ht => (hK t c ch hc).trans ht) hx rfl).2
  obtain ⟨htr, hout⟩ := h.runs hr
  refine ⟨htr, ?_⟩
  cases r with
  | ok | error => exact ⟨hsame, hout⟩

end Ends

/-- If `x` succeeds from `s`, it ends in `Q`. -/
abbrev Yields (act : Act C R σ ω) (x : ExceptT ε (Prog C R) α) (s : σ)
    (Q : α → σ → Prop) : Prop :=
  Ends act (fun _ => True) x s Q fun _ _ => True

theorem yields_true {act : Act C R σ ω} (x : ExceptT ε (Prog C R) α) (s : σ) :
    Yields act x s fun _ _ => True := by
  refine wp_iff.2 fun tr r s' _ => ⟨fun _ _ => trivial, ?_⟩
  cases r with
  | ok a => trivial
  | error e => trivial

end NomadCsi.Lib
