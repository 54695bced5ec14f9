import NomadCsi.Lib.Hoare

/-!
# Environments and histories

`restrict act P` is the system `act` with only the choices that satisfy `P`. `Traces` is a
judgement whose postconditions speak of the history of the run.
-/

namespace NomadCsi.Lib

variable {C : Type} {R : C → Type} {σ ω α β : Type} {act : Act C R σ ω}

section

variable (act) in
/-- The system `act` with the choices of `P` only. -/
def restrict (P : ω → Prop) (s : σ) (c : C) (ch : Subtype P) : R c × σ := act s c ch.1

variable {P : ω → Prop} {p : Prog C R α} {s s' : σ} {a : α}

/-- An event of the restricted system as one of the system. -/
def Event.forget (e : Event C R σ (Subtype P)) : Event C R σ ω := ⟨e.pre, e.call, e.choice.1, e.reply⟩

theorem Runs.restrict {tr : List (Event C R σ ω)} (h : Runs act p s tr a s')
    (hP : ∀ e ∈ tr, P e.choice) :
    ∃ tr' : List (Event C R σ (Subtype P)), tr'.map Event.forget = tr ∧
      Runs (restrict act P) p s tr' a s' := by
  induction p generalizing s tr with
  | ret x =>
    obtain ⟨rfl, rfl, rfl⟩ := runs_ret.1 h
    exact ⟨[], rfl, runs_ret.2 ⟨rfl, rfl, rfl⟩⟩
  | call c k ih =>
    obtain ⟨ch, t, rfl, hk⟩ := runs_call.1 h
    obtain ⟨tr', rfl, hr⟩ := ih _ hk fun e he => hP e (.tail _ he)
    exact ⟨_, rfl, runs_call.2 ⟨⟨ch, hP _ (.head _)⟩, tr', rfl, hr⟩⟩

theorem Runs.of_restrict {tr : List (Event C R σ (Subtype P))}
    (h : Runs (Lib.restrict act P) p s tr a s') :
    ∃ tr', (∀ e ∈ tr', P e.choice) ∧ Runs act p s tr' a s' := by
  induction p generalizing s tr with
  | ret x =>
    obtain ⟨-, rfl, rfl⟩ := runs_ret.1 h
    exact ⟨[], by simp, runs_ret.2 ⟨rfl, rfl, rfl⟩⟩
  | call c k ih =>
    obtain ⟨ch, t, rfl, hk⟩ := runs_call.1 h
    obtain ⟨tr', hP, hr⟩ := ih _ hk
    refine ⟨_, ?_, runs_call.2 ⟨ch.1, tr', rfl, hr⟩⟩
    intro e he
    rcases List.mem_cons.1 he with rfl | he
    · exact ch.2
    · exact hP e he

end

/-! ### Histories -/

section

variable {ε δ : Type}

variable (act) in
/-- From `s` with history `l`, every run of `x` whose whole history is in `A` ends in `Q` of its
value or in `X` of its error; `obs` is what a call adds to the history. -/
def Traces (obs : Event C R σ ω → List β) (A : List β → Prop) (x : ExceptT ε (Prog C R) α) (s : σ)
    (l : List β) (Q : α → σ → List β → Prop) (X : ε → σ → List β → Prop) : Prop :=
  wp act x.run s fun tr r s' => A (l ++ tr.flatMap obs) →
    Outcome (fun a s' => Q a s' (l ++ tr.flatMap obs)) (fun e s' => X e s' (l ++ tr.flatMap obs)) r s'

variable {x : ExceptT ε (Prog C R) α}

namespace Traces

variable {obs : Event C R σ ω → List β} {A : List β → Prop} {s : σ} {l : List β}
  {P Q : α → σ → List β → Prop} {X Y : ε → σ → List β → Prop}

theorem runs (h : Traces act obs A x s [] Q X) {tr : List (Event C R σ ω)} {r : Except ε α} {s' : σ}
    (hr : Runs act x.run s tr r s') (hA : A (tr.flatMap obs)) :
    Outcome (fun a s' => Q a s' (tr.flatMap obs)) (fun e s' => X e s' (tr.flatMap obs)) r s' :=
  wp_iff.1 h tr r s' hr hA

theorem mono (h : Traces act obs A x s l P Y) (hQ : ∀ a s l, A l → P a s l → Q a s l)
    (hX : ∀ e s l, A l → Y e s l → X e s l) : Traces act obs A x s l Q X := by
  refine wp_mono h fun tr r s' hp hA => ?_
  have hp := hp hA
  cases r with
  | ok a => exact hQ a s' _ hA hp
  | error e => exact hX e s' _ hA hp

theorem weaken (h : Traces act obs A x s l Q Y) (hX : ∀ e s l, A l → Y e s l → X e s l) :
    Traces act obs A x s l Q X :=
  h.mono (fun _ _ _ _ h => h) hX

theorem pure {a : α} (h : A l → Q a s l) :
    Traces act obs A (Pure.pure a : ExceptT ε (Prog C R) α) s l Q X := by
  refine wp_run_pure.2 fun hA => ?_
  rw [List.flatMap_nil, List.append_nil] at hA ⊢
  exact h hA

theorem throw {e : ε} (h : A l → X e s l) :
    Traces act obs A (MonadExcept.throw e : ExceptT ε (Prog C R) α) s l Q X := by
  refine wp_run_throw.2 fun hA => ?_
  rw [List.flatMap_nil, List.append_nil] at hA ⊢
  exact h hA

theorem perform {c : C} {Q : R c → σ → List β → Prop}
    (h : ∀ ch, A (l ++ obs ⟨s, c, ch, (act s c ch).1⟩) →
      Q (act s c ch).1 (act s c ch).2 (l ++ obs ⟨s, c, ch, (act s c ch).1⟩)) :
    Traces act obs A (Lib.perform c : ExceptT ε (Prog C R) (R c)) s l Q X := by
  refine wp_perform.2 fun ch hA => ?_
  rw [List.flatMap_singleton] at hA ⊢
  exact h ch hA

/-- A history goes on from the one left by `x`, which is in `A` if the whole is. -/
theorem bind {δ : Type} {f : α → ExceptT ε (Prog C R) δ} {P : δ → σ → List β → Prop}
    (hA : ∀ l l', A (l ++ l') → A l) (hx : Traces act obs A x s l Q X)
    (hf : ∀ a s' l', A l' → Q a s' l' → Traces act obs A (f a) s' l' P X) :
    Traces act obs A (x >>= f) s l P X := by
  refine wp_run_bind.2 (wp_mono hx fun tr r s' hp => ?_)
  cases r with
  | error e => exact hp
  | ok a =>
    refine wp_iff.2 fun tr' r' s'' hr hlog => ?_
    rw [List.flatMap_append, ← List.append_assoc] at hlog ⊢
    have hl := hA _ _ hlog
    exact wp_iff.1 (hf a s' _ hl (hp hl)) tr' r' s'' hr hlog

theorem attempt {x : ExceptT δ (Prog C R) α} {P : Except δ α → σ → List β → Prop}
    (h : Traces act obs A x s l (fun a => P (.ok a)) fun e => P (.error e)) :
    Traces act obs A (Lib.attempt x) s l P X := by
  refine wp_attempt.2 (wp_mono h fun tr r s' hp hA => ?_)
  have hp := hp hA
  cases r with
  | ok | error => exact hp

theorem onError {f : δ → ε} {x : ExceptT δ (Prog C R) α}
    (h : Traces act obs A x s l Q fun e => X (f e)) : Traces act obs A (Lib.onError f x) s l Q X := by
  refine wp_onError.2 (wp_mono h fun tr r s' hp hA => ?_)
  have hp := hp hA
  cases r with
  | ok | error => exact hp

end Traces

end

end NomadCsi.Lib
