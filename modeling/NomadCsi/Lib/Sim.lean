import NomadCsi.Lib.Hoare

/-!
# Outcomes, and simulation of one program by another

`Reaches act x s r s'`: some run of `x` from `s` ends with the outcome `r` in `s'`.
`Sim act S x y`: from states related by `S`, every outcome of `x` is one of `y`, in related
states. With `x` and `y` the same program it says that the program does not see what `S`
leaves open. One rule for each way of building a program that may fail.
-/

namespace NomadCsi.Lib

variable {C : Type} {R : C → Type} {σ ω ε δ α β : Type}

def Reaches (act : Act C R σ ω) (x : ExceptT ε (Prog C R) α) (s : σ)
    (r : Except ε α) (s' : σ) : Prop :=
  ∃ tr, Runs act x.run s tr r s'

variable {x : ExceptT ε (Prog C R) α} {r : Except ε α}

section

variable {act : Act C R σ ω} {s s' : σ}

theorem reaches_decided {r' : Except ε α} : Reaches act (decided r) s r' s' ↔ r' = r ∧ s' = s := by
  constructor
  · rintro ⟨tr, h⟩
    exact (runs_ret.1 h).2
  · rintro ⟨rfl, rfl⟩
    exact ⟨[], runs_ret.2 ⟨rfl, rfl, rfl⟩⟩

theorem reaches_call {c : C} {k : R c → Except ε α} :
    Reaches act (ExceptT.mk (Prog.call c fun r => .ret (k r))) s r s' ↔
      ∃ ch, r = k (act s c ch).1 ∧ s' = (act s c ch).2 := by
  constructor
  · rintro ⟨tr, h⟩
    obtain ⟨ch, tr', -, hk⟩ := runs_call.1 h
    exact ⟨ch, (runs_ret.1 hk).2⟩
  · rintro ⟨ch, rfl, rfl⟩
    exact ⟨_, runs_call.2 ⟨ch, [], rfl, runs_ret.2 ⟨rfl, rfl, rfl⟩⟩⟩

theorem reaches_bind {f : α → ExceptT ε (Prog C R) β} {r : Except ε β} :
    Reaches act (x >>= f) s r s' ↔ (∃ e, r = .error e ∧ Reaches act x s (.error e) s') ∨
      ∃ a s1, Reaches act x s (.ok a) s1 ∧ Reaches act (f a) s1 r s' := by
  constructor
  · rintro ⟨tr, h⟩
    rcases runs_run_bind.1 h with ⟨e, hr, he⟩ | ⟨tr1, a, s1, tr2, -, h1, h2⟩
    · exact .inl ⟨e, hr, tr, he⟩
    · exact .inr ⟨a, s1, ⟨tr1, h1⟩, tr2, h2⟩
  · rintro (⟨e, hr, tr, he⟩ | ⟨a, s1, ⟨tr1, h1⟩, tr2, h2⟩)
    · exact ⟨tr, runs_run_bind.2 (.inl ⟨e, hr, he⟩)⟩
    · exact ⟨_, runs_run_bind.2 (.inr ⟨tr1, a, s1, tr2, rfl, h1, h2⟩)⟩

theorem reaches_mapOutcome {f : Except ε α → Except δ β} {r : Except δ β} :
    Reaches act (ExceptT.mk (x.run >>= fun r => .ret (f r)) : ExceptT δ (Prog C R) β) s r s' ↔
      ∃ r0, r = f r0 ∧ Reaches act x s r0 s' := by
  constructor
  · rintro ⟨tr, h⟩
    obtain ⟨tr1, r0, s1, tr2, -, h1, h2⟩ := runs_bind.1 h
    obtain ⟨-, rfl, rfl⟩ := runs_ret.1 h2
    exact ⟨r0, rfl, tr1, h1⟩
  · rintro ⟨r0, rfl, tr, h⟩
    exact ⟨_, runs_bind.2 ⟨tr, r0, s', [], rfl, h, runs_ret.2 ⟨rfl, rfl, rfl⟩⟩⟩

theorem Reaches.attempt (h : Reaches act x s r s') :
    Reaches act (Lib.attempt x : ExceptT δ (Prog C R) (Except ε α)) s (.ok r) s' :=
  reaches_mapOutcome.2 ⟨r, rfl, h⟩

theorem Ends.reaches {E : Event C R σ ω → Prop} {Q : α → σ → Prop} {X : ε → σ → Prop}
    (h : Ends act E x s Q X) (hr : Reaches act x s r s') : Outcome Q X r s' := by
  obtain ⟨tr, hr⟩ := hr
  exact (h.runs hr).2

variable (act) in
theorem exists_reaches [Nonempty ω] (x : ExceptT ε (Prog C R) α) (s : σ) :
    ∃ r s', Reaches act x s r s' := by
  obtain ⟨tr, r, s', h⟩ := exists_runs act x.run s
  exact ⟨r, s', tr, h⟩

end

def Sim (act : Act C R σ ω) (S : σ → σ → Prop) (x y : ExceptT ε (Prog C R) α) :
    Prop :=
  ∀ s t r s', S s t → Reaches act x s r s' → ∃ t', Reaches act y t r t' ∧ S s' t'

variable {y : ExceptT ε (Prog C R) α}

namespace Sim

variable {act : Act C R σ ω} {S : σ → σ → Prop}

theorem decided (r : Except ε α) : Sim act S (Lib.decided r) (Lib.decided r) := by
  intro s t r' s' hS h
  obtain ⟨rfl, rfl⟩ := reaches_decided.1 h
  exact ⟨t, reaches_decided.2 ⟨rfl, rfl⟩, hS⟩

theorem pure (a : α) : Sim act S (Pure.pure a : ExceptT ε (Prog C R) α) (Pure.pure a) :=
  decided (.ok a)

theorem throw (e : ε) :
    Sim act S (MonadExcept.throw e : ExceptT ε (Prog C R) α) (MonadExcept.throw e) :=
  decided (.error e)

theorem call {c d : C} (k : R c → Except ε α) (k' : R d → Except ε α)
    (h : ∀ s t ch, S s t → ∃ ch', k' (act t d ch').1 = k (act s c ch).1 ∧
      S (act s c ch).2 (act t d ch').2) :
    Sim act S (ExceptT.mk (Prog.call c fun r => .ret (k r)))
      (ExceptT.mk (Prog.call d fun r => .ret (k' r))) := by
  intro s t r s' hS hr
  obtain ⟨ch, rfl, rfl⟩ := reaches_call.1 hr
  obtain ⟨ch', hr', hS'⟩ := h s t ch hS
  exact ⟨_, reaches_call.2 ⟨ch', hr'.symm, rfl⟩, hS'⟩

theorem perform {c : C} (h : ∀ s t ch, S s t → ∃ ch', (act t c ch').1 = (act s c ch).1 ∧
    S (act s c ch).2 (act t c ch').2) :
    Sim act S (Lib.perform c : ExceptT ε (Prog C R) (R c)) (Lib.perform c) := by
  refine call .ok .ok fun s t ch hS => ?_
  obtain ⟨ch', hr, hS'⟩ := h s t ch hS
  exact ⟨ch', congrArg Except.ok hr, hS'⟩

theorem bind {f g : α → ExceptT ε (Prog C R) β} (hx : Sim act S x y)
    (hf : ∀ a, Sim act S (f a) (g a)) : Sim act S (x >>= f) (y >>= g) := by
  intro s t r s' hS h
  rcases reaches_bind.1 h with ⟨e, rfl, he⟩ | ⟨a, s1, h1, h2⟩
  · obtain ⟨t', h', hS'⟩ := hx s t _ _ hS he
    exact ⟨t', reaches_bind.2 (.inl ⟨e, rfl, h'⟩), hS'⟩
  · obtain ⟨t1, h1', hS1⟩ := hx s t _ _ hS h1
    obtain ⟨t', h2', hS'⟩ := hf a s1 t1 _ _ hS1 h2
    exact ⟨t', reaches_bind.2 (.inr ⟨a, t1, h1', h2'⟩), hS'⟩

theorem mapOutcome (hx : Sim act S x y) (f : Except ε α → Except δ β) :
    Sim act S (ExceptT.mk (x.run >>= fun r => .ret (f r)) : ExceptT δ (Prog C R) β)
      (ExceptT.mk (y.run >>= fun r => .ret (f r))) := by
  intro s t r s' hS h
  obtain ⟨r0, rfl, h0⟩ := reaches_mapOutcome.1 h
  obtain ⟨t', h', hS'⟩ := hx s t _ _ hS h0
  exact ⟨t', reaches_mapOutcome.2 ⟨r0, rfl, h'⟩, hS'⟩

theorem attempt (hx : Sim act S x y) :
    Sim act S (Lib.attempt x : ExceptT δ (Prog C R) (Except ε α)) (Lib.attempt y) :=
  hx.mapOutcome .ok

theorem onError {f : ε → δ} (hx : Sim act S x y) : Sim act S (Lib.onError f x) (Lib.onError f y) :=
  hx.mapOutcome (·.mapError f)

end Sim

end NomadCsi.Lib
