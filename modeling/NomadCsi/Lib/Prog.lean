import Mathlib.Data.List.Basic

/-!
# Programs that call out

A `Prog C R α` computes an `α`; on the way it issues calls `c : C`, each answered
by a reply of type `R c`. What a call does is not part of the program: a system
`act : σ → (c : C) → ω → R c × σ` answers it in a state of type `σ`, and `ω` is the
part of the answer the system leaves open (a fault, a fresh index, a clock reading).

`Steps act p s tr q s'` is a partial run with its trace of calls, `Runs` a complete
one. `wp act p s Q` says that every run of `p` from `s` ends with `Q` of its trace,
result and final state; `wp_iff` identifies it with the quantification over `Runs`,
and `wp_bind` and `wp_mono` are the rules the proofs about concrete programs use.
`exec` runs a program on a list of choices, for concrete runs.
-/

namespace NomadCsi.Lib

theorem mem_snoc {α : Type*} {l : List α} {x y : α} : x ∈ l ++ [y] ↔ x ∈ l ∨ x = y := by simp

inductive Prog (C : Type) (R : C → Type) (α : Type) where
  | ret (a : α)
  | call (c : C) (k : R c → Prog C R α)

namespace Prog

variable {C : Type} {R : C → Type} {α β γ : Type}

def bind : Prog C R α → (α → Prog C R β) → Prog C R β
  | .ret a, f => f a
  | .call c k, f => .call c fun r => (k r).bind f

instance : Monad (Prog C R) where
  pure := .ret
  bind := Prog.bind

/-- Issue one call and return its reply. -/
def lift (c : C) : Prog C R (R c) := .call c .ret

@[simp] theorem pure_eq (a : α) : (pure a : Prog C R α) = .ret a := rfl

@[simp] theorem ret_bind (a : α) (f : α → Prog C R β) : ((.ret a : Prog C R α) >>= f) = f a := rfl

@[simp] theorem call_bind (c : C) (k : R c → Prog C R α) (f : α → Prog C R β) :
    ((.call c k : Prog C R α) >>= f) = .call c fun r => k r >>= f := rfl

theorem bind_assoc (p : Prog C R α) (f : α → Prog C R β) (g : β → Prog C R γ) :
    (p >>= f) >>= g = p >>= fun a => f a >>= g := by
  induction p with
  | ret a => rfl
  | call c k ih =>
    simp only [call_bind]
    congr 1
    funext r
    exact ih r

theorem bind_ret (p : Prog C R α) : (p >>= .ret) = p := by
  induction p with
  | ret a => rfl
  | call c k ih =>
    simp only [call_bind]
    congr 1
    funext r
    exact ih r

instance : LawfulMonad (Prog C R) :=
  LawfulMonad.mk' (Prog C R) bind_ret (fun _ _ => rfl) bind_assoc

/-- Every call the program can issue, whatever the replies, satisfies `K`. -/
def Calls (K : C → Prop) : Prog C R α → Prop
  | .ret _ => True
  | .call c k => K c ∧ ∀ r, (k r).Calls K

variable {K : C → Prop}

theorem Calls.bind {p : Prog C R α} {f : α → Prog C R β} (hp : p.Calls K) (hf : ∀ a, (f a).Calls K) :
    (p >>= f).Calls K := by
  induction p with
  | ret a => exact hf a
  | call c k ih => exact ⟨hp.1, fun r => ih r (hp.2 r)⟩

theorem Calls.mono {L : C → Prop} (hKL : ∀ c, K c → L c) {p : Prog C R α} (hp : p.Calls K) :
    p.Calls L := by
  induction p with
  | ret a => trivial
  | call c k ih => exact ⟨hKL c hp.1, fun r => ih r (hp.2 r)⟩

theorem calls_true (p : Prog C R α) : p.Calls fun _ => True := by
  induction p with
  | ret a => trivial
  | call c k ih => exact ⟨trivial, ih⟩

theorem calls_lift_bind {c : C} {f : R c → Prog C R α} (hc : K c) (hf : ∀ r, (f r).Calls K) :
    (lift c >>= f).Calls K :=
  ⟨hc, hf⟩

end Prog

/-- One call of a run: the state it was issued in, the call, the system's choice, the reply. -/
structure Event (C : Type) (R : C → Type) (σ ω : Type) where
  pre : σ
  call : C
  choice : ω
  reply : R call

/-- What answers the calls. -/
abbrev Act (C : Type) (R : C → Type) (σ ω : Type) : Type := σ → (c : C) → ω → R c × σ

section Semantics

variable {C : Type} {R : C → Type} {σ ω α β : Type} (act : Act C R σ ω)

/-- A partial run of `p` from `s` to the remaining program `q` in `s'`. -/
inductive Steps : Prog C R α → σ → List (Event C R σ ω) → Prog C R α → σ → Prop where
  | refl (p : Prog C R α) (s : σ) : Steps p s [] p s
  | call {c : C} {k : R c → Prog C R α} {s s' : σ} {tr : List (Event C R σ ω)} {q : Prog C R α}
      (ch : ω) : Steps (k (act s c ch).1) (act s c ch).2 tr q s' →
      Steps (.call c k) s (⟨s, c, ch, (act s c ch).1⟩ :: tr) q s'

/-- A complete run: `p` from `s` issues `tr`, returns `a` and ends in `s'`. -/
def Runs (p : Prog C R α) (s : σ) (tr : List (Event C R σ ω)) (a : α) (s' : σ) : Prop :=
  Steps act p s tr (.ret a) s'

/-- Every run of `p` from `s` ends with `Q`. -/
def wp : Prog C R α → σ → (List (Event C R σ ω) → α → σ → Prop) → Prop
  | .ret a, s, Q => Q [] a s
  | .call c k, s, Q => ∀ ch : ω,
      wp (k (act s c ch).1) (act s c ch).2 fun tr => Q (⟨s, c, ch, (act s c ch).1⟩ :: tr)

/-- Run `p` on a list of choices, one for each call. -/
def exec : Prog C R α → σ → List ω → Option (List (Event C R σ ω) × α × σ)
  | .ret a, s, _ => some ([], a, s)
  | .call _ _, _, [] => none
  | .call c k, s, ch :: chs =>
    (exec (k (act s c ch).1) (act s c ch).2 chs).map fun r =>
      (⟨s, c, ch, (act s c ch).1⟩ :: r.1, r.2)

variable {act}

variable {tr : List (Event C R σ ω)} {s s' : σ} {a : α}

@[simp] theorem runs_ret {b : α} : Runs act (.ret a) s tr b s' ↔ tr = [] ∧ b = a ∧ s' = s := by
  constructor
  · intro h
    cases h
    exact ⟨rfl, rfl, rfl⟩
  · rintro ⟨rfl, rfl, rfl⟩
    exact .refl _ _

variable {c : C}

theorem runs_call {k : R c → Prog C R α} :
    Runs act (.call c k) s tr a s' ↔ ∃ ch tr', tr = ⟨s, c, ch, (act s c ch).1⟩ :: tr' ∧
      Runs act (k (act s c ch).1) (act s c ch).2 tr' a s' := by
  constructor
  · intro h
    cases h with
    | call ch h => exact ⟨ch, _, rfl, h⟩
  · rintro ⟨ch, tr', rfl, h⟩
    exact .call ch h

variable {p : Prog C R α} {Q : List (Event C R σ ω) → α → σ → Prop}

theorem wp_iff : wp act p s Q ↔ ∀ tr a s', Runs act p s tr a s' → Q tr a s' := by
  induction p generalizing s Q with
  | ret a =>
    simp only [wp, runs_ret]
    constructor
    · rintro h _ _ _ ⟨rfl, rfl, rfl⟩
      exact h
    · intro h
      exact h [] a s ⟨rfl, rfl, rfl⟩
  | call c k ih =>
    simp only [wp, ih, runs_call]
    constructor
    · rintro h tr a s' ⟨ch, tr', rfl, hr⟩
      exact h ch tr' a s' hr
    · intro h ch tr' a s' hr
      exact h _ a s' ⟨ch, tr', rfl, hr⟩

theorem wp_mono {P : List (Event C R σ ω) → α → σ → Prop} (h : wp act p s P)
    (hi : ∀ tr a s', P tr a s' → Q tr a s') : wp act p s Q :=
  wp_iff.2 fun tr a s' hr => hi tr a s' (wp_iff.1 h tr a s' hr)

theorem wp_and {P : List (Event C R σ ω) → α → σ → Prop} (h1 : wp act p s P) (h2 : wp act p s Q) :
    wp act p s fun tr a s' => P tr a s' ∧ Q tr a s' :=
  wp_iff.2 fun tr a s' hr => ⟨wp_iff.1 h1 tr a s' hr, wp_iff.1 h2 tr a s' hr⟩

theorem wp_bind {f : α → Prog C R β} {Q : List (Event C R σ ω) → β → σ → Prop} :
    wp act (p >>= f) s Q ↔
      wp act p s fun tr a s' => wp act (f a) s' fun tr' => Q (tr ++ tr') := by
  induction p generalizing s Q with
  | ret a => simp [wp]
  | call c k ih => simp only [Prog.call_bind, wp, ih, List.cons_append]

theorem wp_lift_bind {f : R c → Prog C R α} :
    wp act (Prog.lift c >>= f) s Q ↔ ∀ ch, wp act (f (act s c ch).1) (act s c ch).2
      fun tr => Q (⟨s, c, ch, (act s c ch).1⟩ :: tr) := Iff.rfl

theorem Steps.snoc {k : R c → Prog C R α} (h : Steps act p s tr (.call c k) s') (ch : ω) :
    Steps act p s (tr ++ [⟨s', c, ch, (act s' c ch).1⟩]) (k (act s' c ch).1) (act s' c ch).2 := by
  generalize hq : Prog.call c k = q at h
  induction h with
  | refl p s =>
    subst hq
    exact .call ch (.refl _ _)
  | call ch' _ ih => exact .call ch' (ih hq)

theorem wp_steps {q : Prog C R α} (hs : Steps act p s tr q s') (h : wp act p s Q) :
    wp act q s' fun tr' => Q (tr ++ tr') := by
  induction hs generalizing Q with
  | refl p s => exact h
  | call ch _ ih => exact ih (h ch)

theorem runs_answer {f : R c → α} {r : R c} (h : act s c ch = (r, s')) :
    Runs act (.call c fun r => .ret (f r)) s [⟨s, c, ch, r⟩] (f r) s' := by
  refine runs_call.2 ⟨ch, [], ?_, ?_⟩
  · rw [h]
  · rw [h]
    exact runs_ret.2 ⟨rfl, rfl, rfl⟩

variable (act) in
theorem exists_runs [Nonempty ω] (p : Prog C R α) (s : σ) : ∃ tr a s', Runs act p s tr a s' := by
  induction p generalizing s with
  | ret a => exact ⟨[], a, s, .refl _ _⟩
  | call c k ih =>
    obtain ⟨ch⟩ := ‹Nonempty ω›
    obtain ⟨tr, a, s', h⟩ := ih (act s c ch).1 (act s c ch).2
    exact ⟨_, a, s', .call ch h⟩

theorem runs_bind {f : α → Prog C R β} {b : β} :
    Runs act (p >>= f) s tr b s' ↔ ∃ tr1 a s1 tr2, tr = tr1 ++ tr2 ∧
      Runs act p s tr1 a s1 ∧ Runs act (f a) s1 tr2 b s' := by
  constructor
  · intro h
    have hall : wp act (p >>= f) s fun tr b s' => ∃ tr1 a s1 tr2, tr = tr1 ++ tr2 ∧
        Runs act p s tr1 a s1 ∧ Runs act (f a) s1 tr2 b s' :=
      wp_bind.2 (wp_iff.2 fun tr1 a s1 h1 => wp_iff.2 fun tr2 b s' h2 =>
        ⟨tr1, a, s1, tr2, rfl, h1, h2⟩)
    exact wp_iff.1 hall tr b s' h
  · rintro ⟨tr1, a, s1, tr2, rfl, h1, h2⟩
    induction p generalizing s tr1 with
    | ret x =>
      obtain ⟨rfl, rfl, rfl⟩ := runs_ret.1 h1
      exact h2
    | call c k ih =>
      obtain ⟨ch, t, rfl, h⟩ := runs_call.1 h1
      exact runs_call.2 ⟨ch, _, rfl, ih _ _ h⟩

theorem runs_bind_ret {f : α → β} {b : β} :
    Runs act (p >>= fun a => .ret (f a)) s tr b s' ↔ ∃ a, Runs act p s tr a s' ∧ b = f a := by
  rw [runs_bind]
  constructor
  · rintro ⟨tr1, a, s1, tr2, rfl, h, hret⟩
    obtain ⟨rfl, rfl, rfl⟩ := runs_ret.1 hret
    exact ⟨a, by rwa [List.append_nil], rfl⟩
  · rintro ⟨a, h, rfl⟩
    exact ⟨tr, a, s', [], (List.append_nil tr).symm, h, runs_ret.2 ⟨rfl, rfl, rfl⟩⟩

/-- The beginning of a trace determines a run that fits in it. -/
theorem Runs.unique {s1 s2 : σ} {tr1 tr2 : List (Event C R σ ω)} {b : α}
    (h1 : Runs act p s tr1 a s1) (h2 : Runs act p s tr2 b s2) (hp1 : tr1 <+: tr) (hp2 : tr2 <+: tr) :
    tr1 = tr2 ∧ a = b ∧ s1 = s2 := by
  induction p generalizing s tr tr1 tr2 with
  | ret x =>
    obtain ⟨rfl, rfl, rfl⟩ := runs_ret.1 h1
    obtain ⟨rfl, rfl, rfl⟩ := runs_ret.1 h2
    exact ⟨rfl, rfl, rfl⟩
  | call c k ih =>
    obtain ⟨ch1, t1, rfl, hk1⟩ := runs_call.1 h1
    obtain ⟨ch2, t2, rfl, hk2⟩ := runs_call.1 h2
    cases tr with
    | nil => simp at hp1
    | cons e t =>
      obtain ⟨he1, ht1⟩ := List.cons_prefix_cons.1 hp1
      obtain ⟨he2, ht2⟩ := List.cons_prefix_cons.1 hp2
      obtain rfl : ch1 = ch2 := congrArg Event.choice (he1.trans he2.symm)
      obtain ⟨rfl, hab⟩ := ih _ hk1 hk2 ht1 ht2
      exact ⟨rfl, hab⟩

variable {K : C → Prop}

theorem Runs.calls (h : Runs act p s tr a s') (hp : p.Calls K) : ∀ e ∈ tr, K e.call := by
  induction p generalizing s tr with
  | ret x =>
    obtain ⟨rfl, -⟩ := runs_ret.1 h
    simp
  | call c k ih =>
    obtain ⟨ch, t, rfl, hk⟩ := runs_call.1 h
    intro e he
    rcases List.mem_cons.1 he with rfl | he
    · exact hp.1
    · exact ih _ hk (hp.2 _) e he

theorem wp_of_calls (hp : p.Calls K) (s : σ) : wp act p s fun tr _ _ => ∀ e ∈ tr, K e.call :=
  wp_iff.2 fun _ _ _ h => h.calls hp

/-- What every answer to a call of kind `K` keeps, a run of such calls keeps. -/
theorem Runs.invariant {I : σ → Prop} (hstep : ∀ s c ch, K c → I s → I (act s c ch).2)
    (h : Runs act p s tr a s') (hp : p.Calls K) (hI : I s) : (∀ e ∈ tr, I e.pre) ∧ I s' := by
  induction p generalizing s tr with
  | ret x =>
    obtain ⟨rfl, -, rfl⟩ := runs_ret.1 h
    exact ⟨by simp, hI⟩
  | call c k ih =>
    obtain ⟨ch, t, rfl, hk⟩ := runs_call.1 h
    obtain ⟨hpre, hend⟩ := ih _ hk (hp.2 _) (hstep s c ch hp.1 hI)
    refine ⟨fun e he => ?_, hend⟩
    rcases List.mem_cons.1 he with rfl | he
    · exact hI
    · exact hpre e he

/-- A record that each call adds to: what every answer to a call of kind `K` keeps of the state and
the record, a run of such calls keeps. -/
theorem Runs.fold {γ : Type} {I : σ → γ → Prop} {note : γ → Event C R σ ω → γ} {g : γ}
    (hstep : ∀ s g c ch, K c → I s g → I (act s c ch).2 (note g ⟨s, c, ch, (act s c ch).1⟩))
    (h : Runs act p s tr a s') (hp : p.Calls K) (hI : I s g) : I s' (tr.foldl note g) := by
  induction p generalizing s g tr with
  | ret x =>
    obtain ⟨rfl, -, rfl⟩ := runs_ret.1 h
    exact hI
  | call c k ih =>
    obtain ⟨ch, t, rfl, hk⟩ := runs_call.1 h
    rw [List.foldl_cons]
    exact ih _ hk (hp.2 _) (hstep s g c ch hp.1 hI)

/-- A preorder that every call of a run goes up in: the states of the run, in their order. -/
theorem Runs.chain {T : σ → σ → Prop} (hrefl : ∀ s, T s s) (htrans : ∀ s t u, T s t → T t u → T s u)
    (h : Runs act p s tr a s') (hstep : ∀ e ∈ tr, T e.pre (act e.pre e.call e.choice).2) :
    T s s' ∧ (∀ e ∈ tr, T s e.pre ∧ T (act e.pre e.call e.choice).2 s') ∧
      tr.Pairwise fun e e' => T (act e.pre e.call e.choice).2 e'.pre := by
  induction p generalizing s tr with
  | ret x =>
    obtain ⟨rfl, -, rfl⟩ := runs_ret.1 h
    exact ⟨hrefl _, by simp, .nil⟩
  | call c k ih =>
    obtain ⟨ch, t, rfl, hk⟩ := runs_call.1 h
    obtain ⟨hend, hall, hpair⟩ := ih _ hk fun e he => hstep e (.tail _ he)
    have hfirst := hstep _ (.head _)
    refine ⟨htrans _ _ _ hfirst hend, fun e he => ?_, .cons (fun e he => (hall e he).1) hpair⟩
    rcases List.mem_cons.1 he with rfl | he
    · exact ⟨hrefl _, hend⟩
    · exact ⟨htrans _ _ _ hfirst (hall e he).1, (hall e he).2⟩

variable (act) in
theorem exec_runs (p : Prog C R α) (s : σ) (chs : List ω) {s' : σ} {tr : List (Event C R σ ω)}
    {a : α} (h : exec act p s chs = some (tr, a, s')) : Runs act p s tr a s' := by
  induction p generalizing s chs tr with
  | ret x =>
    simp only [exec, Option.some.injEq, Prod.mk.injEq] at h
    obtain ⟨rfl, rfl, rfl⟩ := h
    exact .refl _ _
  | call c k ih =>
    cases chs with
    | nil => simp [exec] at h
    | cons ch chs =>
      simp only [exec, Option.map_eq_some_iff] at h
      obtain ⟨⟨t, b, s1⟩, he, heq⟩ := h
      simp only [Prod.mk.injEq] at heq
      obtain ⟨rfl, rfl, rfl⟩ := heq
      exact .call ch (ih _ _ chs he)

variable (act) in
/-- A concrete run, and what evaluation shows of it. -/
theorem runs_of_exec (p : Prog C R α) (s : σ) (chs : List ω)
    (P : List (Event C R σ ω) × α × σ → Prop) [DecidablePred P]
    (h : ((exec act p s chs).any fun r => decide (P r)) = true) :
    ∃ tr a s', Runs act p s tr a s' ∧ P (tr, a, s') := by
  obtain ⟨⟨tr, a, s'⟩, he, hr⟩ := (Option.any_eq_true _ _).1 h
  exact ⟨tr, a, s', exec_runs act p s chs he, of_decide_eq_true hr⟩

variable (act) in
theorem runs_ok_of_exec {ε : Type} (p : Prog C R (Except ε α)) (s : σ) (chs : List ω)
    (P : List (Event C R σ ω) × α × σ → Prop) [DecidablePred P]
    (h : ((exec act p s chs).any fun r =>
      r.2.1.toOption.any fun a => decide (P (r.1, a, r.2.2))) = true) :
    ∃ tr a s', Runs act p s tr (.ok a) s' ∧ P (tr, a, s') := by
  obtain ⟨⟨tr, r, s'⟩, he, hr⟩ := (Option.any_eq_true _ _).1 h
  cases r with
  | error e => cases hr
  | ok a => exact ⟨tr, a, s', exec_runs act p s chs he, of_decide_eq_true hr⟩

/-! ### Programs that may fail

`ExceptT ε (Prog C R)` is a program that may end in an error `ε`. -/

variable {ε δ : Type}

/-- A call whose reply is its result. -/
def perform (c : C) : ExceptT ε (Prog C R) (R c) := ExceptT.lift (Prog.lift c)

def decided (r : Except ε α) : ExceptT ε (Prog C R) α := ExceptT.mk (.ret r)

@[simp] theorem decided_ok_bind (a : α) (f : α → ExceptT ε (Prog C R) β) :
    (decided (.ok a) >>= f) = f a := rfl

def attempt (x : ExceptT ε (Prog C R) α) : ExceptT δ (Prog C R) (Except ε α) :=
  ExceptT.lift x.run

def onError (f : ε → δ) (x : ExceptT ε (Prog C R) α) : ExceptT δ (Prog C R) α :=
  ExceptT.mk (x.run >>= fun r => .ret (r.mapError f))

variable {x : ExceptT ε (Prog C R) α} {f : α → ExceptT ε (Prog C R) β}

theorem calls_run_bind (hx : x.run.Calls K) (hf : ∀ a, (f a).run.Calls K) :
    (x >>= f).run.Calls K := by
  rw [ExceptT.run_bind]
  refine hx.bind fun r => ?_
  cases r with
  | ok a => exact hf a
  | error e => trivial

theorem calls_perform (hc : K c) : (perform c : ExceptT ε (Prog C R) (R c)).run.Calls K :=
  ⟨hc, fun _ => trivial⟩

theorem calls_attempt (hx : x.run.Calls K) :
    (attempt x : ExceptT δ (Prog C R) (Except ε α)).run.Calls K :=
  hx.bind fun _ => trivial

theorem calls_onError {f : ε → δ} (hx : x.run.Calls K) : (onError f x).run.Calls K :=
  hx.bind fun _ => trivial

@[simp] theorem wp_run_pure {Q : List (Event C R σ ω) → Except ε α → σ → Prop} :
    wp act (pure a : ExceptT ε (Prog C R) α).run s Q ↔ Q [] (.ok a) s := Iff.rfl

@[simp] theorem wp_run_throw {e : ε} {Q : List (Event C R σ ω) → Except ε α → σ → Prop} :
    wp act (throw e : ExceptT ε (Prog C R) α).run s Q ↔ Q [] (.error e) s := Iff.rfl

@[simp] theorem wp_perform {Q : List (Event C R σ ω) → Except ε (R c) → σ → Prop} :
    wp act (perform c : ExceptT ε (Prog C R) (R c)).run s Q ↔
      ∀ ch, Q [⟨s, c, ch, (act s c ch).1⟩] (.ok (act s c ch).1) (act s c ch).2 := Iff.rfl

theorem wp_run_lift {Q : List (Event C R σ ω) → Except ε α → σ → Prop} :
    wp act (ExceptT.lift p : ExceptT ε (Prog C R) α).run s Q ↔
      wp act p s fun tr a => Q tr (.ok a) := by
  change wp act (p >>= fun a => .ret (.ok a)) s Q ↔ _
  simp only [wp_bind, wp, List.append_nil]

theorem wp_attempt {Q : List (Event C R σ ω) → Except δ (Except ε α) → σ → Prop} :
    wp act (attempt x).run s Q ↔ wp act x.run s fun tr r => Q tr (.ok r) := wp_run_lift

theorem runs_attempt {r : Except δ (Except ε α)} :
    Runs act (attempt x : ExceptT δ (Prog C R) (Except ε α)).run s tr r s' ↔
      ∃ a, r = .ok a ∧ Runs act x.run s tr a s' := by
  change Runs act (x.run >>= fun a => .ret (Except.ok a)) s tr r s' ↔ _
  simp only [runs_bind_ret, and_comm]

theorem wp_onError {f : ε → δ} {Q : List (Event C R σ ω) → Except δ α → σ → Prop} :
    wp act (onError f x).run s Q ↔ wp act x.run s fun tr r => Q tr (r.mapError f) := by
  change wp act (x.run >>= fun r => .ret (r.mapError f)) s Q ↔ _
  simp only [wp_bind, wp, List.append_nil]

theorem runs_onError_ok {f : ε → δ} (h : Runs act (onError f x).run s tr (.ok a) s') :
    Runs act x.run s tr (.ok a) s' := by
  obtain ⟨r, hr, ha⟩ := runs_bind_ret.1 h
  cases r with
  | ok b =>
    cases ha
    exact hr
  | error e => cases ha

theorem wp_run_bind {Q : List (Event C R σ ω) → Except ε β → σ → Prop} :
    wp act (x >>= f).run s Q ↔ wp act x.run s fun tr r s' =>
      match r with
      | .ok a => wp act (f a).run s' fun tr' => Q (tr ++ tr')
      | .error e => Q tr (.error e) s' := by
  rw [ExceptT.run_bind, wp_bind]
  constructor
  all_goals
    refine fun h => wp_mono h fun tr r s' hr => ?_
    cases r with
    | ok a => exact hr
    | error e => simpa [wp] using hr

theorem runs_run_bind {r : Except ε β} : Runs act (x >>= f).run s tr r s' ↔
      (∃ e, r = .error e ∧ Runs act x.run s tr (.error e) s') ∨
      ∃ tr1 a s1 tr2, tr = tr1 ++ tr2 ∧ Runs act x.run s tr1 (.ok a) s1 ∧
        Runs act (f a).run s1 tr2 r s' := by
  rw [ExceptT.run_bind, runs_bind]
  constructor
  · rintro ⟨tr1, y, s1, tr2, rfl, h1, h2⟩
    cases y with
    | ok a => exact .inr ⟨tr1, a, s1, tr2, rfl, h1, h2⟩
    | error e =>
      obtain ⟨rfl, rfl, rfl⟩ := runs_ret.1 h2
      exact .inl ⟨e, rfl, by rwa [List.append_nil]⟩
  · rintro (⟨e, rfl, h⟩ | ⟨tr1, a, s1, tr2, rfl, h1, h2⟩)
    · exact ⟨tr, .error e, s', [], (List.append_nil _).symm, h, runs_ret.2 ⟨rfl, rfl, rfl⟩⟩
    · exact ⟨tr1, .ok a, s1, tr2, rfl, h1, h2⟩

theorem runs_run_bind_ok {b : β} : Runs act (x >>= f).run s tr (.ok b) s' ↔
      ∃ tr1 a s1 tr2, tr = tr1 ++ tr2 ∧ Runs act x.run s tr1 (.ok a) s1 ∧
        Runs act (f a).run s1 tr2 (.ok b) s' := by
  rw [runs_run_bind]
  refine or_iff_right ?_
  rintro ⟨e, he, -⟩
  cases he

/-- What every call of a sequence's runs meets, the calls of its first part meet. -/
theorem wp_always_left [Nonempty ω] {E : Event C R σ ω → Prop}
    (h : wp act (x >>= f).run s fun tr _ _ => ∀ e ∈ tr, E e) :
    wp act x.run s fun tr _ _ => ∀ e ∈ tr, E e := by
  refine wp_iff.2 fun tr r s' hx e he => ?_
  cases r with
  | error err => exact wp_iff.1 h _ _ _ (runs_run_bind.2 (.inl ⟨err, rfl, hx⟩)) e he
  | ok a =>
    obtain ⟨tr', r', s'', hf⟩ := exists_runs act (f a).run s'
    exact wp_iff.1 h _ _ _ (runs_run_bind.2 (.inr ⟨tr, a, s', tr', rfl, hx, hf⟩)) e
      (List.mem_append_left _ he)

theorem wp_always_right {E : Event C R σ ω → Prop}
    (h : wp act (x >>= f).run s fun tr _ _ => ∀ e ∈ tr, E e) (hx : Runs act x.run s tr (.ok a) s') :
    wp act (f a).run s' fun tr _ _ => ∀ e ∈ tr, E e :=
  wp_iff.2 fun tr' _ _ hf e he => wp_iff.1 h _ _ _
    (runs_run_bind.2 (.inr ⟨tr, a, s', tr', rfl, hx, hf⟩)) e (List.mem_append_right _ he)

theorem runs_pair {y : ExceptT ε (Prog C R) β} {b : β}
    (h : Runs act (x >>= fun a => y >>= fun b => pure (a, b)).run s tr (.ok (a, b)) s') :
    ∃ tr1 s1 tr2, Runs act x.run s tr1 (.ok a) s1 ∧ Runs act y.run s1 tr2 (.ok b) s' := by
  obtain ⟨tr1, a', s1, tr2, -, h1, h2⟩ := runs_run_bind_ok.1 h
  obtain ⟨tr3, b', s2, tr4, -, h3, h4⟩ := runs_run_bind_ok.1 h2
  obtain ⟨-, hab, rfl⟩ := runs_ret.1 h4
  cases hab
  exact ⟨tr1, s1, tr3, h1, h3⟩

end Semantics

end NomadCsi.Lib
