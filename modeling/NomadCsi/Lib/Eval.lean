import NomadCsi.Lib.Hoare

/-!
# Runs without choices, and components

`eval act d p s` runs `p` with the choice `d` made at every call: the result of every run
in which the system makes no other choice (`Runs.eval`). `inject f` turns the calls of a
component into calls of a larger system; `Share` says that the system answers them in the
component's share of its state, and then a run of the one is a run of the other.
-/

namespace NomadCsi.Lib

section

variable {C : Type} {R : C → Type} {σ ω α β ε δ : Type}

/-- Run `p` with one choice made at every call. -/
def eval (act : Act C R σ ω) (d : ω) : Prog C R α → σ → α × σ
  | .ret a, s => (a, s)
  | .call c k, s => eval act d (k (act s c d).1) (act s c d).2

variable {act : Act C R σ ω} {d : ω}

variable {tr : List (Event C R σ ω)} {s' : σ}

theorem Runs.eval {p : Prog C R α} {s : σ} {a : α} (h : Runs act p s tr a s')
    (hd : ∀ e ∈ tr, e.choice = d) : eval act d p s = (a, s') := by
  induction p generalizing s tr with
  | ret x =>
    obtain ⟨-, rfl, rfl⟩ := runs_ret.1 h
    rfl
  | call c k ih =>
    obtain ⟨ch, t, rfl, hk⟩ := runs_call.1 h
    obtain rfl : ch = d := hd _ (.head _)
    exact ih _ hk fun e he => hd e (.tail _ he)

variable (act d) in
theorem runs_eval (p : Prog C R α) (s : σ) : ∃ tr, (∀ e ∈ tr, e.choice = d) ∧
    Runs act p s tr (eval act d p s).1 (eval act d p s).2 := by
  induction p generalizing s with
  | ret a => exact ⟨[], by simp, runs_ret.2 ⟨rfl, rfl, rfl⟩⟩
  | call c k ih =>
    obtain ⟨tr, hd, hr⟩ := ih (act s c d).1 (act s c d).2
    refine ⟨_, ?_, runs_call.2 ⟨d, tr, rfl, hr⟩⟩
    simpa using hd

theorem eval_bind (p : Prog C R α) (f : α → Prog C R β) (s : σ) :
    eval act d (p >>= f) s = eval act d (f (eval act d p s).1) (eval act d p s).2 := by
  induction p generalizing s with
  | ret a => rfl
  | call c k ih => exact ih _ _

@[simp] theorem eval_ret (a : α) (s : σ) : eval act d (.ret a : Prog C R α) s = (a, s) := rfl

@[simp] theorem eval_pure (a : α) (s : σ) :
    eval act d (pure a : ExceptT ε (Prog C R) α).run s = (.ok a, s) := rfl

@[simp] theorem eval_throw (e : ε) (s : σ) :
    eval act d (throw e : ExceptT ε (Prog C R) α).run s = (.error e, s) := rfl

@[simp] theorem eval_decided (r : Except ε α) (s : σ) :
    eval act d (decided r : ExceptT ε (Prog C R) α).run s = (r, s) := rfl

@[simp] theorem eval_perform (c : C) (s : σ) :
    eval act d (perform c : ExceptT ε (Prog C R) (R c)).run s =
      (.ok (act s c d).1, (act s c d).2) := rfl

@[simp] theorem eval_attempt (x : ExceptT ε (Prog C R) α) (s : σ) :
    eval act d (attempt x : ExceptT δ (Prog C R) (Except ε α)).run s =
      (.ok (eval act d x.run s).1, (eval act d x.run s).2) := by
  change eval act d (x.run >>= fun r => .ret (Except.ok r)) s = _
  rw [eval_bind]
  rfl

@[simp] theorem eval_onError (f : ε → δ) (x : ExceptT ε (Prog C R) α) (s : σ) :
    eval act d (onError f x).run s =
      ((eval act d x.run s).1.mapError f, (eval act d x.run s).2) := by
  change eval act d (x.run >>= fun r => .ret (r.mapError f)) s = _
  rw [eval_bind]
  rfl

theorem eval_run_bind (x : ExceptT ε (Prog C R) α) (f : α → ExceptT ε (Prog C R) β) (s : σ) :
    eval act d (x >>= f).run s =
      match eval act d x.run s with
      | (.ok a, s') => eval act d (f a).run s'
      | (.error e, s') => (.error e, s') := by
  rw [ExceptT.run_bind, eval_bind]
  rcases eval act d x.run s with ⟨_ | _, s'⟩
  · rfl
  · rfl

variable {x : ExceptT ε (Prog C R) α}

theorem eval_run_bind_eq_ok {f : α → ExceptT ε (Prog C R) β} {s : σ} {b : β} :
    eval act d (x >>= f).run s = (.ok b, s') ↔
      ∃ a s1, eval act d x.run s = (.ok a, s1) ∧ eval act d (f a).run s1 = (.ok b, s') := by
  rw [eval_run_bind]
  rcases eval act d x.run s with ⟨e | a, s1⟩
  · simp
  · simp

theorem eval_onError_eq_ok {f : ε → δ} {s : σ} {a : α} :
    eval act d (onError f x).run s = (.ok a, s') ↔ eval act d x.run s = (.ok a, s') := by
  rw [eval_onError]
  rcases eval act d x.run s with ⟨e | b, s1⟩
  · simp [Except.mapError]
  · simp [Except.mapError]

variable {r : Except ε α}

theorem Ends.eval {E : Event C R σ ω → Prop} {s : σ} {Q : α → σ → Prop} {X : ε → σ → Prop}
    (h : Ends act E x s Q X) (hr : Lib.eval act d x.run s = (r, s')) : Outcome Q X r s' := by
  obtain ⟨tr, -, hruns⟩ := runs_eval act d x.run s
  rw [hr] at hruns
  exact (h.runs hruns).2

/-- Without other choices than `d`, `x` ends in `Q` of its value or in `X` of its error. -/
def Evals (act : Act C R σ ω) (d : ω) (x : ExceptT ε (Prog C R) α) (s : σ)
    (Q : α → σ → Prop) (X : ε → σ → Prop) : Prop :=
  Outcome Q X (Lib.eval act d x.run s).1 (Lib.eval act d x.run s).2

namespace Evals

variable {s : σ} {P Q : α → σ → Prop} {X Y : ε → σ → Prop}

theorem of_ends {E : Event C R σ ω → Prop} (h : Ends act E x s Q X) :
    Evals act d x s Q X := h.eval rfl

theorem runs (h : Evals act d x s Q X) (hr : Runs act x.run s tr r s') (hd : ∀ e ∈ tr, e.choice = d) :
    Outcome Q X r s' := by
  unfold Evals at h
  rw [hr.eval hd] at h
  exact h

theorem both {I : σ → Prop} (h : Evals act d x s (fun _ => I) fun _ => I)
    (hr : Runs act x.run s tr r s') (hd : ∀ e ∈ tr, e.choice = d) : I s' := by
  have hout := h.runs hr hd
  cases r with
  | ok | error => exact hout

theorem mono (h : Evals act d x s P Y) (hQ : ∀ a s, P a s → Q a s) (hX : ∀ e s, Y e s → X e s) :
    Evals act d x s Q X := by
  unfold Evals at h ⊢
  cases hr : (Lib.eval act d x.run s).1 with
  | ok a =>
    rw [hr] at h
    exact hQ a _ h
  | error e =>
    rw [hr] at h
    exact hX e _ h

theorem weaken (h : Evals act d x s Q Y) (hX : ∀ e s, Y e s → X e s) : Evals act d x s Q X :=
  h.mono (fun _ _ h => h) hX

theorem and (h : Evals act d x s P X) (h' : Evals act d x s Q Y) :
    Evals act d x s (fun a s => P a s ∧ Q a s) fun e s => X e s ∧ Y e s := by
  unfold Evals at h h' ⊢
  cases hr : (Lib.eval act d x.run s).1 with
  | ok | error =>
    rw [hr] at h h'
    exact ⟨h, h'⟩

theorem invariant {K : C → Prop} {I : σ → Prop} (hx : x.run.Calls K)
    (hstep : ∀ s c ch, K c → I s → I (act s c ch).2) (hI : I s) :
    Evals act d x s (fun _ => I) fun _ => I := by
  obtain ⟨tr, -, hr⟩ := runs_eval act d x.run s
  have hend := (hr.invariant hstep hx hI).2
  unfold Evals
  cases (Lib.eval act d x.run s).1 with
  | ok | error => exact hend

theorem bind {f : α → ExceptT ε (Prog C R) β} {P : β → σ → Prop} (hx : Evals act d x s Q X)
    (hf : ∀ a s', Q a s' → Evals act d (f a) s' P X) : Evals act d (x >>= f) s P X := by
  unfold Evals at hx ⊢
  rw [eval_run_bind]
  generalize Lib.eval act d x.run s = out at hx ⊢
  obtain ⟨e | a, s'⟩ := out
  · exact hx
  · exact hf a s' hx

theorem attempt {x : ExceptT δ (Prog C R) α} {P : Except δ α → σ → Prop}
    (h : Evals act d x s (fun a => P (.ok a)) fun e => P (.error e)) :
    Evals act d (Lib.attempt x) s P X := by
  unfold Evals at h ⊢
  rw [eval_attempt]
  generalize Lib.eval act d x.run s = out at h ⊢
  obtain ⟨e | a, s'⟩ := out
  · exact h
  · exact h

theorem onError {f : δ → ε} {x : ExceptT δ (Prog C R) α}
    (h : Evals act d x s Q fun e => X (f e)) : Evals act d (Lib.onError f x) s Q X := by
  unfold Evals at h ⊢
  rw [eval_onError]
  generalize Lib.eval act d x.run s = out at h ⊢
  obtain ⟨e | a, s'⟩ := out
  · exact h
  · exact h

end Evals

/-- A change of the state that no call of the program sees. -/
theorem eval_frame {K : C → Prop} {g : σ → σ} {p : Prog C R α}
    (hg : ∀ s c, K c → act (g s) c d = ((act s c d).1, g (act s c d).2)) (hp : p.Calls K) (s : σ) :
    eval act d p (g s) = ((eval act d p s).1, g (eval act d p s).2) := by
  induction p generalizing s with
  | ret a => rfl
  | call c k ih =>
    change eval act d (k (act (g s) c d).1) (act (g s) c d).2 = _
    rw [hg s c hp.1]
    exact ih _ (hp.2 _) _

end

/-! ### Components -/

section

variable {C C' : Type} {R : C' → Type} {σ σ' ω α : Type}

/-- The calls of a component as calls of the system it is part of. -/
def inject (f : C → C') : Prog C (fun c => R (f c)) α → Prog C' R α
  | .ret a => .ret a
  | .call c k => .call (f c) fun r => inject f (k r)

theorem calls_inject {f : C → C'} {K : C → Prop} {L : C' → Prop} (hKL : ∀ c, K c → L (f c))
    {p : Prog C (fun c => R (f c)) α} (hp : p.Calls K) : (inject f p).Calls L := by
  induction p with
  | ret a => trivial
  | call c k ih => exact ⟨hKL c hp.1, fun r => ih r (hp.2 r)⟩

/-- The system `act'` answers the calls of the component `act` in the component's share of its
state. -/
structure Share (f : C → C') (act : σ → (c : C) → ω → R (f c) × σ)
    (act' : σ' → (c : C') → ω → R c × σ') (get : σ' → σ) (put : σ' → σ → σ') : Prop where
  step : ∀ s c ch, act' s (f c) ch = ((act (get s) c ch).1, put s (act (get s) c ch).2)
  get_put : ∀ s t, get (put s t) = t
  put_put : ∀ s t u, put (put s t) u = put s u
  put_get : ∀ s, put s (get s) = s

variable {f : C → C'} {act : σ → (c : C) → ω → R (f c) × σ} {act' : σ' → (c : C') → ω → R c × σ'}
  {get : σ' → σ} {put : σ' → σ → σ'}

theorem Share.wp_inject (h : Share f act act' get put) {p : Prog C (fun c => R (f c)) α} {s : σ'}
    {Q : α → σ' → Prop} (hp : wp act p (get s) fun _ a t => Q a (put s t)) :
    wp act' (inject f p) s fun _ a s' => Q a s' := by
  induction p generalizing s with
  | ret a =>
    have hq : Q a (put s (get s)) := hp
    rw [h.put_get] at hq
    exact hq
  | call c k ih =>
    intro ch
    rw [h.step]
    refine ih _ ?_
    rw [h.get_put]
    refine wp_mono (hp ch) fun tr a t hq => ?_
    rw [h.put_put]
    exact hq

theorem Share.eval_inject (h : Share f act act' get put) (d : ω)
    (p : Prog C (fun c => R (f c)) α) (s : σ') :
    eval act' d (inject f p) s = ((eval act d p (get s)).1, put s (eval act d p (get s)).2) := by
  induction p generalizing s with
  | ret a =>
    change (a, s) = (a, put s (get s))
    rw [h.put_get]
  | call c k ih =>
    change eval act' d (inject f (k _)) _ = _
    rw [h.step, ih, h.get_put, h.put_put]
    rfl

end

end NomadCsi.Lib
