import Mathlib.Data.List.Perm.Basic
import NomadCsi.Lib.Hoare

/-!
# Programs run side by side

A `Pool` runs any number of programs over one shared state, interleaved call by call.
A job enters through `accept` and leaves through `leave`, which stand for the locks it
takes. Each thread remembers the calls it has made and their replies (`past`), so a
property of a program on its own becomes a property of the thread:

* `openAct` answers a call with any reply and records it. `Plays G x past Q X` says
  what holds of a program whatever the others do: its next call `c` always satisfies
  `G past c`. `Threaded.next_call` turns it into a fact about a thread of a reachable
  pool;
* `Reach.invariant` is the induction over the steps of the pool.
-/

namespace NomadCsi.Lib

variable {C : Type} {R : C → Type} {σ ω ε α J L : Type}

/-- The calls a program has made, with the replies it got. -/
abbrev Past (C : Type) (R : C → Type) := List ((c : C) × R c)

/-- Any reply at all, recorded. -/
def openAct (past : Past C R) (c : C) (reply : (c : C) → R c) : R c × Past C R :=
  (reply c, past ++ [⟨c, reply c⟩])

structure Thread (C : Type) (R : C → Type) (J α : Type) where
  job : J
  past : Past C R
  rest : Prog C R α

structure Pool (C : Type) (R : C → Type) (σ J L α : Type) where
  world : σ
  locks : L
  threads : List (Thread C R J α)

/-- Admit a job, let thread `i` make its next call, or let it finish. -/
inductive Action (J ω : Type) where
  | spawn (job : J)
  | step (i : Nat) (ch : ω)
  | finish (i : Nat)

def Thread.running (t : Thread C R J α) : Bool :=
  match t.rest with
  | .call _ _ => true
  | .ret _ => false

def Pool.Busy (p : Pool C R σ J L α) (P : J → Prop) : Prop :=
  ∃ t ∈ p.threads, t.running = true ∧ P t.job

instance (p : Pool C R σ J L α) (P : J → Prop) [DecidablePred P] : Decidable (p.Busy P) :=
  inferInstanceAs (Decidable (∃ t ∈ p.threads, _))

/-- A call of a thread: the thread as it was, and the event. -/
structure Move (C : Type) (R : C → Type) (σ ω J α : Type) where
  thread : Thread C R J α
  event : Event C R σ ω

section

variable (act : Act C R σ ω) (body : J → Prog C R α) (accept : J → L → Option L)
  (leave : J → L → L)

def Thread.answer (t : Thread C R J α) (c : C) (r : R c) (k : R c → Prog C R α) :
    Thread C R J α :=
  ⟨t.job, t.past ++ [⟨c, r⟩], k r⟩

def Pool.next (p : Pool C R σ J L α) :
    Action J ω → Option (List (Move C R σ ω J α) × Pool C R σ J L α)
  | .spawn job => (accept job p.locks).map fun locks =>
      ([], { p with locks, threads := p.threads ++ [⟨job, [], body job⟩] })
  | .step i ch =>
    match p.threads[i]? with
    | none => none
    | some t =>
      match t.rest with
      | .ret _ => none
      | .call c k =>
        some ([⟨t, ⟨p.world, c, ch, (act p.world c ch).1⟩⟩],
          { p with
            world := (act p.world c ch).2
            threads := p.threads.set i (t.answer c (act p.world c ch).1 k) })
  | .finish i =>
    match p.threads[i]? with
    | none => none
    | some t =>
      match t.rest with
      | .ret _ => some ([], { p with
          locks := leave t.job p.locks
          threads := p.threads.eraseIdx i })
      | .call _ _ => none

/-- The pools reached from `p` by actions that satisfy `Ok`, and the calls made. -/
inductive Reach (Ok : Pool C R σ J L α → Action J ω → Prop) (p : Pool C R σ J L α) :
    List (Move C R σ ω J α) → Pool C R σ J L α → Prop where
  | refl : Reach Ok p [] p
  | next {ms ms' : List (Move C R σ ω J α)} {q q' : Pool C R σ J L α} (a : Action J ω) :
      Reach Ok p ms q → Ok q a → q.next act body accept leave a = some (ms', q') →
      Reach Ok p (ms ++ ms') q'

/-- Run a pool on a list of actions, each of which must satisfy `Ok`. -/
def Pool.run (Ok : Pool C R σ J L α → Action J ω → Prop) [∀ p a, Decidable (Ok p a)]
    (p : Pool C R σ J L α) :
    List (Action J ω) → Option (List (Move C R σ ω J α) × Pool C R σ J L α)
  | [] => some ([], p)
  | a :: as =>
    if Ok p a then
      match p.next act body accept leave a with
      | none => none
      | some (ms, q) => (q.run Ok as).map fun r => (ms ++ r.1, r.2)
    else none

end

variable {q' : Pool C R σ J L α} {t : Thread C R J α} {β : Type} {l : List β}

variable {i : Nat} {x : β}

section

variable {act : Act C R σ ω} {body : J → Prog C R α} {accept : J → L → Option L}
  {leave : J → L → L} {Ok : Pool C R σ J L α → Action J ω → Prop} {p q : Pool C R σ J L α}
  {ms : List (Move C R σ ω J α)}

theorem Pool.next_cases {a : Action J ω} (h : q.next act body accept leave a = some (ms, q')) :
    (∃ job locks, a = .spawn job ∧ accept job q.locks = some locks ∧ ms = [] ∧
      q' = { q with locks, threads := q.threads ++ [⟨job, [], body job⟩] }) ∨
    (∃ i ch t c k, a = .step i ch ∧ q.threads[i]? = some t ∧ t.rest = .call c k ∧
      ms = [⟨t, ⟨q.world, c, ch, (act q.world c ch).1⟩⟩] ∧
      q' = { q with
        world := (act q.world c ch).2
        threads := q.threads.set i (t.answer c (act q.world c ch).1 k) }) ∨
    ∃ i t x, a = .finish i ∧ q.threads[i]? = some t ∧ t.rest = .ret x ∧ ms = [] ∧
      q' = { q with locks := leave t.job q.locks, threads := q.threads.eraseIdx i } := by
  cases a with
  | spawn job =>
    obtain ⟨locks, hacc, h⟩ := Option.map_eq_some_iff.1 h
    cases h
    exact .inl ⟨job, locks, rfl, hacc, rfl, rfl⟩
  | step i ch =>
    simp only [next] at h
    split at h
    · cases h
    · next t ht =>
      split at h
      · cases h
      · next c k hrest =>
        cases h
        exact .inr (.inl ⟨i, ch, t, c, k, rfl, ht, hrest, rfl, rfl⟩)
  | finish i =>
    simp only [next] at h
    split at h
    · cases h
    · next t ht =>
      split at h
      · next x hret =>
        cases h
        exact .inr (.inr ⟨i, t, x, rfl, ht, hret, rfl, rfl⟩)
      · cases h

/-- What holds at the start and is kept by every allowed action holds of every reachable pool and
the calls made up to it. -/
theorem Reach.history {I : List (Move C R σ ω J α) → Pool C R σ J L α → Prop}
    (h : Reach act body accept leave Ok p ms q) (h0 : I [] p)
    (hstep : ∀ ms q a ms' q', I ms q → Ok q a → q.next act body accept leave a = some (ms', q') →
      I (ms ++ ms') q') : I ms q := by
  induction h with
  | refl => exact h0
  | next a _ hok hnext ih => exact hstep _ _ _ _ _ ih hok hnext

theorem Reach.invariant {I : Pool C R σ J L α → Prop} {E : Move C R σ ω J α → Prop}
    (h : Reach act body accept leave Ok p ms q) (h0 : I p)
    (hstep : ∀ q a ms q', I q → Ok q a → q.next act body accept leave a = some (ms, q') →
      I q' ∧ ∀ m ∈ ms, E m) : I q ∧ ∀ m ∈ ms, E m := by
  refine h.history (I := fun ms q => I q ∧ ∀ m ∈ ms, E m) ⟨h0, by simp⟩ ?_
  intro ms q a ms' q' ih hok hnext
  obtain ⟨hI, hms⟩ := hstep _ _ _ _ ih.1 hok hnext
  refine ⟨hI, fun m hm => ?_⟩
  rcases List.mem_append.1 hm with hm | hm
  · exact ih.2 m hm
  · exact hms m hm

theorem mem_set_cases {y : β} (h : y ∈ l.set i x) : y = x ∨ ∃ j, j ≠ i ∧ l[j]? = some y := by
  obtain ⟨j, hj⟩ := List.mem_iff_getElem?.1 h
  by_cases hij : j = i
  · subst hij
    rw [List.getElem?_set_self'] at hj
    obtain ⟨_, -, rfl⟩ := Option.map_eq_some_iff.1 hj
    exact .inl rfl
  · rw [List.getElem?_set_ne (Ne.symm hij)] at hj
    exact .inr ⟨j, hij, hj⟩

theorem countP_set_of_getElem? {y : β} (P : β → Bool) (h : l[i]? = some x) :
    (l.set i y).countP P + (P x).toNat = l.countP P + (P y).toNat := by
  obtain ⟨hlt, rfl⟩ := List.getElem?_eq_some_iff.1 h
  have hset := (List.set_perm_cons_eraseIdx hlt y).countP_eq P
  have hself := (List.getElem_cons_eraseIdx_perm hlt).countP_eq P
  rw [List.countP_cons] at hset hself
  cases hx : P l[i] <;> cases hy : P y <;> simp_all

theorem countP_eraseIdx_of_getElem? (P : β → Bool) (h : l[i]? = some x) :
    (l.eraseIdx i).countP P + (P x).toNat = l.countP P := by
  obtain ⟨hlt, rfl⟩ := List.getElem?_eq_some_iff.1 h
  rw [← (List.getElem_cons_eraseIdx_perm hlt).countP_eq P, List.countP_cons]
  cases P l[i] <;> rfl

theorem eq_of_countP_le_one {j : Nat} {y : β} {P : β → Bool} (h : l.countP P ≤ 1)
    (hi : l[i]? = some x) (hj : l[j]? = some y) (hx : P x = true) (hy : P y = true) : i = j := by
  by_contra hij
  have hrest := countP_eraseIdx_of_getElem? P hi
  rw [hx, Bool.toNat_true] at hrest
  have hzero : (l.eraseIdx i).countP P = 0 := by omega
  have hmem : y ∈ l.eraseIdx i := List.mem_eraseIdx_iff_getElem?.2 ⟨j, Ne.symm hij, hj⟩
  exact List.countP_eq_zero.1 hzero y hmem hy

theorem Thread.running_of_call {c : C} {k : R c → Prog C R α} (h : t.rest = .call c k) :
    t.running = true := by
  rw [Thread.running, h]

theorem Thread.running_of_ret {a : α} (h : t.rest = .ret a) : t.running = false := by
  rw [Thread.running, h]

theorem Thread.returned (h : t.running = false) : ∃ a, t.rest = .ret a := by
  unfold Thread.running at h
  split at h
  · cases h
  · next a hret => exact ⟨a, hret⟩

section

variable {P : J → Prop} {locks : L} {job : J} {w : σ} {i : Nat} {t : Thread C R J α} {c : C}
  {k : R c → Prog C R α}

theorem Pool.Busy.spawn (h : q.Busy P) (x : Prog C R α) :
    Pool.Busy { q with locks := locks, threads := q.threads ++ [⟨job, [], x⟩] } P := by
  obtain ⟨t, ht, hrun, hP⟩ := h
  exact ⟨t, List.mem_append_left _ ht, hrun, hP⟩

theorem Pool.Busy.of_spawn {x : Prog C R α}
    (h : Pool.Busy { q with locks := locks, threads := q.threads ++ [⟨job, [], x⟩] } P) :
    q.Busy P ∨ P job := by
  obtain ⟨t, ht, hrun, hP⟩ := h
  rcases mem_snoc.1 ht with ht | rfl
  · exact .inl ⟨t, ht, hrun, hP⟩
  · exact .inr hP

theorem Pool.Busy.step (h : q.Busy P) (ht : q.threads[i]? = some t) (r : R c) :
    Pool.Busy { q with world := w, threads := q.threads.set i (t.answer c r k) } P ∨
      (t.answer c r k).running = false ∧ P t.job := by
  obtain ⟨t', ht', hrun, hP⟩ := h
  have hlt : i < q.threads.length := (List.getElem?_eq_some_iff.1 ht).1
  obtain ⟨j, hj⟩ := List.mem_iff_getElem?.1 ht'
  by_cases hij : i = j
  · subst hij
    obtain rfl := Option.some.inj (ht.symm.trans hj)
    by_cases hnext : (t.answer c r k).running = true
    · exact .inl ⟨_, List.mem_set hlt _, hnext, hP⟩
    · exact .inr ⟨Bool.eq_false_iff.2 hnext, hP⟩
  · refine .inl ⟨t', List.mem_iff_getElem?.2 ⟨j, ?_⟩, hrun, hP⟩
    exact (List.getElem?_set_ne hij).trans hj

theorem Pool.Busy.of_step (ht : q.threads[i]? = some t) (hrun : t.running = true) {r : R c}
    (h : Pool.Busy { q with world := w, threads := q.threads.set i (t.answer c r k) } P) :
    q.Busy P := by
  obtain ⟨t', ht', hrun', hP⟩ := h
  rcases List.mem_or_eq_of_mem_set ht' with ht' | rfl
  · exact ⟨t', ht', hrun', hP⟩
  · exact ⟨t, List.mem_of_getElem? ht, hrun, hP⟩

theorem Pool.Busy.finish (h : q.Busy P) {a : α} (ht : q.threads[i]? = some t)
    (hret : t.rest = .ret a) :
    Pool.Busy { q with locks := locks, threads := q.threads.eraseIdx i } P := by
  obtain ⟨t', ht', hrun, hP⟩ := h
  obtain ⟨j, hj⟩ := List.mem_iff_getElem?.1 ht'
  have hij : j ≠ i := by
    rintro rfl
    obtain rfl := Option.some.inj (ht.symm.trans hj)
    rw [Thread.running_of_ret hret] at hrun
    cases hrun
  exact ⟨t', List.mem_eraseIdx_iff_getElem?.2 ⟨j, hij, hj⟩, hrun, hP⟩

theorem Pool.Busy.of_finish
    (h : Pool.Busy { q with locks := locks, threads := q.threads.eraseIdx i } P) : q.Busy P := by
  obtain ⟨t, ht, hrun, hP⟩ := h
  exact ⟨t, List.mem_of_mem_eraseIdx ht, hrun, hP⟩

end

theorem Reach.run [∀ p a, Decidable (Ok p a)] (h : Reach act body accept leave Ok p ms q)
    {as : List (Action J ω)} {ms' : List (Move C R σ ω J α)}
    (hr : q.run act body accept leave Ok as = some (ms', q')) :
    Reach act body accept leave Ok p (ms ++ ms') q' := by
  induction as generalizing q ms ms' with
  | nil =>
    cases hr
    rwa [List.append_nil]
  | cons a as ih =>
    rw [Pool.run] at hr
    split at hr
    · next hok =>
      split at hr
      · cases hr
      · next ms1 q1 hnext =>
        obtain ⟨⟨ms2, q2⟩, hrun, heq⟩ := Option.map_eq_some_iff.1 hr
        cases heq
        rw [← List.append_assoc]
        exact ih (.next a h hok hnext) hrun
    · cases hr

variable (act body accept leave Ok) in
theorem reach_of_run [∀ p a, Decidable (Ok p a)] (p : Pool C R σ J L α)
    (as : List (Action J ω)) (P : List (Move C R σ ω J α) → Pool C R σ J L α → Prop)
    (h : ∃ x ∈ p.run act body accept leave Ok as, P x.1 x.2) :
    ∃ ms q, Reach act body accept leave Ok p ms q ∧ P ms q := by
  obtain ⟨⟨ms, q⟩, hrun, hP⟩ := h
  exact ⟨ms, q, Reach.refl.run hrun, hP⟩

/-- Every thread is where its program gets to on the replies it got. -/
def Threaded (body : J → Prog C R α) (p : Pool C R σ J L α) : Prop :=
  ∀ t ∈ p.threads, ∃ tr, Steps openAct (body t.job) [] tr t.rest t.past

theorem Threaded.next [∀ c, Nonempty (R c)] {a : Action J ω} (h : Threaded body q)
    (hn : q.next act body accept leave a = some (ms, q')) : Threaded body q' := by
  rcases Pool.next_cases hn with ⟨job, locks, -, -, -, rfl⟩ |
    ⟨i, ch, t, c, k, -, ht, hrest, -, rfl⟩ | ⟨i, t, x, -, -, -, -, rfl⟩
  · intro t ht
    rcases mem_snoc.1 ht with ht | rfl
    · exact h t ht
    · exact ⟨[], .refl _ _⟩
  · intro t' ht'
    rcases List.mem_or_eq_of_mem_set ht' with ht' | rfl
    · exact h t' ht'
    · obtain ⟨tr, hs⟩ := h t (List.mem_of_getElem? ht)
      rw [hrest] at hs
      classical
      let reply : (c : C) → R c :=
        Function.update (fun c => Classical.choice inferInstance) c (act q.world c ch).1
      have hs' := hs.snoc reply
      simp only [openAct, reply, Function.update_self] at hs'
      exact ⟨_, hs'⟩
  · intro t ht
    exact h t (List.mem_of_mem_eraseIdx ht)

end

/-- Whatever `x` is answered, its next call `c` satisfies `G past c`, and it ends in `Q` or `X`. -/
def Plays (G : Past C R → C → Prop) (x : ExceptT ε (Prog C R) α) (past : Past C R)
    (Q : α → Past C R → Prop) (X : ε → Past C R → Prop) : Prop :=
  Ends openAct (fun e => G e.pre e.call) x past Q X

theorem Threaded.next_call [∀ c, Nonempty (R c)] {x : J → ExceptT ε (Prog C R) α}
    {p : Pool C R σ J L (Except ε α)} (h : Threaded (fun j => (x j).run) p)
    {t : Thread C R J (Except ε α)} (ht : t ∈ p.threads) {c : C}
    {k : R c → Prog C R (Except ε α)} (hrest : t.rest = .call c k)
    {G : Past C R → C → Prop} {Q : α → Past C R → Prop} {X : ε → Past C R → Prop}
    (hx : Plays G (x t.job) [] Q X) : G t.past c := by
  obtain ⟨tr, hs⟩ := h t ht
  rw [hrest] at hs
  exact hx.next_call hs fun c => Classical.choice inferInstance

theorem Threaded.returned {x : J → ExceptT ε (Prog C R) α}
    {p : Pool C R σ J L (Except ε α)} (h : Threaded (fun j => (x j).run) p)
    {t : Thread C R J (Except ε α)} (ht : t ∈ p.threads) {r : Except ε α}
    (hrest : t.rest = .ret r) {G : Past C R → C → Prop} {Q : α → Past C R → Prop}
    {X : ε → Past C R → Prop} (hx : Plays G (x t.job) [] Q X) : Outcome Q X r t.past := by
  obtain ⟨tr, hs⟩ := h t ht
  rw [hrest] at hs
  exact (wp_steps hs hx).2

variable {x : ExceptT ε (Prog C R) α}

namespace Plays

variable {G : Past C R → C → Prop} {past : Past C R} {P Q : α → Past C R → Prop}
  {X Y : ε → Past C R → Prop} {β δ : Type}

theorem mono (h : Plays G x past P Y) (hQ : ∀ a s, P a s → Q a s) (hX : ∀ e s, Y e s → X e s) :
    Plays G x past Q X :=
  Ends.mono h hQ hX

theorem pure {a : α} (h : Q a past) : Plays G (Pure.pure a : ExceptT ε (Prog C R) α) past Q X :=
  Ends.pure h

theorem throw {e : ε} (h : X e past) :
    Plays G (MonadExcept.throw e : ExceptT ε (Prog C R) α) past Q X :=
  Ends.throw h

theorem call {c : C} {f : R c → Except ε α} (hG : G past c)
    (h : ∀ r, Outcome Q X (f r) (past ++ [⟨c, r⟩])) :
    Plays G (ExceptT.mk (Prog.call c fun r => .ret (f r))) past Q X := by
  intro reply
  refine ⟨fun e he => ?_, h (reply c)⟩
  obtain rfl := List.mem_singleton.1 he
  exact hG

theorem bind {f : α → ExceptT ε (Prog C R) β} {P : β → Past C R → Prop} (hx : Plays G x past Q X)
    (hf : ∀ a past, Q a past → Plays G (f a) past P X) : Plays G (x >>= f) past P X :=
  Ends.bind hx hf

theorem seq {f : α → ExceptT ε (Prog C R) β} {P : β → Past C R → Prop}
    (hx : Plays G x past (fun _ _ => True) X) (hf : ∀ a past, Plays G (f a) past P X) :
    Plays G (x >>= f) past P X :=
  hx.bind fun a past _ => hf a past

theorem attempt {x : ExceptT δ (Prog C R) α} {P : Except δ α → Past C R → Prop}
    (h : Plays G x past (fun a => P (.ok a)) fun e => P (.error e)) :
    Plays G (Lib.attempt x) past P X :=
  Ends.attempt h

theorem onError {f : δ → ε} {x : ExceptT δ (Prog C R) α}
    (h : Plays G x past Q fun e => X (f e)) : Plays G (Lib.onError f x) past Q X :=
  Ends.onError h

/-- A program whose calls satisfy `G` at any time adds only calls of its kind. -/
theorem of_calls_heard {K : C → Prop} (h : x.run.Calls K) (hG : ∀ c, K c → ∀ past, G past c) :
    Plays G x past (fun _ past' => past <+: past' ∧ ∀ y ∈ past', y ∈ past ∨ K y.1)
      fun _ past' => past <+: past' ∧ ∀ y ∈ past', y ∈ past ∨ K y.1 := by
  refine wp_iff.2 fun tr r s' hr => ⟨fun e he => hG _ (hr.calls h e he) _, ?_⟩
  have hheard : past <+: s' ∧ ∀ y ∈ s', y ∈ past ∨ K y.1 := by
    refine (hr.invariant (I := fun q => past <+: q ∧ ∀ y ∈ q, y ∈ past ∨ K y.1) ?_ h
      ⟨List.prefix_rfl, fun y hy => .inl hy⟩).2
    rintro q c reply hc ⟨hpre, hall⟩
    refine ⟨hpre.trans (List.prefix_append _ _), fun y hy => ?_⟩
    rcases mem_snoc.1 hy with hy | rfl
    · exact hall y hy
    · exact .inr hc
  cases r with
  | ok | error => exact hheard

theorem of_calls (h : x.run.Calls fun c => ∀ past, G past c) :
    Plays G x past (fun _ _ => True) fun _ _ => True :=
  (of_calls_heard h fun _ hc => hc).mono (fun _ _ _ => trivial) fun _ _ _ => trivial

end Plays

end NomadCsi.Lib
