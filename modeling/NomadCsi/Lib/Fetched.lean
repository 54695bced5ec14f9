import NomadCsi.Lib.Go
import NomadCsi.Lib.Prog

/-!
# A cache over a source that can fail

Values are made from what a source returns for a key and kept with the time they were made.
`get` serves a kept value while it is young enough, fetches otherwise, and falls back on
what is kept if that fails; `refresh` fetches, and fails with the source. A cache that started
empty holds, for every key, what was made from the last success (`Kept`).
-/

namespace NomadCsi.Lib.Fetched

open Go

section

variable (K S V E : Type)

inductive Call where
  | load (k : K)
  | clock
  | fetch (k : K)
  | store (k : K) (v : V)

@[reducible] def Call.Reply : Call K V → Type
  | .load _ => Option (V × Int)
  | .clock => Int
  | .fetch _ => Except E S
  | .store _ _ => Unit

/-- What the clock shows, and what the source returns if it is asked. -/
structure Choice where
  now : Int
  answer : Except E S

/-- The value kept for each key, and when it was made. -/
abbrev State := K → Option (V × Int)

abbrev Op := Prog (Call K V) (Call.Reply K S V E)

abbrev Ev := Event (Call K V) (Call.Reply K S V E) (State K V) (Choice S E)

end

variable {K S V E α : Type} [DecidableEq K]

def act (s : State K V) (c : Call K V) (ch : Choice S E) : Call.Reply K S V E c × State K V :=
  match c with
  | .load k => (s k, s)
  | .clock => (ch.now, s)
  | .fetch _ => (ch.answer, s)
  | .store k v => ((), fun k' => if k' = k then some (v, ch.now) else s k')

section

variable (build : S → V) (ttl : Int) (k : K)

def refreshWith : Except E S → Op K S V E (Except E V)
  | .error e => .ret (.error e)
  | .ok x => do
    Prog.lift (Call.store k (build x))
    return .ok (build x)

def refresh : Op K S V E (Except E V) := do
  let r ← Prog.lift (Call.fetch k)
  refreshWith build k r

def orStale (v : V) : Except E V → Except E V
  | .ok w => .ok w
  | .error _ => .ok v

def refreshOr (v : V) : Op K S V E (Except E V) := do
  let r ← refresh build k
  return orStale v r

def getWith (force : Bool) : Option (V × Int) → Op K S V E (Except E V)
  | none => refresh build k
  | some (v, since) => do
    if force then refreshOr build k v
    else
      let now ← Prog.lift Call.clock
      if timeSub now since < ttl then return .ok v else refreshOr build k v

/-- The value for a key: fresh from the cache, or fetched, or stale if the fetch fails; `force` skips
the first. -/
def get (force : Bool) : Op K S V E (Except E V) := do
  let cached ← Prog.lift (Call.load k)
  getWith build ttl k force cached

end

/-! ### The record of what was fetched -/

/-- What an event fetched for the key. -/
def fetched (k : K) : Ev K S V E → Option (Except E S)
  | ⟨_, .fetch k', _, r⟩ => if k' = k then some r else none
  | ⟨_, .load _, _, _⟩ | ⟨_, .clock, _, _⟩ | ⟨_, .store _ _, _, _⟩ => none

def fetches (k : K) (tr : List (Ev K S V E)) : List (Except E S) := tr.filterMap (fetched k)

@[simp] theorem fetches_append (k : K) (tr tr' : List (Ev K S V E)) :
    fetches k (tr ++ tr') = fetches k tr ++ fetches k tr' :=
  List.filterMap_append

/-- The last success of a row of fetches. -/
def latest (l : List (Except E S)) : Option S := l.foldl (fun x r => r.toOption.or x) none

@[simp] theorem latest_snoc (l : List (Except E S)) (r : Except E S) :
    latest (l ++ [r]) = r.toOption.or (latest l) := by
  simp [latest]

/-- The cache holds what was made from the last success for every key. -/
def Kept (build : S → V) (past : List (Ev K S V E)) (s : State K V) : Prop :=
  ∀ k, (s k).map (·.1) = (latest (fetches k past)).map build

theorem kept_empty (build : S → V) : Kept build ([] : List (Ev K S V E)) fun _ => none :=
  fun _ => rfl

/-! ### What the operations do -/

variable {build : S → V} {ttl : Int} {k : K} {s s' : State K V} {tr past : List (Ev K S V E)}
  {r : Except E V}

structure Renewed (build : S → V) (k : K) (s : State K V) (tr : List (Ev K S V E)) (x : S)
    (s' : State K V) : Prop where
  own : fetches k tr = [.ok x]
  others : ∀ k', k' ≠ k → fetches k' tr = []
  state : ∃ now, s' = fun k' => if k' = k then some (build x, now) else s k'

structure Failed (k : K) (s : State K V) (tr : List (Ev K S V E)) (e : E) (s' : State K V) :
    Prop where
  own : fetches k tr = [.error e]
  others : ∀ k', k' ≠ k → fetches k' tr = []
  state : s' = s

variable {e : Ev K S V E}

theorem fetches_cons (he : ∀ k, fetched k e = none) (k : K) (tr : List (Ev K S V E)) :
    fetches k (e :: tr) = fetches k tr :=
  List.filterMap_cons_none (he k)

theorem Renewed.cons {x : S} (h : Renewed build k s tr x s') (he : ∀ k, fetched k e = none) :
    Renewed build k s (e :: tr) x s' where
  own := (fetches_cons he k tr).trans h.own
  others k' hne := (fetches_cons he k' tr).trans (h.others k' hne)
  state := h.state

theorem Failed.cons {x : E} (h : Failed k s tr x s') (he : ∀ k, fetched k e = none) :
    Failed k s (e :: tr) x s' where
  own := (fetches_cons he k tr).trans h.own
  others k' hne := (fetches_cons he k' tr).trans (h.others k' hne)
  state := h.state

theorem refresh_cases (h : Runs act (refresh build k) s tr r s') :
    (∃ x, Renewed build k s tr x s' ∧ r = .ok (build x)) ∨
      ∃ e, Failed k s tr e s' ∧ r = .error e := by
  obtain ⟨⟨now, answer⟩, tr', rfl, hnext⟩ := runs_call.1 h
  cases answer with
  | error e =>
    obtain ⟨rfl, rfl, rfl⟩ := runs_ret.1 hnext
    refine .inr ⟨e, ⟨?_, fun k' hne => ?_, rfl⟩, rfl⟩
    · simp [fetches, fetched, act]
    · simp [fetches, fetched, Ne.symm hne]
  | ok x =>
    obtain ⟨ch, tr'', rfl, hend⟩ := runs_call.1 hnext
    obtain ⟨rfl, rfl, rfl⟩ := runs_ret.1 hend
    refine .inl ⟨x, ⟨?_, fun k' hne => ?_, ch.now, rfl⟩, rfl⟩
    · simp [fetches, fetched, act]
    · simp [fetches, fetched, Ne.symm hne]

theorem refreshOr_cases {v : V} (h : Runs act (refreshOr build k v) s tr r s') :
    (∃ x, Renewed build k s tr x s' ∧ r = .ok (build x)) ∨
      ∃ e, Failed k s tr e s' ∧ r = .ok v := by
  obtain ⟨r1, hrefresh, rfl⟩ := runs_bind_ret.1 h
  rcases refresh_cases hrefresh with ⟨x, hx, rfl⟩ | ⟨e, he, rfl⟩
  · exact .inl ⟨x, hx, rfl⟩
  · exact .inr ⟨e, he, rfl⟩

variable {force : Bool}

/-- A value is served from the cache, or fetched, or the fetch failed; then what was kept is served,
if there is anything. -/
theorem get_cases (h : Runs act (get build ttl k force) s tr r s') :
    (∃ v since, s k = some (v, since) ∧ force = false ∧ (∀ k', fetches k' tr = []) ∧ s' = s ∧
      r = .ok v) ∨
    (∃ x, Renewed build k s tr x s' ∧ r = .ok (build x)) ∨
    ∃ e, Failed k s tr e s' ∧ ((∃ v since, s k = some (v, since) ∧ r = .ok v) ∨
      (s k = none ∧ r = .error e)) := by
  obtain ⟨ch, tr', rfl, hwith⟩ := runs_call.1 h
  change Runs act (getWith build ttl k force (s k)) s tr' r s' at hwith
  have hload : ∀ k', fetched k' (⟨s, .load k, ch, (act s (.load k) ch).1⟩ : Ev K S V E) = none :=
    fun _ => rfl
  cases hs : s k with
  | none =>
    rw [hs] at hwith
    rcases refresh_cases hwith with ⟨x, hx, hr⟩ | ⟨e, he, hr⟩
    · exact .inr (.inl ⟨x, hx.cons hload, hr⟩)
    · exact .inr (.inr ⟨e, he.cons hload, .inr ⟨rfl, hr⟩⟩)
  | some p =>
    obtain ⟨v, since⟩ := p
    rw [hs] at hwith
    cases force with
    | true =>
      rcases refreshOr_cases hwith with ⟨x, hx, hr⟩ | ⟨e, he, hr⟩
      · exact .inr (.inl ⟨x, hx.cons hload, hr⟩)
      · exact .inr (.inr ⟨e, he.cons hload, .inl ⟨v, since, rfl, hr⟩⟩)
    | false =>
      obtain ⟨ch', tr'', rfl, hrest⟩ := runs_call.1 hwith
      have hclock : ∀ k', fetched k' (⟨s, .clock, ch', (act s .clock ch').1⟩ : Ev K S V E) = none :=
        fun _ => rfl
      change Runs act (if timeSub ch'.now since < ttl then pure (.ok v) else refreshOr build k v)
        s tr'' r s' at hrest
      by_cases hfresh : timeSub ch'.now since < ttl
      · rw [if_pos hfresh] at hrest
        obtain ⟨rfl, rfl, rfl⟩ := runs_ret.1 hrest
        exact .inl ⟨v, since, rfl, rfl, fun _ => rfl, rfl, rfl⟩
      · rw [if_neg hfresh] at hrest
        rcases refreshOr_cases hrest with ⟨x, hx, hr⟩ | ⟨e, he, hr⟩
        · exact .inr (.inl ⟨x, (hx.cons hclock).cons hload, hr⟩)
        · exact .inr (.inr ⟨e, (he.cons hclock).cons hload, .inl ⟨v, since, rfl, hr⟩⟩)

theorem get_ok {v : V} (h : Runs act (get build ttl k force) s tr (.ok v) s') :
    (∃ since, s' k = some (v, since)) ∧
      ((∃ x, fetches k tr = [.ok x] ∧ build x = v) ∨
        (∀ x, .ok x ∉ fetches k tr) ∧ ∃ since, s k = some (v, since)) := by
  rcases get_cases h with ⟨w, since, hw, -, hquiet, rfl, hr⟩ | ⟨x, hx, hr⟩ |
    ⟨e, he, ⟨w, since, hw, hr⟩ | ⟨-, hr⟩⟩
  · obtain rfl := Except.ok.inj hr
    exact ⟨⟨since, hw⟩, .inr ⟨by simp [hquiet k], since, hw⟩⟩
  · obtain rfl := Except.ok.inj hr
    obtain ⟨now, rfl⟩ := hx.state
    exact ⟨⟨now, if_pos rfl⟩, .inl ⟨x, hx.own, rfl⟩⟩
  · obtain rfl := Except.ok.inj hr
    rw [he.state]
    exact ⟨⟨since, hw⟩, .inr ⟨by simp [he.own], since, hw⟩⟩
  · cases hr

theorem get_error {e : E} (h : Runs act (get build ttl k force) s tr (.error e) s') :
    s k = none ∧ ∀ x, .ok x ∉ fetches k tr := by
  rcases get_cases h with ⟨_, _, _, _, _, _, hr⟩ | ⟨_, _, hr⟩ | ⟨e', he, ⟨_, _, _, hr⟩ | ⟨hnone, -⟩⟩
  · cases hr
  · cases hr
  · cases hr
  · exact ⟨hnone, by simp [he.own]⟩

/-! ### What they keep -/

theorem Kept.renewed {x : S} (hs : Kept build past s) (h : Renewed build k s tr x s') :
    Kept build (past ++ tr) s' := by
  obtain ⟨now, rfl⟩ := h.state
  intro k'
  rw [fetches_append]
  by_cases hk : k' = k
  · subst hk
    rw [h.own, latest_snoc]
    simp only [if_true]
    rfl
  · rw [h.others k' hk, List.append_nil]
    simp only [if_neg hk]
    exact hs k'

theorem Kept.failed {e : E} (hs : Kept build past s) (h : Failed k s tr e s') :
    Kept build (past ++ tr) s' := by
  rw [h.state]
  intro k'
  rw [fetches_append]
  by_cases hk : k' = k
  · subst hk
    rw [h.own, latest_snoc]
    exact hs k'
  · rw [h.others k' hk, List.append_nil]
    exact hs k'

theorem Kept.quiet (hs : Kept build past s) (h : ∀ k, fetches k tr = []) :
    Kept build (past ++ tr) s := by
  intro k
  rw [fetches_append, h k, List.append_nil]
  exact hs k

theorem Kept.latest_of {v : V} {since : Int} (hs : Kept build past s) (h : s k = some (v, since)) :
    ∃ x, latest (fetches k past) = some x ∧ build x = v := by
  have hk := hs k
  rw [h] at hk
  exact Option.map_eq_some_iff.1 hk.symm

theorem Kept.after_refresh (hs : Kept build past s) (h : Runs act (refresh build k) s tr r s') :
    Kept build (past ++ tr) s' := by
  rcases refresh_cases h with ⟨x, hx, -⟩ | ⟨e, he, -⟩
  · exact hs.renewed hx
  · exact hs.failed he

theorem Kept.after_get (hs : Kept build past s) (h : Runs act (get build ttl k force) s tr r s') :
    Kept build (past ++ tr) s' := by
  rcases get_cases h with ⟨v, since, -, -, hquiet, rfl, -⟩ | ⟨x, hx, -⟩ | ⟨e, he, -⟩
  · exact hs.quiet hquiet
  · exact hs.renewed hx
  · exact hs.failed he

theorem Kept.of_get_ok {v : V} (hs : Kept build past s)
    (h : Runs act (get build ttl k force) s tr (.ok v) s') :
    ∃ x, latest (fetches k (past ++ tr)) = some x ∧ build x = v := by
  rw [fetches_append]
  rcases get_cases h with ⟨w, since, hw, -, hquiet, -, hr⟩ | ⟨x, hx, hr⟩ |
    ⟨e, he, ⟨w, since, hw, hr⟩ | ⟨-, hr⟩⟩
  · obtain rfl := Except.ok.inj hr
    rw [hquiet k, List.append_nil]
    exact hs.latest_of hw
  · obtain rfl := Except.ok.inj hr
    rw [hx.own, latest_snoc]
    exact ⟨x, rfl, rfl⟩
  · obtain rfl := Except.ok.inj hr
    rw [he.own, latest_snoc]
    exact hs.latest_of hw
  · cases hr

end NomadCsi.Lib.Fetched
