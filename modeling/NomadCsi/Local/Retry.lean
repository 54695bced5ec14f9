import NomadCsi.Lib.Env
import NomadCsi.Local.Create

/-!
# Retrying a create

A `localCreate` in which one command failed leaves the store as it was, or it leaves a zvol
under the volume's dataset that the next `localCreate` finds and judges as it is (`Left`).
-/

namespace NomadCsi.Local

open Lib Lib.Go Driver Zfs

def faultOf (e : ZfsEv) : List Cmd :=
  if e.choice.fail.isSome then [e.call] else []

def faults (tr : List ZfsEv) : List Cmd := tr.flatMap faultOf

def AtMostOne (l : List Cmd) : Prop := l.length ≤ 1

theorem AtMostOne.of_append (l l' : List Cmd) (h : AtMostOne (l ++ l')) : AtMostOne l := by
  unfold AtMostOne at h ⊢
  rw [List.length_append] at h
  omega

variable {s' : Store}

theorem eval_of_faults_nil {α : Type} {p : Prog Cmd Cmd.Reply α} {s : Store} {a : α}
    {tr : List ZfsEv} (h : Runs zfsAct p s tr a s')
    (hnil : faults tr = []) : eval zfsAct {} p s = (a, s') := by
  apply h.eval
  intro e he
  have hfault : faultOf e = [] := List.flatMap_eq_nil_iff.1 hnil e he
  unfold faultOf at hfault
  split at hfault
  · cases hfault
  · next hnone =>
    have hfail : e.choice.fail = none := by simpa using hnone
    exact congrArg Fault.mk hfail

/-! ### Programs with one fault -/

section

variable {ε δ α β : Type} {s : Store} {X Y : Cmd → Store → Prop}

/-- From `s` after the faults `l`, every run of `x` with at most one fault in all ends in `Q` or
`X` of the store and of all faults. -/
abbrev Faulty (x : ExceptT ε (Prog Cmd Cmd.Reply) α) (s : Store) (l : List Cmd)
    (Q : α → Store → List Cmd → Prop) (X : ε → Store → List Cmd → Prop) : Prop :=
  Traces zfsAct faultOf AtMostOne x s l Q X

theorem faulty_spent (x : Script ε α) (s : Store) (f : Cmd) :
    Faulty x s [f] (fun a s' l' => l' = [f] ∧ eval zfsAct {} x.run s = (.ok a, s'))
      fun e s' l' => l' = [f] ∧ eval zfsAct {} x.run s = (.error e, s') := by
  refine wp_iff.2 fun tr r s' hr hone => ?_
  have hnil : faults tr = [] := by
    have hlen : (faults tr).length + 1 ≤ 1 := by
      simpa [AtMostOne, faults] using hone
    exact List.eq_nil_of_length_eq_zero (by omega)
  have heval := eval_of_faults_nil hr hnil
  have hl : [f] ++ tr.flatMap faultOf = [f] := by
    change [f] ++ faults tr = [f]
    rw [hnil]
    rfl
  rw [hl]
  cases r with
  | ok | error => exact ⟨rfl, heval⟩

/-- A program that no run with a fault completes; with the fault `f` it ends in `X f`. -/
abbrev Breaks (x : ExceptT ε (Prog Cmd Cmd.Reply) α) (s : Store) (X : Cmd → Store → Prop) : Prop :=
  Faulty x s [] (fun _ _ l' => l' = []) fun _ s' l' => ∀ f ∈ l', X f s'

/-- If `x` fails with the one fault `f`, it ends in `X f`. -/
abbrev Fails (x : ExceptT ε (Prog Cmd Cmd.Reply) α) (s : Store) (X : Cmd → Store → Prop) : Prop :=
  Faulty x s [] (fun _ _ _ => True) fun _ s' l' => ∀ f ∈ l', X f s'

variable {x : Script ε α}

namespace Breaks

theorem fails (h : Breaks x s X) : Fails x s X :=
  Traces.mono h (fun _ _ _ _ _ => trivial) fun _ _ _ _ h => h

theorem mono (h : Breaks x s Y) (hX : ∀ f s', Y f s' → X f s') : Breaks x s X :=
  Traces.mono h (fun _ _ _ _ hl => hl) fun _ s' _ _ hl f hf => hX f s' (hl f hf)

theorem pure (a : α) : Breaks (Pure.pure a : Script ε α) s X :=
  Traces.pure fun _ => rfl

theorem throw (e : ε) : Breaks (MonadExcept.throw e : Script ε α) s X :=
  Traces.throw fun _ f hf => by cases hf

theorem evaluated (h : Breaks x s X) :
    Faulty x s [] (fun a s' l' => l' = [] ∧ eval zfsAct {} x.run s = (.ok a, s'))
      fun e s' l' => l' = [] ∧ eval zfsAct {} x.run s = (.error e, s') ∨
        ∃ f, l' = [f] ∧ X f s' := by
  refine wp_iff.2 fun tr r s' hr hone => ?_
  have hp := wp_iff.1 h tr r s' hr hone
  cases r with
  | ok a => exact ⟨hp, eval_of_faults_nil hr hp⟩
  | error e =>
    cases hl : faults tr with
    | nil => exact .inl ⟨hl, eval_of_faults_nil hr hl⟩
    | cons f l =>
      have hone' : (faults tr).length ≤ 1 := hone
      rw [hl, List.length_cons] at hone'
      obtain rfl : l = [] := List.eq_nil_of_length_eq_zero (by omega)
      have hmem : f ∈ faults tr := by rw [hl]; exact .head _
      exact .inr ⟨f, hl, hp f hmem⟩

theorem bind {f : α → Script ε β} {Q : β → Store → List Cmd → Prop}
    (hx : Breaks x s X) (hf : ∀ a s1, eval zfsAct {} x.run s = (.ok a, s1) → Faulty (f a) s1 [] Q
      fun _ s' l' => ∀ f ∈ l', X f s') :
    Faulty (x >>= f) s [] Q fun _ s' l' => ∀ f ∈ l', X f s' := by
  refine Traces.bind AtMostOne.of_append (hx.evaluated.weaken ?_) ?_
  · rintro e s' l' - (⟨rfl, -⟩ | ⟨f, rfl, hX⟩) g hg
    · cases hg
    · obtain rfl := List.mem_singleton.1 hg
      exact hX
  · rintro a s1 l' - ⟨rfl, heval⟩
    exact hf a s1 heval

theorem onError {g : δ → ε} {x : Script δ α} (h : Breaks x s X) :
    Breaks (Lib.onError g x) s X :=
  Traces.onError h

theorem decided (r : Except ε α) : Breaks (Lib.decided r) s X := by
  cases r with
  | ok a => exact Breaks.pure a
  | error e => exact Breaks.throw e

end Breaks

theorem faulty_perform {c : Cmd} {Q : c.Reply → Store → List Cmd → Prop}
    {Z : ε → Store → List Cmd → Prop} (hfail : ∀ e, Q (.error e) s [c])
    (hserve : Q (serve s c).1 (serve s c).2 []) :
    Faulty (perform c : Script ε c.Reply) s [] Q Z := by
  refine Traces.perform fun ch _ => ?_
  unfold zfsAct faultOf
  cases hch : ch.fail with
  | some e => exact hfail e
  | none => exact hserve

theorem breaks_outcome {c : Cmd} {msg : String} (h : X c s) :
    Breaks (perform c >>= fun r => outcome msg r : Tool c.Out) s X := by
  refine Traces.bind (Q := fun r s' l' => l' = [] ∨ (∃ e, r = .error e) ∧ l' = [c] ∧ s' = s)
    AtMostOne.of_append (faulty_perform (fun e => .inr ⟨⟨e, rfl⟩, rfl, rfl⟩) (.inl rfl)) ?_
  rintro r s' l' - (rfl | ⟨⟨e, rfl⟩, rfl, rfl⟩)
  · cases r with
    | ok out => exact Breaks.pure out
    | error e => exact Breaks.throw _
  · refine Traces.throw fun _ f hf => ?_
    obtain rfl := List.mem_singleton.1 hf
    exact h

end

/-! ### What a failed create leaves -/

/-- The command works on a zvol at `ds` that is there: it finishes a copy, or reads its size. -/
def finishes (ds : String) : Cmd → Bool
  | .destroySnapshot d _ | .setProp d _ _ | .getVolsize d | .setVolsize d _ => d = ds
  | _ => false

/-- The state a create of `a` at `ds` leaves when its command `f` failed. -/
inductive Left (a : CreateArgs) (ds : String) (s : Store) (f : Cmd) (s' : Store) : Prop where
  | untouched : s' = s → finishes ds f = false → Left a ds s f s'
  | present (v : Zvol) : s.zvol? ds = some v → s'.zvol? ds = some v → SamePools s s' →
      Left a ds s f s'
  /-- A copy that the next create takes for another volume. -/
  | foreign (v : Zvol) : s.zvol? ds = none → finishes ds f = true → f ≠ .getVolsize ds →
      SamePools s s' → s'.zvol? ds = some v → ¬ Matches a v → Left a ds s f s'
  /-- A copy with its source recorded, of the source's size. -/
  | recorded (v : Zvol) : s.zvol? ds = none → f = .getVolsize ds → SamePools s s' →
      s'.zvol? ds = some v → sourceSize a s = some v.volsize →
      v.props.lookup sourceProp = some (contentSourceID a) → contentSourceID a ≠ "" →
      contentSourceID a ≠ "-" → Left a ds s f s'

/-- A copy has arrived at `ds`, and nothing is recorded on it. -/
structure Received (a : CreateArgs) (ds : String) (s s' : Store) : Prop where
  absent : s.zvol? ds = none
  pools : SamePools s s'
  copy : ∃ v, s'.zvol? ds = some v ∧ v.props = ∅ ∧ sourceSize a s = some v.volsize
  source : contentSourceID a ≠ "" ∧ contentSourceID a ≠ "-"

variable {u : Unit} {v : Zvol}

section

variable {c : Controller} {a : CreateArgs} {ds : String} {s s1 : Store}

theorem Received.foreign (h : Received a ds s s1) {f : Cmd} (hf : finishes ds f = true)
    (hne : f ≠ .getVolsize ds) : Left a ds s f s1 := by
  obtain ⟨v, hv, hprops, -⟩ := h.copy
  refine .foreign v h.absent hf hne h.pools hv fun hm => ?_
  have hread : v.read sourceProp = "" := by
    unfold Zvol.read
    rw [hprops]
    decide
  exact h.source.1 ((hm.2 h.source.1).symm.trans hread)

theorem Received.drop (h : Received a ds s s1) (source snap : String) :
    Received a ds s (serve s1 (.destroySnapshot source snap)).2 := by
  obtain ⟨v, hv, hprops, hsize⟩ := h.copy
  have hkeep : SamePools s1 (serve s1 (.destroySnapshot source snap)).2 ∧
      ∀ d, (serve s1 (.destroySnapshot source snap)).2.zvol? d = s1.zvol? d := by
    cases hs : serve s1 (.destroySnapshot source snap) with
    | mk r s2 =>
      cases r with
      | ok u => exact serve_destroySnapshot hs
      | error e =>
        rw [serve_error hs]
        exact ⟨.refl _, fun _ => rfl⟩
  exact ⟨h.absent, h.pools.trans hkeep.1, ⟨v, (hkeep.2 ds).trans hv, hprops, hsize⟩, h.source⟩

theorem breaks_finishCopy (h : Received a ds s s1) :
    Breaks (finishCopy ds (contentSourceID a) a.sizeBytes) s1
      (Left a ds s) := by
  obtain ⟨v, hv, -, hsize⟩ := h.copy
  refine Breaks.bind (.onError (breaks_outcome (h.foreign (by simp [finishes]) (by simp)))) ?_
  intro _ s2 heval
  obtain ⟨v', hv', hpools, hv2⟩ := serve_setProp (eval_outcome_eq_ok.1 (eval_onError_eq_ok.1 heval))
  obtain rfl : v = v' := Option.some.inj (hv.symm.trans hv')
  have hrec : Left a ds s (.getVolsize ds) s2 := .recorded _ h.absent rfl (h.pools.trans hpools) hv2
    hsize (AList.lookup_insert _) h.source.1 h.source.2
  refine Breaks.bind (.onError (breaks_outcome hrec)) ?_
  intro cur s3 heval
  obtain ⟨rfl, v2, hv2', rfl⟩ :=
    serve_found rfl (eval_outcome_eq_ok.1 (eval_onError_eq_ok.1 heval))
  obtain rfl := Option.some.inj (hv2.symm.trans hv2')
  split
  · exact Breaks.pure ()
  · next hlt =>
    refine Breaks.onError (breaks_outcome (.foreign _ h.absent (by simp [finishes]) (by simp)
      (h.pools.trans hpools) hv2 fun hm => hlt ?_))
    exact Int.le_of_eq hm.1.symm

theorem breaks_checkCapacity (pool : String) (size : Int) :
    Breaks (checkCapacity c pool size) s fun f s' => s' = s ∧ finishes ds f = false := by
  refine Breaks.bind (.onError (breaks_outcome ⟨rfl, rfl⟩)) ?_
  intro avail s1 heval
  obtain rfl : s1 = s := (yields_poolAvailable pool).eval (eval_onError_eq_ok.1 heval)
  refine Breaks.bind (.onError (breaks_outcome ⟨rfl, rfl⟩)) ?_
  intro total s2 heval
  dsimp only
  split
  · exact Breaks.throw _
  · exact Breaks.pure ()

/-- A copy fails before anything arrived, or with the received snapshot still there. -/
theorem breaks_cloneIndependent (source snap : String) :
    Breaks (cloneIndependent source snap ds) s fun f s' =>
      f = .sendRecv source snap ds ∧ s' = s ∨
      f = .destroySnapshot ds snap ∧ ∃ sn, Arrived s s' source snap ds sn := by
  unfold cloneIndependent
  rw [← bind_assoc]
  refine Breaks.bind (breaks_outcome (.inl ⟨rfl, rfl⟩)) ?_
  intro _ s1 heval
  exact Breaks.onError (breaks_outcome (.inr ⟨rfl, serve_sendRecv (eval_outcome_eq_ok.1 heval)⟩))

theorem breaks_restoreFromSnapshot (hsnap : a.contentSnapshotID ≠ "") :
    Breaks (restoreFromSnapshot c a ds) s (Left a ds s) := by
  have hid : contentSourceID a = a.contentSnapshotID := if_pos hsnap
  unfold restoreFromSnapshot
  refine Breaks.bind (.decided _) ?_
  intro sid s1 heval
  obtain ⟨hp, rfl⟩ := Prod.mk.inj heval
  split
  · exact Breaks.throw _
  have hsrc : contentSourceID a ≠ "" ∧ contentSourceID a ≠ "-" := by
    rw [hid]
    exact ⟨hsnap, parseSnapshotID_ne_dash hp⟩
  refine Breaks.bind ((breaks_checkCapacity _ _).mono fun f s' h => .untouched h.1 h.2) ?_
  intro _ s1 heval
  obtain rfl : s1 = s := (yields_checkCapacity _ _).eval heval
  have hrecv : ∀ {sn s'}, Arrived s1 s' sid.dataset sid.snapName ds sn → Received a ds s1 s' := by
    intro sn s' h
    refine ⟨h.absent, h.pools, ⟨_, h.copy, rfl, ?_⟩, hsrc⟩
    simp [sourceSize, hsnap, hp, h.found]
  refine Breaks.bind (.onError ((breaks_cloneIndependent _ _).mono ?_)) ?_
  · rintro f s' (⟨rfl, rfl⟩ | ⟨rfl, sn, h⟩)
    · exact .untouched rfl rfl
    · exact (hrecv h).foreign (by simp [finishes]) (by simp)
  · intro _ s2 heval
    obtain ⟨sn, h, -⟩ := (yields_cloneIndependent _ _).eval (eval_onError_eq_ok.1 heval)
    rw [← hid]
    exact breaks_finishCopy (hrecv h)

theorem serve_drop_transient {source snap : String}
    (h : serve s (.snapshot source snap) = (.ok u, s1)) :
    serve s1 (.destroySnapshot source snap) = (.ok (), s) := by
  cases served h with
  | read hc => cases hc
  | snapshot hv hnone =>
    unfold serve
    dsimp only
    rw [Store.zvol?_snaps, hv, AList.lookup_insert, erase_insert hnone]

theorem serve_destroySnapshot_snaps (source snap : String) :
    { s with snaps := (serve s (.destroySnapshot source snap)).2.snaps } =
      (serve s (.destroySnapshot source snap)).2 := by
  unfold serve
  dsimp only
  split
  · rfl
  · rfl

theorem eval_attempt_destroySnapshot (source snap : String) :
    eval zfsAct {} (attempt (destroySnapshot source snap) : LocalOp _).run s =
      (.ok ((serve s (.destroySnapshot source snap)).1.mapError fun e =>
        "zfs destroy " ++ source ++ "@" ++ snap ++ ": " ++ e.text),
        (serve s (.destroySnapshot source snap)).2) := by
  rw [eval_attempt]
  unfold destroySnapshot
  rw [eval_outcome]

/-- Copying a volume over a transient snapshot, when it works without a fault. A copy after which
the snapshot could not be dropped is as good, but for the snapshot. -/
theorem faulty_copyVolume {source snap : String} {u' : Unit} {s2 : Store}
    (hsnap : serve s (.snapshot source snap) = (.ok u, s1))
    (hok : eval zfsAct {} (copyVolume source snap ds).run s1 = (.ok u', s2))
    (hrecv : ∀ sn s', Arrived s1 s' source snap ds sn → Received a ds s s') :
    Faulty (copyVolume source snap ds) s1 []
      (fun _ s' l' => l' = [] ∧ s' = s2 ∨ ∃ f, l' = [f] ∧ { s' with snaps := s2.snaps } = s2)
      fun _ s' l' => ∀ f ∈ l', Left a ds s f s' := by
  obtain ⟨r, s', hclone, hrest⟩ := eval_run_bind_eq_ok.1 hok
  rw [eval_attempt] at hclone
  refine Traces.bind (Q := fun r' s'' l' => r' = r ∧ s'' = s' ∧ l' = [] ∨ ∃ e f, r' = .error e ∧
    l' = [f] ∧ (f = .sendRecv source snap ds ∧ s'' = s1 ∨ f = .destroySnapshot ds snap ∧
      Received a ds s s'')) AtMostOne.of_append (Traces.attempt
    ((breaks_cloneIndependent source snap).evaluated.mono ?_ ?_)) ?_
  · rintro v s'' l' - ⟨rfl, heval⟩
    rw [heval] at hclone
    obtain ⟨hr, rfl⟩ := Prod.mk.inj hclone
    exact .inl ⟨Except.ok.inj hr, rfl, rfl⟩
  · rintro e s'' l' - (⟨rfl, heval⟩ | ⟨f, rfl, hf⟩)
    · rw [heval] at hclone
      obtain ⟨hr, rfl⟩ := Prod.mk.inj hclone
      exact .inl ⟨Except.ok.inj hr, rfl, rfl⟩
    · refine .inr ⟨e, f, rfl, rfl, ?_⟩
      rcases hf with hf | ⟨rfl, sn, h⟩
      · exact .inl hf
      · exact .inr ⟨rfl, hrecv sn _ h⟩
  · rintro r' s'' l' - (⟨rfl, rfl, rfl⟩ | ⟨e, f, rfl, rfl, hf⟩)
    · cases r' with
      | error e =>
        -- without a fault the copy works
        rw [eval_run_bind, eval_attempt_destroySnapshot] at hrest
        cases (Prod.mk.inj hrest).1
      | ok v =>
        rw [eval_run_bind, eval_attempt_destroySnapshot] at hrest
        obtain ⟨-, rfl⟩ := Prod.mk.inj hrest
        refine Traces.bind (Q := fun _ t l' => l' = [] ∧
          t = (serve s'' (.destroySnapshot source snap)).2 ∨ ∃ f, l' = [f] ∧ t = s'')
          AtMostOne.of_append (Traces.attempt ?_) ?_
        · refine (breaks_outcome (X := fun _ t => t = s'') rfl).evaluated.mono ?_ ?_
          · rintro _ t l' - ⟨rfl, heval⟩
            rw [eval_outcome] at heval
            exact .inl ⟨rfl, (Prod.mk.inj heval).2.symm⟩
          · rintro _ t l' - (⟨rfl, heval⟩ | hf)
            · rw [eval_outcome] at heval
              exact .inl ⟨rfl, (Prod.mk.inj heval).2.symm⟩
            · exact .inr hf
        · rintro _ t l' - (h | ⟨f, rfl, rfl⟩)
          · exact Traces.pure fun _ => .inl h
          · exact Traces.pure fun _ => .inr ⟨f, rfl, serve_destroySnapshot_snaps source snap⟩
    · refine Traces.bind AtMostOne.of_append ((faulty_spent _ _ f).weaken ?_) ?_
      · rintro _ t l' - ⟨-, heval⟩
        rw [eval_attempt] at heval
        cases (Prod.mk.inj heval).1
      · rintro _ t l' - ⟨rfl, heval⟩
        rw [eval_attempt_destroySnapshot] at heval
        obtain ⟨-, rfl⟩ := Prod.mk.inj heval
        refine Traces.throw fun _ g hg => ?_
        obtain rfl := List.mem_singleton.1 hg
        rcases hf with ⟨rfl, rfl⟩ | ⟨rfl, hr⟩
        · rw [serve_drop_transient hsnap]
          exact .untouched rfl rfl
        · exact (hr.drop source snap).foreign (by simp [finishes]) (by simp)

variable (ds s) in
theorem eval_finishCopy_snaps (src : String) (want : Int) (snaps : Map (String × String) Snap) :
    (eval zfsAct {} (finishCopy ds src want).run
      { s with snaps := snaps }).1 =
    (eval zfsAct {} (finishCopy ds src want).run s).1 := by
  have hcalls : (finishCopy ds src want).run.Calls fun c =>
      (∃ v, c = .setProp ds sourceProp v) ∨ c = .getVolsize ds ∨ ∃ n, c = .setVolsize ds n :=
    calls_finishCopy (.inl ⟨src, rfl⟩) (.inr (.inl rfl)) (.inr (.inr ⟨want, rfl⟩))
  have hframe : ∀ (t : Store) (c : Cmd), ((∃ v, c = .setProp ds sourceProp v) ∨ c = .getVolsize ds ∨
      ∃ n, c = .setVolsize ds n) → zfsAct { t with snaps := snaps } c {} =
        ((zfsAct t c {}).1, { (zfsAct t c {}).2 with snaps := snaps }) := by
    intro t c hc
    change serve { t with snaps := snaps } c = ((serve t c).1, { (serve t c).2 with snaps := snaps })
    obtain ⟨v, rfl⟩ | rfl | ⟨n, rfl⟩ := hc
    · unfold serve
      dsimp only
      rw [Store.zvol?_snaps]
      cases t.zvol? ds with
      | none => rfl
      | some v => rfl
    · rfl
    · unfold serve
      dsimp only
      rw [Store.zvol?_snaps, Store.pool?_snaps]
      split
      · rw [Store.charge_snaps]
        split
        · rfl
        · rfl
      · rfl
  rw [eval_frame (g := fun t : Store => { t with snaps := snaps }) hframe hcalls]

theorem fails_cloneFromVolume (hsnap : a.contentSnapshotID = "") (hvol : a.contentVolumeID ≠ "")
    (hok : eval zfsAct {} (cloneFromVolume c a ds).run s = (.ok u, s')) :
    Fails (cloneFromVolume c a ds) s (Left a ds s) := by
  have hid : contentSourceID a = a.contentVolumeID := if_neg (by simp [hsnap])
  unfold cloneFromVolume at hok ⊢
  cases hp : parseExternalID a.contentVolumeID with
  | error e =>
    rw [hp] at hok
    cases (Prod.mk.inj hok).1
  | ok src =>
    rw [hp] at hok
    obtain ⟨src', s0, hdecided, hok⟩ := eval_run_bind_eq_ok.1 hok
    obtain ⟨hsrc, hs0⟩ := Prod.mk.inj hdecided
    obtain rfl := Except.ok.inj hsrc
    subst hs0
    refine Traces.bind (Q := fun x t l' => src = x ∧ s = t ∧ l' = []) AtMostOne.of_append
      (Traces.pure fun _ => ⟨rfl, rfl, rfl⟩) ?_
    rintro _ _ _ - ⟨rfl, rfl, rfl⟩
    split at hok
    · cases (Prod.mk.inj hok).1
    next hnode =>
    rw [if_neg hnode]
    obtain ⟨_, s0, hcap, hok⟩ := eval_run_bind_eq_ok.1 hok
    obtain rfl : s = s0 := ((yields_checkCapacity _ _).eval hcap).symm
    obtain ⟨_, s1, hsnapshot, hok⟩ := eval_run_bind_eq_ok.1 hok
    obtain ⟨_, s2, hcopy, hfinish⟩ := eval_run_bind_eq_ok.1 hok
    have hserve := eval_outcome_eq_ok.1 (eval_onError_eq_ok.1 hsnapshot)
    obtain ⟨v, hv, hpools, hzvols, hsn, -⟩ := serve_snapshot hserve
    have hrecv : ∀ sn s', Arrived s1 s' src.dataset ("csiclone-" ++ a.name) ds sn →
        Received a ds s s' := by
      intro sn s' h
      obtain rfl := Option.some.inj (hsn.symm.trans h.found)
      refine ⟨(hzvols ds).symm.trans h.absent, hpools.trans h.pools, ⟨_, h.copy, rfl, ?_⟩, ?_⟩
      · simp [sourceSize, hsnap, hp, hv]
      · rw [hid]
        exact ⟨hvol, parseExternalID_ne_dash hp⟩
    -- before the copy a failed command leaves everything as it was
    refine Breaks.bind ((breaks_checkCapacity _ _).mono fun f s' h => .untouched h.1 h.2) ?_
    intro _ s0 hcap'
    obtain rfl : s0 = s := (yields_checkCapacity _ _).eval hcap'
    refine Breaks.bind (.onError (breaks_outcome (.untouched rfl rfl))) ?_
    intro _ t hsnapshot'
    obtain rfl : t = s1 := (Prod.mk.inj (hsnapshot'.symm.trans hsnapshot)).2
    refine Traces.bind AtMostOne.of_append (faulty_copyVolume hserve hcopy hrecv) ?_
    rintro _ t l' - (⟨rfl, rfl⟩ | ⟨f, rfl, ht⟩)
    · obtain ⟨sn, h, -⟩ := (yields_copyVolume _ _).eval hcopy
      rw [← hid]
      exact (breaks_finishCopy (hrecv sn _ h)).fails
    · -- the snapshot that could not be dropped is not looked at any more
      refine (faulty_spent _ t f).mono (fun _ _ _ _ _ => trivial) ?_
      rintro e t' l' - ⟨-, heval⟩
      have hfst := eval_finishCopy_snaps ds t a.contentVolumeID a.sizeBytes s2.snaps
      rw [ht, hfinish, heval] at hfst
      cases hfst

theorem fails_provision (hok : eval zfsAct {} (provision c a ds).run s = (.ok u, s')) :
    Fails (provision c a ds) s (Left a ds s) := by
  unfold provision at hok ⊢
  split at hok
  · next hsnap =>
    rw [if_pos hsnap]
    exact (breaks_restoreFromSnapshot hsnap).fails
  next hsnap =>
  rw [if_neg hsnap]
  rw [not_not] at hsnap
  split at hok
  · next hvol =>
    rw [if_pos hvol]
    exact fails_cloneFromVolume hsnap hvol hok
  · next hvol =>
    rw [if_neg hvol]
    refine Breaks.bind ((breaks_checkCapacity _ _).mono fun f s' h => .untouched h.1 h.2) ?_
    intro _ s1 heval
    obtain rfl : s1 = s := (yields_checkCapacity _ _).eval heval
    exact (Breaks.onError (breaks_outcome (Left.untouched rfl rfl))).fails

/-! ### A zvol that is there -/

theorem ends_cloneIndependent_present (hv : s.zvol? ds = some v) (source snap : String) :
    Ends zfsAct (fun _ => True) (cloneIndependent source snap ds) s (fun _ _ => False)
      fun _ s' => s' = s := by
  unfold cloneIndependent
  rw [← bind_assoc]
  refine Ends.bind (Q := fun _ _ => False) (ends_outcome (fun _ => rfl) ?_) fun _ _ h => h.elim
  intro _ s' h
  obtain ⟨sn, -, hnone, -⟩ := serve_sendRecv h
  rw [hv] at hnone
  cases hnone

theorem ends_provision_present (hv : s.zvol? ds = some v) :
    Ends zfsAct (fun _ => True) (provision c a ds) s (fun _ _ => False)
      fun _ s' => SamePools s s' ∧ s'.zvol? ds = some v := by
  have hcap : ∀ {α : Type} {f : Unit → LocalOp α} {Q : α → Store → Prop},
      Ends zfsAct (fun _ => True) (f ()) s Q (fun _ s' => SamePools s s' ∧ s'.zvol? ds = some v) →
      Ends zfsAct (fun _ => True) (checkCapacity c a.pool a.sizeBytes >>= f) s Q
        fun _ s' => SamePools s s' ∧ s'.zvol? ds = some v := by
    intro α f Q hf
    refine Ends.bind ((ends_checkCapacity _ _).weaken ?_) ?_
    · rintro _ _ rfl
      exact ⟨.refl _, hv⟩
    · rintro _ _ rfl
      exact hf
  unfold provision
  split
  · unfold restoreFromSnapshot
    refine Ends.bind (Q := fun _ s' => s' = s) (Ends.decided ?_) ?_
    · cases parseSnapshotID a.contentSnapshotID with
      | ok sid => rfl
      | error e => exact ⟨.refl _, hv⟩
    rintro sid _ rfl
    split
    · exact Ends.throw ⟨.refl _, hv⟩
    refine hcap (Ends.bind (Q := fun _ _ => False)
      (Ends.onError ((ends_cloneIndependent_present hv _ _).weaken ?_)) fun _ _ h => h.elim)
    rintro _ _ rfl
    exact ⟨.refl _, hv⟩
  · split
    · unfold cloneFromVolume
      refine Ends.bind (Q := fun _ s' => s' = s) (Ends.decided ?_) ?_
      · cases parseExternalID a.contentVolumeID with
        | ok eid => rfl
        | error e => exact ⟨.refl _, hv⟩
      rintro src _ rfl
      split
      · exact Ends.throw ⟨.refl _, hv⟩
      refine hcap (Ends.bind (Ends.onError (ends_outcome (fun _ => ⟨.refl _, hv⟩) fun _ _ h =>
        serve_snapshot h)) ?_)
      rintro _ s1 ⟨-, -, hpools, hzvols, -⟩
      have hv1 : s1.zvol? ds = some v := (hzvols ds).trans hv
      refine Ends.bind (Q := fun _ _ => False) ?_ fun _ _ h => h.elim
      refine Ends.bind (Q := fun r t => t = s1 ∧ ∃ e, r = .error e) (Ends.attempt
        ((ends_cloneIndependent_present hv1 _ _).mono (fun _ _ h => h.elim) ?_)) ?_
      · exact fun e t ht => ⟨ht, e, rfl⟩
      intro r t ht
      obtain ⟨rfl, e, rfl⟩ := ht
      refine Ends.bind (Q := fun _ t' => SamePools t t' ∧ ∀ d, t'.zvol? d = t.zvol? d) (Ends.attempt
        ends_destroySnapshot) ?_
      rintro _ t ⟨hpools', hzvols'⟩
      exact Ends.throw ⟨hpools.trans hpools', (hzvols' ds).trans hv1⟩
    · refine hcap (Ends.onError (ends_outcome (fun _ => ⟨.refl _, hv⟩) fun _ _ h => ?_))
      obtain ⟨hnone, -⟩ := serve_create h
      rw [hv] at hnone
      cases hnone

theorem breaks_checkExisting (hv : s.zvol? ds = some v) :
    Breaks (checkExisting a ds) s (Left a ds s) := by
  have hleft : ∀ f, Left a ds s f s := fun f => .present v hv hv (.refl s)
  refine Breaks.bind (.onError (breaks_outcome (hleft _))) ?_
  intro cur s1 heval
  obtain ⟨rfl, -⟩ := (yields_getVolsize ds).eval (eval_onError_eq_ok.1 heval)
  split
  · exact Breaks.throw _
  unfold checkProvenance
  split
  · refine Breaks.bind (.onError ?_) fun got s2 _ => ?_
    · unfold getUserProp
      rw [← bind_assoc]
      exact Breaks.bind (breaks_outcome (hleft _)) fun _ _ _ => Breaks.pure _
    · split
      · exact Breaks.throw _
      · exact Breaks.pure _
  · exact Breaks.pure _

/-- A listing that fails with exit code 1 makes the dataset look absent. -/
theorem faulty_datasetExists (ds : String) : Faulty (datasetExists ds) s []
    (fun found s' l' => s = s' ∧ (l' = [] ∧ found = (s.zvol? ds).isSome ∨
      l' = [.list ds] ∧ found = false))
    fun _ s' l' => s = s' ∧ ∀ f ∈ l', f = .list ds := by
  unfold datasetExists
  refine Traces.bind (Q := fun r s' l' => s = s' ∧ (l' = [] ∧ r = (serve s (.list ds)).1 ∨
    l' = [.list ds] ∧ ∃ e, r = .error e)) AtMostOne.of_append (faulty_perform
      (fun e => ⟨rfl, .inr ⟨rfl, e, rfl⟩⟩) ⟨rfl, .inl ⟨rfl, rfl⟩⟩) ?_
  rintro r s' l' - ⟨rfl, ⟨rfl, rfl⟩ | ⟨rfl, e, rfl⟩⟩
  · cases hv : s.zvol? ds with
    | some v =>
      rw [show (serve s (.list ds)).1 = .ok () by simp [serve, hv]]
      exact Traces.pure fun _ => ⟨rfl, .inl ⟨rfl, rfl⟩⟩
    | none =>
      rw [show (serve s (.list ds)).1 = refused "dataset does not exist" by simp [serve, hv]]
      exact Traces.pure fun _ => ⟨rfl, .inl ⟨rfl, rfl⟩⟩
  · dsimp only
    split
    · exact Traces.pure fun _ => ⟨rfl, .inr ⟨rfl, rfl⟩⟩
    · exact Traces.throw fun _ => ⟨rfl, fun f hf => List.mem_singleton.1 hf⟩

theorem fails_settleDataset (hok : eval zfsAct {} (settleDataset c a ds).run s = (.ok u, s')) :
    Fails (settleDataset c a ds) s (Left a ds s) := by
  obtain ⟨found, s0, hfound, hrest⟩ := eval_run_bind_eq_ok.1 hok
  obtain ⟨hf, hs0⟩ := Prod.mk.inj ((eval_datasetExists s ds).symm.trans
    (eval_onError_eq_ok.1 hfound))
  obtain rfl := Except.ok.inj hf
  subst hs0
  refine Traces.bind AtMostOne.of_append (Traces.onError ((faulty_datasetExists ds).weaken ?_)) ?_
  · rintro e s' l' - ⟨rfl, hl⟩ f hf
    obtain rfl := hl f hf
    exact .untouched rfl rfl
  rintro found s' l' - ⟨rfl, ⟨rfl, rfl⟩ | ⟨rfl, rfl⟩⟩
  · cases hv : s.zvol? ds with
    | some v => exact (breaks_checkExisting hv).fails
    | none =>
      rw [hv] at hrest
      exact fails_provision hrest
  · -- the dataset looks absent, and no further command fails
    refine (faulty_spent _ s (.list ds)).mono (fun _ _ _ _ _ => trivial) ?_
    rintro e s' l' - ⟨rfl, heval⟩ f hf
    obtain rfl := List.mem_singleton.1 hf
    cases hv : s.zvol? ds with
    | some v =>
      obtain ⟨hpools, hv'⟩ := (ends_provision_present hv).eval heval
      exact .present v hv hv' hpools
    | none =>
      rw [hv] at hrest
      cases (Prod.mk.inj (heval.symm.trans hrest)).1

theorem faulty_poolReady (pool : String) : Faulty (poolReady pool) s []
    (fun ready s' l' => s = s' ∧ (l' = [] ∨ l' = [.poolHealth pool] ∧ ready = false))
    fun _ s' l' => s = s' ∧ ∀ f ∈ l', f = .poolHealth pool := by
  refine Traces.bind (Q := fun st s' l' => s = s' ∧ (l' = [] ∨ l' = [.poolHealth pool] ∧
    st = (false, false))) AtMostOne.of_append (Traces.onError ?_) ?_
  · unfold poolStatus
    refine Traces.bind (Q := fun r s' l' => s = s' ∧ (l' = [] ∨ l' = [.poolHealth pool] ∧
      ∃ e, r = .error e)) AtMostOne.of_append (faulty_perform
        (fun e => ⟨rfl, .inr ⟨rfl, e, rfl⟩⟩) ⟨rfl, .inl rfl⟩) ?_
    rintro (e | health) s' l' - ⟨rfl, hl⟩
    · dsimp only
      split
      · refine Traces.pure fun _ => ⟨rfl, hl.imp_right fun h => ⟨h.1, rfl⟩⟩
      · refine Traces.throw fun _ => ⟨rfl, fun f hf => ?_⟩
        rcases hl with rfl | ⟨rfl, -⟩
        · cases hf
        · exact List.mem_singleton.1 hf
    · refine Traces.pure fun _ => ⟨rfl, .inl ?_⟩
      rcases hl with hl | ⟨-, e, he⟩
      · exact hl
      · cases he
  · rintro ⟨here, online⟩ s' l' - ⟨rfl, hl⟩
    refine Traces.pure fun _ => ⟨rfl, hl.imp_right fun h => ⟨h.1, ?_⟩⟩
    cases h.2
    rfl

/-- What a create that fails leaves, if it would have worked. -/
theorem fails_localCreate {res : CreateResult}
    (hok : eval zfsAct {} (localCreate c a).run s = (.ok res, s')) :
    Fails (localCreate c a) s (Left a (c.datasetFor a.pool a.name) s) := by
  obtain ⟨ready, s0, hready, hrest⟩ := eval_run_bind_eq_ok.1 hok
  obtain ⟨hr, hs0⟩ := Prod.mk.inj ((eval_poolReady s a.pool).symm.trans hready)
  obtain rfl := Except.ok.inj hr
  subst hs0
  refine Traces.bind AtMostOne.of_append ((faulty_poolReady a.pool).weaken ?_) ?_
  · rintro e s' l' - ⟨rfl, hl⟩ f hf
    obtain rfl := hl f hf
    exact .untouched rfl rfl
  rintro ready s' l' - ⟨rfl, hl⟩
  cases ready with
  | false =>
    refine Traces.throw fun _ f hf => ?_
    rcases hl with rfl | ⟨rfl, -⟩
    · cases hf
    · obtain rfl := List.mem_singleton.1 hf
      exact .untouched rfl rfl
  | true =>
    obtain rfl : l' = [] := by
      rcases hl with hl | ⟨-, hfalse⟩
      · exact hl
      · cases hfalse
    split at hrest
    · obtain ⟨u, s1, hsettle, -⟩ := eval_run_bind_eq_ok.1 hrest
      exact Traces.bind AtMostOne.of_append (fails_settleDataset hsettle) fun _ _ _ _ _ =>
        Traces.pure fun _ => trivial
    · cases (Prod.mk.inj hrest).1

/-! ### The retry -/

/-- The size and the recorded source of the zvol at `ds`. -/
def recordedAt (s : Store) (ds : String) : Option (Int × Option String) :=
  (s.zvol? ds).map fun v => (v.volsize, v.props.lookup sourceProp)

/-- From `s1` a create without faults succeeds as it does from `s0`: with the same result, size and
recorded source. -/
def RetriedAs (c : Controller) (a : CreateArgs) (s0 s1 : Store) : Prop :=
  ∃ res t0 t1, eval zfsAct {} (localCreate c a).run s0 = (.ok res, t0) ∧
    eval zfsAct {} (localCreate c a).run s1 = (.ok res, t1) ∧
    recordedAt t1 (c.datasetFor a.pool a.name) = recordedAt t0 (c.datasetFor a.pool a.name)

/-- The retry finds a zvol: it succeeds, with nothing to do, if that one is the requested volume. -/
theorem retriedAs_iff_matches {w : Zvol} {res : CreateResult}
    (hok : eval zfsAct {} (localCreate c a).run s = (.ok res, s')) (hpools : SamePools s s1)
    (hv : s1.zvol? (c.datasetFor a.pool a.name) = some v)
    (hw : s'.zvol? (c.datasetFor a.pool a.name) = some w) (hsame : Matches a v → v.volsize =
      w.volsize ∧ v.props.lookup sourceProp = w.props.lookup sourceProp) :
    RetriedAs c a s s1 ↔ Matches a v := by
  obtain ⟨rfl, hready, -⟩ := yields_localCreate.eval hok
  obtain ⟨hyes, hno⟩ := eval_localCreate (c := c) (a := a) (hpools.ready hready) hv
  constructor
  · rintro ⟨res, t0, t1, -, hretry, -⟩
    by_contra hm
    obtain ⟨e, he⟩ := hno hm
    cases (Prod.mk.inj (hretry.symm.trans he)).1
  · intro hm
    obtain ⟨hsize, hprop⟩ := hsame hm
    refine ⟨_, s', s1, hok, hyes hm, ?_⟩
    unfold recordedAt
    rw [hv, hw, Option.map_some, Option.map_some, hsize, hprop]

/-- A failed create can be retried exactly if the volume was there before, or the command that failed
is not one that finishes a copy, or it is the last one that reads the copy's size and nothing was
left to do after it. -/
theorem localCreate_retry_iff {res : CreateResult} {s' : Store}
    (hok : eval zfsAct {} (localCreate c a).run s = (.ok res, s'))
    {tr : List ZfsEv} {e : Error}
    (hrun : Runs zfsAct (localCreate c a).run s tr (.error e) s1) (hone : (faults tr).length ≤ 1) :
    RetriedAs c a s s1 ↔ (s.zvol? (c.datasetFor a.pool a.name)).isSome = true ∨
      ∀ f ∈ faults tr, finishes (c.datasetFor a.pool a.name) f = true →
        f = .getVolsize (c.datasetFor a.pool a.name) ∧ sourceSize a s = some a.sizeBytes ∧
          trimSpace (contentSourceID a) = contentSourceID a := by
  have hleft : ∀ f ∈ faults tr, Left a (c.datasetFor a.pool a.name) s f s1 :=
    (fails_localCreate hok).runs hrun hone
  obtain ⟨-, hready, -, w, hw, horigin, -⟩ := yields_localCreate.eval hok
  cases hl : faults tr with
  | nil =>
    cases (Prod.mk.inj (hok.symm.trans (eval_of_faults_nil hrun hl))).1
  | cons f l =>
    rw [hl, List.length_cons] at hone
    obtain rfl : l = [] := List.eq_nil_of_length_eq_zero (by omega)
    rw [List.forall_mem_singleton]
    cases hleft f (by rw [hl]; exact .head _) with
    | untouched hs hf =>
      subst hs
      refine iff_of_true ⟨res, s', s', hok, hok, rfl⟩ (.inr fun hfin => ?_)
      rw [hf] at hfin
      cases hfin
    | present v hv hv1 hpools =>
      refine iff_of_true ?_ (.inl (by rw [hv]; rfl))
      obtain ⟨hyes, hno⟩ := eval_localCreate (c := c) (a := a) hready hv
      have hm : Matches a v := by
        by_contra hm
        obtain ⟨e, he⟩ := hno hm
        cases (Prod.mk.inj (hok.symm.trans he)).1
      obtain rfl : s' = s := (Prod.mk.inj (hok.symm.trans (hyes hm))).2
      exact (retriedAs_iff_matches hok hpools hv1 hv fun _ => ⟨rfl, rfl⟩).2 hm
    | foreign v hnone hf hne hpools hv1 hm =>
      have hretry := retriedAs_iff_matches hok hpools hv1 hw fun h => absurd h hm
      refine iff_of_false (fun h => hm (hretry.1 h)) ?_
      rintro (hsome | hcond)
      · rw [hnone] at hsome
        cases hsome
      · exact hne (hcond hf).1
    | recorded v hnone hf hpools hv1 hsize hprop hsrc hdash =>
      have hsame : Matches a v → v.volsize = w.volsize ∧
          v.props.lookup sourceProp = w.props.lookup sourceProp := by
        intro hm
        cases horigin with
        | existing hsome =>
          rw [hnone] at hsome
          cases hsome
        | fresh hfresh => exact absurd hfresh hsrc
        | copied size _ _ hsize' hmax hprop' =>
          obtain rfl := Option.some.inj (hsize.symm.trans hsize')
          have hreq : v.volsize = a.sizeBytes := hm.1
          refine ⟨?_, hprop.trans hprop'.symm⟩
          omega
      have hread := read_source_iff hprop hsrc hdash
      have hfin : finishes (c.datasetFor a.pool a.name) f = true := by
        rw [hf]
        simp [finishes]
      rw [retriedAs_iff_matches hok hpools hv1 hw hsame, hnone, hsize]
      constructor
      · intro hm
        exact .inr fun _ => ⟨hf, congrArg some hm.1, hread.1 (hm.2 hsrc)⟩
      · rintro (hsome | hcond)
        · cases hsome
        · obtain ⟨-, hreq, htrim⟩ := hcond hfin
          exact ⟨Option.some.inj hreq, fun _ => hread.2 htrim⟩

end

/-! ### A node with a volume to copy -/

def tankSource : Store :=
  (tankStore 90000).putVol "tank/csi/src" ⟨16384, "16K", ∅, 0⟩

def ioError : Fault := ⟨some ⟨5, "I/O error"⟩⟩

theorem localCreate_create_retried : ∃ tr e s1,
    Runs zfsAct (localCreate (tankController "a") tankArgs).run (tankStore 90000) tr (.error e) s1 ∧
      (faults tr).length ≤ 1 ∧ RetriedAs (tankController "a") tankArgs (tankStore 90000) s1 := by
  obtain ⟨tr, r, s1, hrun, hfaults, hr⟩ := runs_of_exec zfsAct
    (localCreate (tankController "a") tankArgs).run (tankStore 90000) [{}, {}, {}, {}, ioError]
    (fun x => faults x.1 = [.create "tank/csi/vol" 16384 "16K"] ∧ x.2.1.toOption = none) (by decide)
  have hok : (eval zfsAct {} (localCreate (tankController "a") tankArgs).run
      (tankStore 90000)).1.toOption.isSome = true := by decide
  cases r with
  | ok v => cases hr
  | error e =>
    cases hev : eval zfsAct {} (localCreate (tankController "a") tankArgs).run (tankStore 90000) with
    | mk r s' =>
      rw [hev] at hok
      cases r with
      | error e => cases hok
      | ok res =>
        have hone : (faults tr).length ≤ 1 := by rw [hfaults]; decide
        refine ⟨tr, e, s1, hrun, hone, (localCreate_retry_iff hev hrun hone).2 (.inr ?_)⟩
        rw [hfaults]
        decide

/-- A clone whose source could not be recorded: the copy stays, and the retry takes it for another
volume. -/
theorem localCreate_clone_not_retried : ∃ tr e s1,
    Runs zfsAct (localCreate (tankController "a") tankClone).run tankSource tr (.error e) s1 ∧
      faults tr = [.setProp "tank/csi/vol" sourceProp "local/v1/a/tank/csi/src"] ∧
      (eval zfsAct {} (localCreate (tankController "a") tankClone).run
        tankSource).1.toOption.isSome = true ∧
      ¬ RetriedAs (tankController "a") tankClone tankSource s1 := by
  obtain ⟨tr, r, s1, hrun, hfaults, hr, hretry⟩ := runs_of_exec zfsAct
    (localCreate (tankController "a") tankClone).run tankSource
    [{}, {}, {}, {}, {}, {}, {}, {}, ioError]
    (fun x => faults x.1 = [.setProp "tank/csi/vol" sourceProp "local/v1/a/tank/csi/src"] ∧
      x.2.1.toOption = none ∧ (eval zfsAct {} (localCreate (tankController "a") tankClone).run
        x.2.2).1.toOption = none) (by decide)
  cases r with
  | ok v => cases hr
  | error e =>
    refine ⟨tr, e, s1, hrun, hfaults, by decide, ?_⟩
    rintro ⟨res, t0, t1, -, hok, -⟩
    rw [hok] at hretry
    cases hretry

end NomadCsi.Local
