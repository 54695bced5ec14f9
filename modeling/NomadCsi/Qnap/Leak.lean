import NomadCsi.Qnap.Calm

/-!
# What a failed CreateVolume leaves behind

Runs in which at most one call fails, with or without effect, and every compensating delete
succeeds. CreateVolume rolls a new target back when the LUN cannot be provisioned, and never
a LUN.
-/

namespace NomadCsi.Qnap

open Lib Lib.Go Driver

/-! ### Failed calls -/

def Call.failedWith : (c : Call) → c.Reply → Bool
  | .get, r => !r.isOk
  | .san _ _, r => !r.isOk
  | _, _ => false

def Ev.failed (e : Ev) : Bool := e.call.failedWith e.reply

/-- The appliance has carried the call out, whatever the caller was told. -/
def Ev.carried (e : Ev) : Bool :=
  match e.call with
  | .san sess c => decide (Served e.pre sess e.choice) && (e.pre.san.serve c e.choice.san).isSome
  | _ => false

/-- A failed call, and whether it was carried out all the same. -/
structure Failure where
  call : Call
  carried : Bool
deriving DecidableEq

def mishap (e : Ev) : List Failure := if e.failed then [⟨e.call, e.carried⟩] else []

def failures (tr : List Ev) : List Failure := tr.flatMap mishap

def Call.deletesTarget : Call → Bool
  | .san _ (.deleteTarget _) => true
  | _ => false

/-- The calls that CreateVolume makes on a LUN it has created. -/
def Call.late : Call → Bool
  | .san _ (.getLUN _) | .san _ (.resizeLUN _ _) | .san _ (.waitForResizeComplete _ _)
  | .san _ (.getTarget _) => true
  | _ => false

def Call.creates : Call → Bool
  | .san _ (.createTarget _) | .san _ (.createBlockLUN _) | .san _ (.cloneLUN _)
  | .san _ (.createLUNFromSnapshot _) => true
  | _ => false

/-- A failure with something new on the appliance: of a call on a LUN just created, or of a
creation that was carried out. -/
def Failure.leaks (f : Failure) : Bool := f.call.late || f.carried && f.call.creates

/-- At most one call failed, and no compensating delete did. -/
def Single (l : List Failure) : Prop := l.length ≤ 1 ∧ ∀ f ∈ l, f.call.deletesTarget = false

theorem Single.of_append (l l' : List Failure) (h : Single (l ++ l')) : Single l := by
  obtain ⟨hlen, hdel⟩ := h
  rw [List.length_append] at hlen
  exact ⟨by omega, fun f hf => hdel f (List.mem_append_left _ hf)⟩

theorem Single.eq_nil {l : List Failure} {f : Failure} (h : Single (l ++ [f])) : l = [] := by
  have hlen := h.1
  rw [List.length_append, List.length_singleton] at hlen
  exact List.eq_nil_of_length_eq_zero (by omega)

/-- Every run of `x` from `w`, after the failed calls `l`, ends in `Q` or `X` of the world and
of all failed calls. -/
abbrev Tries {α : Type} (x : Op α) (w : World) (l : List Failure)
    (Q : α → World → List Failure → Prop) (X : Err → World → List Failure → Prop) : Prop :=
  Traces act mishap Single x w l Q X

/-- What a failed call has left, by whether it was carried out. -/
def Left (c : SanCall) (s : San) (carried : Bool) (s' : San) : Prop :=
  if carried then ∃ v ch, s.serve c ch = some (v, s') else s' = s

theorem Left.of_reads {c : SanCall} {s s' : San} {b : Bool} (h : Left c s b s')
    (hr : c.reads = true) : s' = s := by
  cases b with
  | false => exact h
  | true =>
    obtain ⟨v, ch, hserve⟩ := h
    cases San.serve_effect hserve with
    | read => rfl
    | _ => cases hr

section

variable {α : Type} {w : World} {l : List Failure}

theorem tries_san {sess : Int} {c : SanCall} :
    Tries (san sess c) w l
      (fun v w' l' => l' = l ∧ (∃ ch, w.san.serve c ch = some (v, w'.san)) ∧ w'.cache = w.cache ∧
        w'.sess = w.sess)
      fun _ w' l' => ∃ b, l' = l ++ [⟨.san sess c, b⟩] ∧ Left c w.san b w'.san ∧
        w'.cache = w.cache ∧ w'.sess = w.sess := by
  change wp act (.call (.san sess c) _) w _
  intro ch
  have hcarried : ∀ r, Ev.carried ⟨w, .san sess c, ch, r⟩ =
    (decide (Served w sess ch) && (w.san.serve c ch.san).isSome) := fun _ => rfl
  rw [act_san]
  unfold sanAct
  split
  · next hno =>
    refine fun _ => ⟨false, ?_, rfl, rfl, rfl⟩
    simp [mishap, Ev.failed, Call.failedWith, Except.isOk, Except.toBool, hcarried, Served, hno]
  · split
    · next hfail =>
      refine fun _ => ⟨false, ?_, rfl, rfl, rfl⟩
      simp [mishap, Ev.failed, Call.failedWith, Except.isOk, Except.toBool, hcarried, Served, hfail]
    · next hin hfail =>
      split
      · next hserve =>
        refine fun _ => ⟨false, ?_, rfl, rfl, rfl⟩
        simp [mishap, Ev.failed, Call.failedWith, Except.isOk, Except.toBool, hcarried, hserve]
      · next v s' hserve =>
        cases ch.lost with
        | true =>
          refine fun _ => ⟨true, ?_, ⟨v, ch.san, hserve⟩, rfl, rfl⟩
          simp_all [mishap, Ev.failed, Call.failedWith, Except.isOk, Except.toBool, Served]
        | false => exact fun _ => ⟨List.append_nil _, ⟨ch.san, hserve⟩, rfl, rfl⟩

theorem tries_smGet :
    Tries smGet w l
      (fun _ w' l' => l' = l ∧ w'.san = w.san ∧ w'.cache = w.cache ∧ w'.sess.isSome = true)
      fun _ w' l' => l' = l ++ [⟨.get, false⟩] ∧ w'.san = w.san ∧ w'.cache = w.cache ∧
        w.sess = none := by
  change wp act (.call .get _) w _
  intro ch
  have hact : act w Call.get ch = ((getAct w ch).1,
      { (getAct w ch).2 with now := (getAct w ch).2.now + ch.tick }) := rfl
  rw [hact]
  unfold getAct
  cases hsess : w.sess with
  | some s => exact fun _ => ⟨List.append_nil _, rfl, rfl, by simp [hsess]⟩
  | none =>
    dsimp only
    split
    · exact fun _ => ⟨rfl, rfl, rfl, rfl⟩
    · exact fun _ => ⟨List.append_nil _, rfl, rfl, rfl⟩

/-- The invariant of the attempts may depend on what has failed so far. -/
theorem tries_smDo {fn : Int → Op α} {Q : List Failure → α → San → LunCache → Prop}
    (I : List Failure → San → LunCache → Prop) (K : Failure → Prop) (hI : I l w.san w.cache)
    (hfn : ∀ s w l, I l w.san w.cache → Tries (fn s) w l
      (fun a w' l' => l' = l ∧ Q l a w'.san w'.cache ∧ w'.sess = w.sess)
      fun _ w' l' => (∃ f, l' = l ++ [f] ∧ K f) ∧ I l' w'.san w'.cache ∧ w'.sess = w.sess) :
    Tries (smDo fn) w l
      (fun a w' l' => (l' = l ∨ ∃ f, l' = l ++ [f] ∧ K f) ∧ Q l' a w'.san w'.cache ∧
        w'.sess.isSome = true)
      fun _ w' l' => (∃ f, l' = l ++ [f] ∧ K f) ∧ I l' w'.san w'.cache ∨
        l' = l ++ [⟨.get, false⟩] ∧ w.sess = none ∧ I l w'.san w'.cache := by
  refine .bind Single.of_append (Q := fun _ w' l' => l' = l ∧ I l w'.san w'.cache ∧
    w'.sess.isSome = true) (Traces.mono tries_smGet ?_ ?_) ?_
  · rintro s w' l' - ⟨rfl, hs, hk, hsess⟩
    rw [hs, hk]
    exact ⟨rfl, hI, hsess⟩
  · rintro e w' l' - ⟨rfl, hs, hk, hnone⟩
    rw [hs, hk]
    exact .inr ⟨rfl, hnone, hI⟩
  rintro s w1 l1 - ⟨rfl, hI1, hsess1⟩
  refine .bind Single.of_append (Q := fun r w' l' => Outcome
    (fun a (w' : World) => l' = l1 ∧ Q l1 a w'.san w'.cache ∧ w'.sess = w1.sess)
    (fun _ w' => (∃ f, l' = l1 ++ [f] ∧ K f) ∧ I l' w'.san w'.cache ∧ w'.sess = w1.sess) r w')
    (.attempt (hfn s w1 l1 hI1)) ?_
  rintro (e | a) w2 l2 - h
  · obtain ⟨⟨f, rfl, hf⟩, hI2, -⟩ := h
    dsimp only
    split
    · -- the second attempt: one more failed call would be the second one
      refine .bind Single.of_append (Q := fun _ w' l' => l' = l1 ++ [f] ∧ I l' w'.san w'.cache)
        (.perform fun ch _ => ⟨List.append_nil _, (List.append_nil _).symm ▸ hI2⟩) ?_
      rintro _ w3 l3 - ⟨rfl, hI3⟩
      refine .bind Single.of_append (Q := fun _ w' l' => l' = l1 ++ [f] ∧ I l' w'.san w'.cache ∧
        w'.sess.isSome = true) (Traces.mono tries_smGet ?_ ?_) ?_
      · rintro s w' l' - ⟨rfl, hs, hk, hsess⟩
        rw [hs, hk]
        exact ⟨rfl, hI3, hsess⟩
      · rintro e w' l' hsingle ⟨rfl, -⟩
        simpa using hsingle.eq_nil
      rintro s w4 l4 - ⟨rfl, hI4, hsess4⟩
      refine (hfn s w4 _ hI4).mono ?_ ?_
      · rintro a w' l' - ⟨rfl, hQ, hsess⟩
        exact ⟨.inr ⟨f, rfl, hf⟩, hQ, hsess ▸ hsess4⟩
      · rintro e w' l' hsingle ⟨⟨f', rfl, -⟩, -⟩
        simpa using hsingle.eq_nil
    · exact .throw fun _ => .inl ⟨⟨f, rfl, hf⟩, hI2⟩
  · obtain ⟨rfl, hQ, hsess⟩ := h
    exact .pure fun _ => ⟨.inl rfl, hQ, hsess ▸ hsess1⟩

/-- What one call that may be made twice has done: `s` is the appliance before the attempt that was
answered, or after the one that failed. -/
def Tried (c : SanCall) (w : World) (l l' : List Failure) (s : San) : Prop :=
  l' = l ∧ s = w.san ∨ ∃ sess b, l' = l ++ [⟨.san sess c, b⟩] ∧ Left c w.san b s

theorem tries_smDo_call {c : SanCall} :
    Tries (smDo fun sess => san sess c) w l
      (fun v w' l' => (∃ s ch, Tried c w l l' s ∧ s.serve c ch = some (v, w'.san)) ∧
        w'.sess.isSome = true)
      fun _ w' l' => (∃ sess b, l' = l ++ [⟨.san sess c, b⟩] ∧ Left c w.san b w'.san) ∨
        l' = l ++ [⟨.get, false⟩] ∧ w.sess = none ∧ w'.san = w.san := by
  refine (tries_smDo (Q := fun l' v s' _ => ∃ s ch, Tried c w l l' s ∧ s.serve c ch = some (v, s'))
    (fun l' s _ => Tried c w l l' s) (fun f => ∃ sess b, f = ⟨.san sess c, b⟩) (.inl ⟨rfl, rfl⟩)
    ?_).mono (fun _ _ _ _ h => h.2) ?_
  · intro sess w1 l1 hs
    refine Traces.mono tries_san ?_ ?_
    · rintro v w' l' - ⟨rfl, ⟨ch, hserve⟩, -, hsess⟩
      exact ⟨rfl, ⟨_, ch, hs, hserve⟩, hsess⟩
    · rintro e w' l' hsingle ⟨b, rfl, hleft, -, hsess⟩
      refine ⟨⟨_, rfl, sess, b, rfl⟩, ?_, hsess⟩
      obtain ⟨rfl, hs⟩ | ⟨sess', b', rfl, -⟩ := hs
      · exact .inr ⟨sess, b, rfl, hs ▸ hleft⟩
      · simpa using hsingle.eq_nil
  · rintro e w' l' - (⟨⟨f, rfl, sess, b, rfl⟩, ⟨hl, -⟩ | ⟨sess', b', hl, hleft⟩⟩ | ⟨hl, hnone, hs⟩)
    · simp at hl
    · obtain ⟨rfl, rfl⟩ : sess = sess' ∧ b = b' := by simpa using hl
      exact .inl ⟨sess, b, rfl, hleft⟩
    · obtain ⟨-, hs⟩ | ⟨sess', b', hl', -⟩ := hs
      · exact .inr ⟨hl, hnone, hs⟩
      · simp at hl'

end

/-! ### The steps of CreateVolume -/

/-- Nothing new is on the appliance behind a failed call. -/
def Spotless (l : List Failure) : Prop := ∀ f ∈ l, f.leaks = false

theorem spotless_nil : Spotless [] := fun _ hf => absurd hf List.not_mem_nil

theorem spotless_snoc {l : List Failure} {f : Failure} :
    Spotless (l ++ [f]) ↔ Spotless l ∧ f.leaks = false := by
  simp [Spotless, or_imp, forall_and]

theorem Spotless.append {l : List Failure} {f : Failure} (h : Spotless l) (hf : f.leaks = false) :
    Spotless (l ++ [f]) := spotless_snoc.2 ⟨h, hf⟩

variable {vp : VolumeParams} {name : String} {t sizeGB : Int}

section

variable {c : Controller} {w : World} {l : List Failure}

theorem tries_ensureFresh :
    Tries ensureFresh w [] (fun _ w' l' => w.Refreshed w' ∧ Spotless l')
      fun _ w' l' => w'.san = w.san ∧ Spotless l' := by
  have hlist : ∀ sess b, Failure.leaks ⟨.san sess .listLUNs, b⟩ = false ∧
      Failure.leaks ⟨.san sess .listTargets, b⟩ = false := by
    rintro sess (_ | _) <;> exact ⟨rfl, rfl⟩
  refine .bind Single.of_append (Q := fun fresh w' l' => fresh = w.cache.isFresh w.now ∧
    w'.san = w.san ∧ w'.cache = w.cache ∧ l' = []) (.perform fun ch _ => ⟨rfl, rfl, rfl, rfl⟩) ?_
  rintro (_ | _) w1 l1 - ⟨hfresh, hs, hk, rfl⟩
  · refine .bind Single.of_append (Q := fun lists w' l' => w'.san = w.san ∧
      lists = (w.san.allLUNs, w.san.allTargets) ∧ Spotless l') ((tries_smDo
        (Q := fun _ lists s _ => s = w.san ∧ lists = (w.san.allLUNs, w.san.allTargets))
        (fun _ s _ => s = w.san) (fun f => f.leaks = false) hs ?_).mono ?_ ?_) ?_
    · intro sess w2 l2 hs2
      refine .bind Single.of_append (Traces.weaken tries_san ?_) ?_
      · rintro e w' l' - ⟨b, rfl, hleft, -, hsess⟩
        exact ⟨⟨_, rfl, (hlist sess b).1⟩, (hleft.of_reads rfl).trans hs2, hsess⟩
      rintro luns w3 l3 - ⟨rfl, ⟨ch, hluns⟩, -, hsess⟩
      obtain ⟨rfl, hs3⟩ := Prod.mk.inj (Option.some.inj hluns)
      refine .bind Single.of_append (Traces.weaken tries_san ?_) ?_
      · rintro e w' l' - ⟨b, rfl, hleft, -, hsess'⟩
        exact ⟨⟨_, rfl, (hlist sess b).2⟩, (hleft.of_reads rfl).trans (hs3.symm.trans hs2),
          hsess'.trans hsess⟩
      rintro targets w4 l4 - ⟨rfl, ⟨ch', htargets⟩, -, hsess'⟩
      obtain ⟨rfl, hs4⟩ := Prod.mk.inj (Option.some.inj htargets)
      refine .pure fun _ => ⟨rfl, ⟨hs4.symm.trans (hs3.symm.trans hs2), ?_⟩, hsess'.trans hsess⟩
      rw [← hs3, hs2]
    · rintro lists w' l' - ⟨hl, ⟨hs', hlists⟩, -⟩
      refine ⟨hs', hlists, ?_⟩
      rcases hl with rfl | ⟨f, rfl, hf⟩
      · exact spotless_nil
      · exact Spotless.append spotless_nil hf
    · rintro e w' l' - (⟨⟨f, rfl, hf⟩, hs'⟩ | ⟨rfl, -, hs'⟩)
      · exact ⟨hs', Spotless.append spotless_nil hf⟩
      · exact ⟨hs', Spotless.append spotless_nil rfl⟩
    · rintro _ w2 l2 - ⟨hs2, rfl, hl⟩
      refine .perform fun ch _ => ⟨refreshed_of_ends ⟨hs2, .inr ⟨hfresh.symm, _, rfl⟩⟩, ?_⟩
      exact (List.append_nil l2).symm ▸ hl
  · exact .pure fun _ => ⟨refreshed_of_ends ⟨hs, .inl ⟨hfresh.symm, hk⟩⟩, spotless_nil⟩

theorem tries_assembleVolume {source : Option ContentSource} {i : Int} {own : Bool} :
    Tries (assembleVolume c source vp i t own sizeGB) w l (fun _ w' _ => w'.san = w.san)
      fun _ w' l' => w'.san = w.san ∧ (w.sess.isSome = true → ∃ f ∈ l', f.leaks = true) := by
  refine .bind Single.of_append (Q := fun _ w' _ => w'.san = w.san) (.onError ((tries_smDo
    (Q := fun _ _ s _ => s = w.san) (fun _ s _ => s = w.san) (fun f => f.leaks = true) rfl
    ?_).mono (fun _ _ _ _ h => h.2.1) ?_)) ?_
  · intro sess w2 l2 hs2
    refine .bind Single.of_append (Traces.weaken tries_san ?_) ?_
    · rintro e w' l' - ⟨b, rfl, hleft, -, hsess⟩
      exact ⟨⟨_, rfl, rfl⟩, (hleft.of_reads rfl).trans hs2, hsess⟩
    rintro lun w3 l3 - ⟨rfl, ⟨ch, hlun⟩, -, hsess⟩
    have hs3 := (San.serve_getLUN hlun).1
    refine .bind Single.of_append (Traces.weaken tries_san ?_) ?_
    · rintro e w' l' - ⟨b, rfl, hleft, -, hsess'⟩
      exact ⟨⟨_, rfl, rfl⟩, (hleft.of_reads rfl).trans (hs3.trans hs2), hsess'.trans hsess⟩
    rintro tgt w4 l4 - ⟨rfl, ⟨ch', htgt⟩, -, hsess'⟩
    obtain ⟨x, -, heq⟩ := Option.map_eq_some_iff.1 htgt
    obtain ⟨-, hs4⟩ := Prod.mk.inj heq
    exact .pure fun _ => ⟨rfl, hs4.symm.trans (hs3.trans hs2), hsess'.trans hsess⟩
  · rintro e w' l' - (⟨⟨f, rfl, hf⟩, hs'⟩ | ⟨rfl, hnone, hs'⟩)
    · exact ⟨hs', fun _ => ⟨f, by simp, hf⟩⟩
    · refine ⟨hs', fun hsess => ?_⟩
      rw [hnone] at hsess
      cases hsess
  · intro p w1 l1 _ hs
    exact .bind Single.of_append (Q := fun _ w' _ => w'.san = w.san) (.perform fun _ _ => hs)
      fun _ _ _ _ h => .pure fun _ => h

/-- The lookup leaves the appliance alone; it fails only for a name the cache knows. -/
theorem tries_existingFromCache {wantBytes : Int} :
    Tries (existingFromCache c name wantBytes vp) w l
      (fun r w' l' => w'.san = w.san ∧ (r = none → w.cache.lookupByName name = none ∧ l' = l))
      fun _ w' _ => w'.san = w.san ∧ (w.cache.lookupByName name).isSome = true := by
  refine .bind Single.of_append (Q := fun r w' l' => r = w.cache.lookupByName name ∧
    w'.san = w.san ∧ w'.cache = w.cache ∧ l' = l)
    (.perform fun ch _ => ⟨rfl, rfl, rfl, List.append_nil _⟩) ?_
  rintro (_ | lun) w1 l1 - ⟨hl, hs, hk, rfl⟩
  · exact .pure fun _ => ⟨hs, fun _ => ⟨hl.symm, rfl⟩⟩
  · have hknown : (w.cache.lookupByName name).isSome = true := by rw [← hl]; rfl
    dsimp only
    split
    · exact .throw fun _ => ⟨hs, hknown⟩
    · refine .bind Single.of_append (Q := fun _ w' _ => w'.san = w.san) (.perform fun _ _ => hs) ?_
      rintro (_ | t) w2 l2 - hs2
      · exact .throw fun _ => ⟨hs2, hknown⟩
      · refine .bind Single.of_append (Traces.weaken tries_assembleVolume ?_) ?_
        · rintro e w' l' - ⟨hs', -⟩
          exact ⟨hs'.trans hs2, hknown⟩
        · intro v w3 l3 _ hs3
          exact .pure fun _ => ⟨hs3.trans hs2, nofun⟩

def SameRows (s s' : San) : Prop :=
  (∀ i, s'.luns.lookup i = s.luns.lookup i) ∧ ∀ t, s'.targets.lookup t = s.targets.lookup t

theorem SameRows.of_eq {s s' : San} (h : s' = s) : SameRows s s' := by
  rw [h]
  exact ⟨fun _ => rfl, fun _ => rfl⟩

/-- `s'` has a target that `s` has not, other than `t`. -/
def San.Strays (s : San) (t : Int) (s' : San) : Prop :=
  ∃ t', t' ∉ s.targets ∧ t' ∈ s'.targets ∧ t' ≠ t

theorem not_sameRows_of_target {s s' : San} {t : Int} (hnew : t ∉ s.targets)
    (hthere : t ∈ s'.targets) : ¬ SameRows s s' := by
  intro hsame
  have hsome := AList.lookup_isSome.2 hthere
  rw [hsame.2 t] at hsome
  exact hnew (AList.lookup_isSome.1 hsome)

theorem San.Strays.not_dropped {s s' : San} (h : s.Strays t s') :
    ¬ SameRows s (s'.dropTarget t) := by
  obtain ⟨t', hnew, hthere, hne⟩ := h
  exact not_sameRows_of_target hnew (AList.mem_erase.2 ⟨hne, hthere⟩)

def San.AddsTarget (s : San) (t : Int) (s' : San) : Prop :=
  t ∉ s.targets ∧ ∃ row, s' = { s with targets := s.targets.insert t row }

theorem San.AddsTarget.of_serve {s s' : San} {r : CreateTargetRequest} {ch : SanChoice}
    (h : s.serve (.createTarget r) ch = some (t, s')) : s.AddsTarget t s' := by
  have he := San.serve_effect h
  cases he with
  | read _ hr => cases hr
  | addTarget _ iqn hnew => exact ⟨hnew, _, rfl⟩

theorem San.AddsTarget.mem {s s' : San} (h : s.AddsTarget t s') {t' : Int} :
    t' ∈ s'.targets ↔ t' = t ∨ t' ∈ s.targets := by
  obtain ⟨-, row, rfl⟩ := h
  exact AList.mem_insert _

/-- A target for the new volume, and no other unless the reply to the first call was lost. -/
theorem tries_resolveTarget (hvp : vp.targetIndex = none) (hl : Spotless l) :
    Tries (resolveTarget c name vp) w l
      (fun r w' l' => r.2 = true ∧ w'.san.luns = w.san.luns ∧ w'.sess.isSome = true ∧
        (w.san.AddsTarget r.1 w'.san ∧ Spotless l' ∨
          w.san.Strays r.1 w'.san ∧ ¬ Spotless l'))
      fun _ w' l' => SameRows w.san w'.san ↔ Spotless l' := by
  unfold resolveTarget
  rw [hvp]
  refine .bind Single.of_append (Q := fun t w' l' => w'.san.luns = w.san.luns ∧
    w'.sess.isSome = true ∧ (w.san.AddsTarget t w'.san ∧ Spotless l' ∨
      w.san.Strays t w'.san ∧ ¬ Spotless l')) (.onError (Traces.mono tries_smDo_call ?_ ?_))
    fun t w1 l1 _ h => .pure fun _ => ⟨rfl, h⟩
  · rintro t w' l' - ⟨⟨s, ch, htried, hserve⟩, hsess⟩
    have hadds := San.AddsTarget.of_serve hserve
    have hluns : w'.san.luns = s.luns := by
      obtain ⟨-, row, heq⟩ := hadds
      rw [heq]
    rcases htried with ⟨rfl, rfl⟩ | ⟨sess, _ | _, rfl, hleft⟩
    · exact ⟨hluns, hsess, .inl ⟨hadds, hl⟩⟩
    · obtain rfl : s = w.san := hleft
      exact ⟨hluns, hsess, .inl ⟨hadds, hl.append rfl⟩⟩
    · obtain ⟨t', ch', hserve'⟩ := hleft
      have hadds' := San.AddsTarget.of_serve hserve'
      have hluns' : s.luns = w.san.luns := by
        obtain ⟨-, row, heq⟩ := hadds'
        rw [heq]
      have hthere : t' ∈ s.targets := hadds'.mem.2 (.inl rfl)
      refine ⟨hluns.trans hluns', hsess, .inr ⟨⟨t', hadds'.1, hadds.mem.2 (.inr hthere), ?_⟩, ?_⟩⟩
      · rintro rfl
        exact hadds.1 hthere
      · exact fun h => Bool.false_ne_true (spotless_snoc.1 h).2.symm
  · rintro e w' l' - (⟨sess, _ | _, rfl, hleft⟩ | ⟨rfl, -, hs⟩)
    · exact iff_of_true (.of_eq hleft) (hl.append rfl)
    · obtain ⟨t', ch', hserve'⟩ := hleft
      have hadds := San.AddsTarget.of_serve hserve'
      exact iff_of_false (not_sameRows_of_target hadds.1 (hadds.mem.2 (.inl rfl)))
        fun h => Bool.false_ne_true (spotless_snoc.1 h).2.symm
    · exact iff_of_true (.of_eq hs) (hl.append rfl)

def San.Grown (s s' : San) : Prop := ∃ i, i ∉ s.luns ∧ i ∈ s'.luns

theorem tries_growToRequested {s0 : San} {i : Int} (hnew : i ∉ s0.luns) (hthere : i ∈ w.san.luns)
    (hsess : w.sess.isSome = true) : Tries (growToRequested i sizeGB) w l
      (fun _ w' _ => s0.Grown w'.san ∧ w'.sess.isSome = true)
      fun _ w' l' => s0.Grown w'.san ∧ ∃ f ∈ l', f.leaks = true := by
  have hloggedIn : ∀ {w : World}, w.sess.isSome = true → w.sess ≠ none := by
    intro w h hnone
    rw [hnone] at h
    cases h
  refine .bind Single.of_append (Q := fun _ w' _ => i ∈ w'.san.luns ∧ w'.sess.isSome = true)
    (.onError (Traces.mono tries_smDo_call ?_ ?_)) ?_
  · rintro lun w' l' - ⟨⟨s, ch, htried, hserve⟩, hsess'⟩
    have hs : s = w.san := by
      rcases htried with ⟨-, hs⟩ | ⟨sess, b, -, hleft⟩
      · exact hs
      · exact hleft.of_reads rfl
    rw [(San.serve_getLUN hserve).1, hs]
    exact ⟨hthere, hsess'⟩
  · rintro e w' l' - (⟨sess, b, rfl, hleft⟩ | ⟨-, hnone, -⟩)
    · exact ⟨⟨i, hnew, hleft.of_reads rfl ▸ hthere⟩, _, List.mem_append_right _ (.head _), rfl⟩
    · exact absurd hnone (hloggedIn hsess)
  rintro lun w1 l1 - ⟨hthere1, hsess1⟩
  split
  · exact .pure fun _ => ⟨⟨i, hnew, hthere1⟩, hsess1⟩
  · have hresized : ∀ {s s' : San} {v gb ch}, s.serve (.resizeLUN i gb) ch = some (v, s') →
        i ∈ s'.luns := by
      intro s s' v gb ch hserve
      obtain ⟨row, -, heq⟩ := Option.map_eq_some_iff.1 hserve
      rw [← (Prod.mk.inj heq).2]
      exact (AList.mem_insert _).2 (.inl rfl)
    refine (tries_smDo (Q := fun _ _ s _ => i ∈ s.luns) (fun _ s _ => i ∈ s.luns)
      (fun f => f.leaks = true) hthere1 ?_).mono ?_ ?_
    · intro sess w2 l2 hthere2
      refine .bind Single.of_append (Traces.weaken tries_san ?_) ?_
      · rintro e w' l' - ⟨_ | _, rfl, hleft, -, hsess'⟩
        · exact ⟨⟨_, rfl, rfl⟩, hleft ▸ hthere2, hsess'⟩
        · obtain ⟨v, ch, hserve⟩ := hleft
          exact ⟨⟨_, rfl, rfl⟩, hresized hserve, hsess'⟩
      rintro _ w3 l3 - ⟨rfl, ⟨ch, hserve⟩, -, hsess3⟩
      have hthere3 := hresized hserve
      refine .bind Single.of_append (Traces.weaken tries_san ?_) ?_
      · rintro e w' l' - ⟨b, rfl, hleft, -, hsess'⟩
        exact ⟨⟨_, rfl, rfl⟩, hleft.of_reads rfl ▸ hthere3, hsess'.trans hsess3⟩
      rintro _ w4 l4 - ⟨rfl, ⟨ch', hserve'⟩, -, hsess4⟩
      have he := San.serve_effect hserve'
      refine .pure fun _ => ⟨rfl, ?_, hsess4.trans hsess3⟩
      generalize w4.san = s4 at he
      cases he with
      | read => exact hthere3
    · rintro _ w' l' - ⟨-, hthere', hsess'⟩
      exact ⟨⟨i, hnew, hthere'⟩, hsess'⟩
    · rintro e w' l' - (⟨⟨f, rfl, hf⟩, hthere'⟩ | ⟨-, hnone, -⟩)
      · exact ⟨⟨i, hnew, hthere'⟩, f, by simp, hf⟩
      · exact absurd hnone (hloggedIn hsess1)

/-- How provisioning can fail: before a new LUN was there and without effect, or after. -/
def FailedProvision (s : San) (l : List Failure) (w' : World) (l' : List Failure) : Prop :=
  w'.san = s ∧ (Spotless l' ↔ Spotless l) ∧ (w'.sess.isSome = true ∨ l' ≠ []) ∨
    s.Grown w'.san ∧ ∃ f ∈ l', f.leaks = true

theorem tries_created {α : Type} {call : SanCall} {op : Err → Err} {f : call.Val → Op α}
    {Q : α → World → List Failure → Prop}
    (hcreates : ∀ sess b, Failure.leaks ⟨.san sess call, b⟩ = b)
    (new : call.Val → Int) (hnew : ∀ {s s' : San} {v ch}, s.serve call ch = some (v, s') →
      new v ∉ s.luns ∧ ∃ row, s'.luns = s.luns.insert (new v) row)
    (hrest : ∀ v w1 l1, new v ∉ w.san.luns → new v ∈ w1.san.luns → w1.sess.isSome = true →
      Tries (f v) w1 l1 Q (fun _ w' l' => FailedProvision w.san l w' l')) :
    Tries (onError op (smDo fun sess => san sess call) >>= f) w l Q
      fun _ w' l' => FailedProvision w.san l w' l' := by
  have hgrown : ∀ {s s' : San} {v ch}, s.serve call ch = some (v, s') → new v ∈ s'.luns ∧
      ∀ i ∈ s.luns, i ∈ s'.luns := by
    intro s s' v ch hserve
    obtain ⟨-, row, hrow⟩ := hnew hserve
    rw [hrow]
    exact ⟨(AList.mem_insert _).2 (.inl rfl), fun i hi => (AList.mem_insert _).2 (.inr hi)⟩
  refine .bind Single.of_append (Q := fun v w' _ => new v ∉ w.san.luns ∧ new v ∈ w'.san.luns ∧
    w'.sess.isSome = true) (.onError (Traces.mono tries_smDo_call ?_ ?_)) ?_
  · rintro v w' l' - ⟨⟨s, ch, htried, hserve⟩, hsess⟩
    refine ⟨fun hin => (hnew hserve).1 ?_, (hgrown hserve).1, hsess⟩
    rcases htried with ⟨-, rfl⟩ | ⟨sess, _ | _, -, hleft⟩
    · exact hin
    · exact hleft ▸ hin
    · obtain ⟨v', ch', hserve'⟩ := hleft
      exact (hgrown hserve').2 _ hin
  · rintro e w' l' - (⟨sess, _ | _, rfl, hleft⟩ | ⟨rfl, -, hs⟩)
    · exact .inl ⟨hleft, spotless_snoc.trans (and_iff_left (hcreates sess false)), .inr (by simp)⟩
    · obtain ⟨v, ch, hserve⟩ := hleft
      exact .inr ⟨⟨new v, (hnew hserve).1, (hgrown hserve).1⟩, _, List.mem_append_right _ (.head _),
        hcreates sess true⟩
    · exact .inl ⟨hs, spotless_snoc.trans (and_iff_left rfl), .inr (by simp)⟩
  · rintro v w1 l1 - ⟨hnew, hthere, hsess⟩
    exact hrest v w1 l1 hnew hthere hsess

theorem tries_provisionLUN {source : Option ContentSource} (hsess : w.sess.isSome = true) :
    Tries (provisionLUN source vp name sizeGB t) w l
      (fun _ w' _ => w.san.Grown w'.san ∧ w'.sess.isSome = true)
      fun _ w' l' => FailedProvision w.san l w' l' := by
  have hgrow : ∀ (i : Int) (w1 : World) (l1 : List Failure), i ∉ w.san.luns → i ∈ w1.san.luns →
      w1.sess.isSome = true → Tries (growToRequested i sizeGB >>= fun _ => pure i) w1 l1
        (fun _ w' _ => w.san.Grown w'.san ∧ w'.sess.isSome = true)
        fun _ w' l' => FailedProvision w.san l w' l' := by
    intro i w1 l1 hnew hthere hsess1
    exact .bind Single.of_append ((tries_growToRequested hnew hthere hsess1).weaken
      fun _ _ _ _ h => .inr h) fun _ _ _ _ h => .pure fun _ => h
  have hrefused : FailedProvision w.san l w l := .inl ⟨rfl, Iff.rfl, .inl hsess⟩
  have hadds : ∀ {s s' : San} {i t : Int} {name : String}, s.Adds i name t s' →
      i ∉ s.luns ∧ ∃ row, s'.luns = s.luns.insert i row := by
    rintro s s' i t name ⟨hnew, -, row, -, rfl⟩
    exact ⟨hnew, row, rfl⟩
  unfold provisionLUN
  dsimp only
  split
  · cases parseSnapshotID (source.getD ⟨"", ""⟩).snapshotID with
    | error e => exact .throw fun _ => hrefused
    | ok sid =>
      rw [check_ok_bind]
      refine tries_created (by rintro sess (_ | _) <;> rfl) id
        (fun h => hadds (San.serve_effect h).adds_restore) hgrow
  · split
    · cases parseExternalID (source.getD ⟨"", ""⟩).volumeID with
      | error e => exact .throw fun _ => hrefused
      | ok eid =>
        rw [check_ok_bind]
        refine tries_created (by rintro sess (_ | _) <;> rfl) id
          (fun h => hadds (San.serve_effect h).adds_clone) hgrow
    · rw [← bind_pure (onError _ _)]
      refine tries_created (by rintro sess (_ | _) <;> rfl) id
        (fun h => hadds (San.serve_effect h).adds_block) ?_
      intro i w1 l1 hnew hthere hsess1
      exact .pure fun _ => ⟨⟨i, hnew, hthere⟩, hsess1⟩

/-- The roll-back removes the target: a login cannot be what fails. -/
theorem tries_rollbackTarget (hsess : w.sess.isSome = true ∨ l ≠ []) :
    Tries (rollbackTarget t true) w l (fun _ w' l' => w'.san = w.san.dropTarget t ∧ l' = l)
      fun _ _ _ => False := by
  have hdelete : ∀ {sess b}, ¬ Single (l ++ [⟨.san sess (.deleteTarget t), b⟩]) := by
    intro sess b hsingle
    cases hsingle.2 _ (List.mem_append_right _ (.head _))
  refine .bind Single.of_append (Q := fun _ w' l' => w'.san = w.san.dropTarget t ∧ l' = l)
    (.attempt (Traces.mono tries_smDo_call ?_ ?_)) fun _ _ _ _ h => .pure fun _ => h
  · rintro v w' l' hsingle ⟨⟨s, ch, ⟨rfl, rfl⟩ | ⟨sess, b, rfl, -⟩, hserve⟩, -⟩
    · have he := San.serve_effect hserve
      generalize w'.san = s' at he
      cases he with
      | read _ hr => cases hr
      | dropTarget => exact ⟨rfl, rfl⟩
    · exact absurd hsingle hdelete
  · rintro e w' l' hsingle (⟨sess, b, rfl, -⟩ | ⟨rfl, hnone, -⟩)
    · exact absurd hsingle hdelete
    · rw [hnone] at hsess
      rcases hsess with h | h
      · cases h
      · exact absurd hsingle.eq_nil h

theorem San.Grown.not_sameRows {s s' : San} (h : s.Grown s') : ¬ SameRows s s' := by
  obtain ⟨i, hnew, hthere⟩ := h
  intro hsame
  have hsome := AList.lookup_isSome.2 hthere
  rw [hsame.1 i] at hsome
  exact hnew (AList.lookup_isSome.1 hsome)

theorem San.AddsTarget.dropped {s s' : San} (h : s.AddsTarget t s') :
    SameRows s (s'.dropTarget t) := by
  obtain ⟨hnew, row, rfl⟩ := h
  refine ⟨fun _ => rfl, fun t' => ?_⟩
  change ((s.targets.insert t row).erase t).lookup t' = _
  by_cases ht : t' = t
  · rw [ht, AList.lookup_erase]
    exact (AList.lookup_eq_none.2 hnew).symm
  · rw [AList.lookup_erase_ne ht, AList.lookup_insert_ne ht]

/-- What a provisioning that failed leaves behind, on a target that was made for it. -/
theorem tries_provisionOn {req : CreateVolumeRequest} {s0 : San} (hluns : w.san.luns = s0.luns)
    (hsess : w.sess.isSome = true) (hmade : s0.AddsTarget t w.san ∧ Spotless l ∨
      s0.Strays t w.san ∧ ¬ Spotless l) :
    Tries (provisionOn c req vp name sizeGB t true) w l (fun _ _ _ => True)
      fun _ w' l' => SameRows s0 w'.san ↔ Spotless l' := by
  have hgrown : ∀ {s' : San} {l' : List Failure}, w.san.Grown s' → (∃ f ∈ l', f.leaks = true) →
      (SameRows s0 s' ↔ Spotless l') := by
    rintro s' l' ⟨i, hnew, hthere⟩ ⟨f, hf, hleaks⟩
    refine iff_of_false (San.Grown.not_sameRows ⟨i, hluns ▸ hnew, hthere⟩) fun h => ?_
    rw [h f hf] at hleaks
    cases hleaks
  refine .bind Single.of_append (Q := fun r w' l' => Outcome
    (fun _ (w' : World) => w.san.Grown w'.san ∧ w'.sess.isSome = true)
    (fun _ w' => FailedProvision w.san l w' l') r w') (.attempt (tries_provisionLUN hsess)) ?_
  rintro (e | i) w1 l1 - h
  · rcases h with ⟨hs, hsame, hsess1⟩ | ⟨hgrow, f, hf, hleaks⟩
    · refine .bind Single.of_append ((tries_rollbackTarget hsess1).weaken
        fun _ _ _ _ h => h.elim) ?_
      rintro _ w2 l2 - ⟨hs2, rfl⟩
      refine .throw fun _ => ?_
      rw [hs2, hs, hsame]
      rcases hmade with ⟨hadds, hl⟩ | ⟨hstrays, hl⟩
      · exact iff_of_true hadds.dropped hl
      · exact iff_of_false hstrays.not_dropped hl
    · refine .bind Single.of_append ((tries_rollbackTarget
        (.inr (List.ne_nil_of_mem hf))).weaken fun _ _ _ _ h => h.elim) ?_
      rintro _ w2 l2 - ⟨hs2, rfl⟩
      refine .throw fun _ => hgrown ?_ ⟨f, hf, hleaks⟩
      rw [hs2]
      exact hgrow
  · obtain ⟨hgrow, hsess1⟩ := h
    refine Traces.mono tries_assembleVolume (fun _ _ _ _ _ => trivial) ?_
    rintro e w' l' - ⟨hs, hleaks⟩
    exact hgrown (hs ▸ hgrow) (hleaks hsess1)

end

theorem tries_createVolume (c : Controller) (req : CreateVolumeRequest) (w : World) :
    Tries (createVolume c req) w [] (fun _ _ _ => True)
      fun _ w' l' => SameRows w.san w'.san ↔ Known w req.name ∨ Spotless l' := by
  unfold createVolume
  cases hvp : resolveParams c.cfg req.parameters req.volumeCapabilities with
  | error e => exact .throw fun _ => iff_of_true (.of_eq rfl) (.inr spotless_nil)
  | ok vp =>
    rw [check_ok_bind]
    cases hsize : sizeGiBExact req.capacityRange with
    | error e => exact .throw fun _ => iff_of_true (.of_eq rfl) (.inr spotless_nil)
    | ok sizeGB =>
      rw [check_ok_bind]
      unfold findExistingVolume
      rw [bind_assoc]
      refine .bind Single.of_append
        (.onError (Traces.weaken tries_ensureFresh ?_)) ?_
      · rintro e w' l' - ⟨hs, hl⟩
        exact iff_of_true (.of_eq hs) (.inr hl)
      rintro _ w1 l1 - ⟨href, hl1⟩
      refine .bind Single.of_append (Traces.weaken tries_existingFromCache ?_) ?_
      · rintro e w' l' - ⟨hs, hknown⟩
        rw [href.lookupByName] at hknown
        exact iff_of_true (.of_eq (hs.trans href.san)) (.inl hknown)
      rintro (_ | v) w2 l2 - ⟨hs2, hnone⟩
      · obtain ⟨hmiss, rfl⟩ := hnone rfl
        rw [href.lookupByName] at hmiss
        have hunknown : ¬ Known w req.name := by
          rw [Known, hmiss]
          exact Bool.false_ne_true
        have hs : w2.san = w.san := hs2.trans href.san
        refine .bind Single.of_append ((tries_resolveTarget (resolveParams_targetIndex hvp)
          hl1).weaken ?_) ?_
        · intro e w' l' _ h
          rw [or_iff_right hunknown, ← hs]
          exact h
        rintro ⟨t, own⟩ w3 l3 - ⟨rfl, hluns, hsess3, hmade⟩
        rw [hs] at hluns hmade
        refine (tries_provisionOn hluns hsess3 hmade).weaken ?_
        intro e w' l' _ h
        rw [or_iff_right hunknown]
        exact h
      · exact .pure fun _ => trivial

/-- A CreateVolume that failed, with at most one failing call and no failing compensating delete,
leaves the LUNs and targets as they were exactly if the name was known already or the failing call
is neither one on a LUN that was just created nor a creation that the appliance has carried out. -/
theorem createVolume_leak_iff {c : Controller} {req : CreateVolumeRequest} {w w' : World}
    {tr : List Ev} {e : Err} (hrun : Runs act (createVolume c req).run w tr (.error e) w')
    (hone : (failures tr).length ≤ 1)
    (hdelete : ∀ f ∈ failures tr, f.call.deletesTarget = false) :
    SameRows w.san w'.san ↔ Known w req.name ∨ ∀ f ∈ failures tr, f.leaks = false :=
  (tries_createVolume c req w).runs hrun ⟨hone, hdelete⟩

theorem createVolume_rolled_back : ∃ tr e w',
    Runs act (createVolume .plain (request "vol1")).run (.of [] [] []) tr (.error e) w' ∧
    (∃ f ∈ failures tr, ∃ sess r, f.call = .san sess (.createBlockLUN r)) ∧
    SameRows (World.of [] [] []).san w'.san := by
  obtain ⟨tr, r, w', hrun, hbad, hfail⟩ := runs_of_exec act
    (createVolume .plain (request "vol1")).run (.of [] [] [])
    [{}, {}, {}, {}, {}, {}, {}, {}, {}, { fail := true }, {}, {}]
    (fun x => x.2.1.isOk = false ∧
      failures x.1 = [⟨.san 1 (.createBlockLUN ⟨"vol1", 1, 1, 512, true, 0⟩), false⟩]) (by decide)
  cases r with
  | ok v => cases hbad
  | error e =>
    refine ⟨tr, e, w', hrun, ?_, (createVolume_leak_iff hrun ?_ ?_).2 (.inr ?_)⟩
    · rw [hfail]
      exact ⟨_, .head _, _, _, rfl⟩
    · rw [hfail]
      decide
    · rw [hfail]
      decide
    · rw [hfail]
      decide

/-- The target cannot be read back: the volume is refused, its LUN and its target stay. -/
theorem createVolume_leaks_lun : ¬ ∀ (c : Controller) (req : CreateVolumeRequest) (w w' : World)
    (tr : List Ev) (e : Err), Runs act (createVolume c req).run w tr (.error e) w' →
      (failures tr).length ≤ 1 → (∀ f ∈ failures tr, f.call.deletesTarget = false) →
      SameRows w.san w'.san := by
  intro h
  obtain ⟨tr, r, w', hrun, hbad, hone, hdelete, hlun⟩ := runs_of_exec act
    (createVolume .plain (request "vol1")).run (.of [] [] [])
    [{}, {}, {}, {}, {}, {}, {}, {}, {}, {}, {}, {}, { fail := true }]
    (fun x => x.2.1.isOk = false ∧
      (failures x.1).length ≤ 1 ∧ (∀ f ∈ failures x.1, f.call.deletesTarget = false) ∧
      x.2.2.san.luns.lookup 0 = some ⟨"vol1", giB⟩) (by decide)
  cases r with
  | ok v => cases hbad
  | error e =>
    have hsame := (h _ _ _ _ _ _ hrun hone hdelete).1 0
    rw [hlun] at hsame
    cases hsame

end NomadCsi.Qnap
