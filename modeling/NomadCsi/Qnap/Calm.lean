import NomadCsi.Lib.Env
import NomadCsi.Qnap.Stale

/-!
# Runs in which the appliance answers

A choice `Answers` if the call is not disturbed. `ends_smDo` is the rule for the session manager
in such runs: whatever the cached session is (none, accepted or expired), the closure is run under
an accepted one, provided that under an expired one it stops at its first call.
-/

namespace NomadCsi.Qnap

open Lib Lib.Go Driver

structure Choice.Answers (ch : Choice) : Prop where
  expire : ch.expire = false
  fail : ch.fail = false
  lost : ch.lost = false
  error : isAuthError (.san ch.error) = false

/-- The same appliance and cache, with other sessions, at no earlier time. -/
structure World.Later (w w' : World) : Prop where
  san : w'.san = w.san
  cache : w'.cache = w.cache
  now : w.now ≤ w'.now

theorem World.Later.refl (w : World) : w.Later w := ⟨rfl, rfl, Int.le_refl _⟩

theorem World.later_tick (w : World) (n : Nat) : w.Later { w with now := w.now + n } :=
  ⟨rfl, rfl, Int.le_add_of_nonneg_right (Int.natCast_nonneg n)⟩

theorem World.Later.trans {w w' w'' : World} (h : w.Later w') (h' : w'.Later w'') : w.Later w'' :=
  ⟨h'.san.trans h.san, h'.cache.trans h.cache, Int.le_trans h.now h'.now⟩

/-! ### The index of LUNs -/

/-- The index of `w` knows the name. -/
def Known (w : World) (name : String) : Prop :=
  (w.index.lookupByName (sanitizeLUNName name)).isSome = true

/-! ### Calls -/

section

variable {w : World} {sess : Int} {c : SanCall} {ch : Choice}

theorem afterExpiry_of_answers (h : ch.Answers) : afterExpiry w ch = w := by
  simp [afterExpiry, h.expire]

theorem sanAct_live (h : ch.Answers) (hs : sess ∈ w.accepted) :
    sanAct w sess c ch = match w.san.serve c ch.san with
      | none => (.error ch.error, w)
      | some (v, s) => (.ok v, { w with san := s }) := by
  unfold sanAct
  rw [afterExpiry_of_answers h, if_neg (not_not.2 hs), h.fail, h.lost]
  rfl

theorem sanAct_expired (h : ch.Answers) (hs : sess ∉ w.accepted) :
    sanAct w sess c ch = (.error ⟨.sessionInvalid, ch.error.text⟩, w) := by
  unfold sanAct
  rw [afterExpiry_of_answers h, if_pos hs]

theorem getAct_answers (h : ch.Answers) :
    ∃ s w', getAct w ch = (.ok s, w') ∧ w.Later w' ∧ (w.sess = none → s ∈ w'.accepted) := by
  unfold getAct
  cases hs : w.sess with
  | some s => exact ⟨s, w, rfl, ⟨rfl, rfl, Int.le_refl _⟩, nofun⟩
  | none =>
    simp only [h.fail]
    exact ⟨_, _, rfl, ⟨rfl, rfl, Int.le_refl _⟩, fun _ => .head _⟩

end

variable {X : Err → World → Prop} {c : SanCall} {P : Choice → Prop} {w : World}

/-- Every run of `x` from `w` in which the choices are of this kind ends in `Q` or `X`. -/
abbrev Within {α : Type} (P : Choice → Prop) (x : Op α) (w : World) (Q : α → World → Prop)
    (X : Err → World → Prop) : Prop :=
  Ends (restrict act P) (fun _ => True) x w Q X

theorem ends_cacheRead {c : Call} (hread : ∀ ch, (answer w c ch).2 = w) :
    Within P (perform c : Op c.Reply) w (fun r w' => ∃ ch, r = (answer w c ch).1 ∧ w.Later w') X := by
  refine .perform fun ch => ⟨trivial, ch.1, rfl, ?_⟩
  have hnext : (Lib.restrict act P w c ch).2 = { w with now := w.now + ch.1.tick } := by
    simp only [Lib.restrict, act, hread]
  rw [hnext]
  exact w.later_tick _

section

variable (hP : ∀ ch, P ch → ch.Answers) {α : Type}
include hP

theorem ends_san {sess : Int} {Q : c.Val → World → Prop} (hs : sess ∈ w.accepted)
    (hX : ∀ ch, P ch → w.san.serve c ch.san = none →
      X (.san ch.error) { w with now := w.now + ch.tick })
    (hQ : ∀ ch v s, P ch → w.san.serve c ch.san = some (v, s) →
      Q v { w with san := s, now := w.now + ch.tick }) :
    Within P (san sess c) w Q X := by
  change wp (Lib.restrict act P) (.call (.san sess c) _) w _
  rintro ⟨ch, hch⟩
  refine ⟨fun _ _ => trivial, ?_⟩
  rw [Lib.restrict, act_san, sanAct_live (hP ch hch) hs]
  cases hserve : w.san.serve c ch.san with
  | none => exact hX ch hch hserve
  | some p => exact hQ ch p.1 p.2 hch hserve

theorem ends_refused {sess : Int} {g : c.Val → Op α} (hs : sess ∉ w.accepted) :
    Within P (san sess c >>= g) w (fun _ _ => False)
      fun e w' => isAuthError e = true ∧ w.Later w' := by
  refine Ends.bind (Q := fun _ _ => False) ?_ fun _ _ h => h.elim
  change wp (Lib.restrict act P) (.call (.san sess c) _) w _
  rintro ⟨ch, hch⟩
  refine ⟨fun _ _ => trivial, ?_⟩
  rw [Lib.restrict, act_san, sanAct_expired (hP ch hch) hs]
  exact ⟨rfl, w.later_tick _⟩

theorem ends_smGet {Q : Int → World → Prop}
    (hQ : ∀ s w', w.Later w' → (w.sess = none → s ∈ w'.accepted) → Q s w') :
    Within P smGet w Q X := by
  change wp (Lib.restrict act P) (.call .get _) w _
  rintro ⟨ch, hch⟩
  refine ⟨fun _ _ => trivial, ?_⟩
  obtain ⟨s, w', hget, hlater, hlive⟩ := getAct_answers (w := w) (hP ch hch)
  have hact : Lib.restrict act P w Call.get ⟨ch, hch⟩ =
      (.ok s, { w' with now := w'.now + ch.tick }) := by
    simp only [Lib.restrict, act, answer, hget]
  rw [hact]
  exact hQ s _ (hlater.trans (w'.later_tick _)) hlive

theorem ends_smDo {fn : Int → Op α} {Q : α → World → Prop}
    (hrefused : ∀ s w', s ∉ w'.accepted → Within P (fn s) w' (fun _ _ => False) fun e w'' =>
      isAuthError e = true ∧ w'.Later w'')
    (hlive : ∀ s w', w.Later w' → s ∈ w'.accepted → Within P (fn s) w' Q fun e w'' =>
      isAuthError e = false ∧ X e w'') : Within P (smDo fn) w Q X := by
  -- the second attempt, after a new login
  have hafter : ∀ w', w.Later w' → w'.sess = none → Within P (smGet >>= fn) w' Q X := by
    intro w' hlater hnone
    refine Ends.bind (Q := fun s w'' => w.Later w'' ∧ s ∈ w''.accepted)
      (ends_smGet hP fun s w'' hlater' hacc => ⟨hlater.trans hlater', hacc hnone⟩) ?_
    rintro s w'' ⟨hlater', hacc⟩
    exact (hlive s w'' hlater' hacc).weaken fun _ _ h => h.2
  refine Ends.bind (Q := fun _ w' => w.Later w') (ends_smGet hP fun s w' h _ => h) ?_
  intro s w' hlater
  by_cases hacc : s ∈ w'.accepted
  · refine Ends.bind (Q := Outcome Q fun e w'' => isAuthError e = false ∧ X e w'')
      (Ends.attempt (hlive s w' hlater hacc)) ?_
    rintro (e | a) w'' h
    · obtain ⟨hauth, hX⟩ := h
      dsimp only
      rw [hauth]
      exact Ends.throw hX
    · exact Ends.pure h
  · refine Ends.bind (Q := Outcome (fun _ _ => False) fun e w'' => isAuthError e = true ∧
      w'.Later w'') (Ends.attempt (hrefused s w' hacc)) ?_
    rintro (e | a) w'' h
    · obtain ⟨hauth, hlater'⟩ := h
      dsimp only
      rw [hauth, if_pos rfl]
      refine Ends.bind (Q := fun _ w3 => w.Later w3 ∧ w3.sess = none) (Ends.perform ?_) ?_
      · rintro ⟨ch, hch⟩
        exact ⟨trivial, (hlater.trans hlater').trans ⟨rfl, rfl, (w''.later_tick _).now⟩, rfl⟩
      · rintro _ w3 ⟨hlater3, hnone⟩
        exact hafter w3 hlater3 hnone
    · exact h.elim

theorem ends_smDo_bind {g : Int → c.Val → Op α} {Q : α → World → Prop}
    (hlive : ∀ s w', w.Later w' → s ∈ w'.accepted → Within P (san s c >>= g s) w' Q fun e w'' =>
      isAuthError e = false ∧ X e w'') : Within P (smDo fun s => san s c >>= g s) w Q X :=
  ends_smDo hP (fun _ _ hs => ends_refused hP hs) hlive

theorem ends_smDo_san {Q : c.Val → World → Prop}
    (hlive : ∀ s w', w.Later w' → s ∈ w'.accepted → Within P (san s c) w' Q fun e w'' =>
      isAuthError e = false ∧ X e w'') : Within P (smDo fun s => san s c) w Q X := by
  have h : Within P (smDo fun s => san s c >>= pure) w Q X :=
    ends_smDo_bind hP (g := fun _ => pure) (by simpa only [bind_pure] using hlive)
  simpa only [bind_pure] using h

theorem ends_read {sess : Int} (hr : c.reads = true) (hs : sess ∈ w.accepted)
    (hX : ∀ (ch : Choice) w', P ch → w.Later w' → w.san.serve c ch.san = none →
      X (.san ch.error) w') :
    Within P (san sess c) w
      (fun v w' => w.Later w' ∧ w'.accepted = w.accepted ∧
        ∃ ch : Choice, P ch ∧ w.san.serve c ch.san = some (v, w.san)) X := by
  refine ends_san hP hs (fun ch hch hnone => hX ch _ hch (w.later_tick _) hnone) ?_
  intro ch v s hch hsome
  have he := San.serve_effect hsome
  cases he with
  | read => exact ⟨w.later_tick _, rfl, ch, hch, hsome⟩
  | _ => cases hr

theorem ends_refresh :
    Within P ensureFresh w (fun _ w' => w.Refreshed w') fun _ _ => False := by
  refine Ends.bind (Q := fun fresh w' => fresh = w.cache.isFresh w.now ∧ w'.san = w.san ∧
    w'.cache = w.cache) (.perform fun ch => ⟨trivial, rfl, rfl, rfl⟩) ?_
  rintro (_ | _) w1 ⟨hfresh, hs, hk⟩
  · refine Ends.bind (Q := fun lists w' => w'.san = w.san ∧
      lists = (w.san.allLUNs, w.san.allTargets)) (ends_smDo_bind hP ?_) ?_
    · intro sess w2 hlater hsess
      refine Ends.bind (ends_read hP rfl hsess ?_) ?_
      · intro ch _ _ _ hnone
        cases hnone
      rintro luns w3 ⟨hlater3, hacc, ch, -, hluns⟩
      refine Ends.bind (ends_read hP rfl (hacc ▸ hsess) ?_) ?_
      · intro ch _ _ _ hnone
        cases hnone
      rintro targets w4 ⟨hlater4, -, ch', -, htargets⟩
      cases hluns
      cases htargets
      refine .pure ⟨(hlater3.trans hlater4).san.trans (hlater.san.trans hs), ?_⟩
      rw [hlater3.san, hlater.san, hs]
    · rintro _ w2 ⟨hs2, rfl⟩
      exact .perform fun ch => ⟨trivial, refreshed_of_ends ⟨hs2, .inr ⟨hfresh.symm, _, rfl⟩⟩⟩
  · exact .pure (refreshed_of_ends ⟨hs, .inl ⟨hfresh.symm, hk⟩⟩)

/-- The volume is read back and put into the cache, exactly if its LUN and its target are there. -/
theorem ends_assembleVolume {c : Controller} {source : Option ContentSource} {vp : VolumeParams}
    {i t sizeGB : Int} {own : Bool} :
    Within P (assembleVolume c source vp i t own sizeGB) w
      (fun v w' => w'.san = w.san ∧ ∃ lun tgt, ∃ ch : Choice, P ch ∧
        w.san.serve (.getLUN i) ch.san = some (lun, w.san) ∧ w.san.target t = some tgt ∧
        w'.cache = w.cache.addLUN lun tgt ∧ v = toVolume c source vp i t own sizeGB lun tgt)
      fun _ w' => w.Later w' ∧ (w.san.lun i = none ∨ w.san.target t = none) := by
  refine Ends.bind (Q := fun p w' => w.Later w' ∧ ∃ ch : Choice, P ch ∧
    w.san.serve (.getLUN i) ch.san = some (p.1, w.san) ∧ w.san.target t = some p.2)
    (.onError (ends_smDo_bind hP ?_)) ?_
  · intro s w₁ hlater hs
    refine Ends.bind (ends_read hP rfl hs ?_) ?_
    · intro ch w' hch hlater' hnone
      rw [hlater.san] at hnone
      refine ⟨(hP ch hch).error, hlater.trans hlater', .inl ?_⟩
      cases hl : w.san.lun i with
      | none => rfl
      | some l =>
        simp only [San.serve, hl] at hnone
        cases hnone
    rintro lun w₂ ⟨hlater2, hacc, ch, hch, hlun⟩
    refine Ends.bind (ends_read hP rfl (hacc ▸ hs) ?_) ?_
    · intro ch w' hch hlater' hnone
      rw [hlater2.san, hlater.san] at hnone
      exact ⟨(hP ch hch).error, (hlater.trans hlater2).trans hlater',
        .inr (Option.map_eq_none_iff.1 hnone)⟩
    rintro tgt w₃ ⟨hlater₃, -, ch', -, htgt⟩
    rw [hlater.san] at hlun
    rw [hlater2.san, hlater.san] at htgt
    obtain ⟨x, hx, heq⟩ := Option.map_eq_some_iff.1 htgt
    obtain ⟨rfl, -⟩ := Prod.mk.inj heq
    exact .pure ⟨(hlater.trans hlater2).trans hlater₃, ch, hch, hlun, hx⟩
  · rintro ⟨lun, tgt⟩ w₁ ⟨hlater, ch, hch, hlun, htgt⟩
    refine Ends.bind (Q := fun _ w' => w'.san = w.san ∧ w'.cache = w.cache.addLUN lun tgt)
      (.perform fun _ => ⟨trivial, hlater.san, congrArg (LunCache.addLUN · lun tgt) hlater.cache⟩) ?_
    rintro _ w₂ ⟨hs₂, hk2⟩
    exact .pure ⟨hs₂, lun, tgt, ch, hch, hlun, htgt, hk2, rfl⟩

/-- The volume that the cache knows by the name is taken exactly if its size fits, unless the
cache leads to nothing. -/
theorem ends_existingFromCache {c : Controller} {vp : VolumeParams} {name : String} {sizeGB : Int} :
    Within P (existingFromCache c name (sizeGB * giB) vp) w
      (fun r w' => (r = none → w.Later w' ∧ w.cache.lookupByName name = none) ∧
        ∀ v, r = some v → ∃ l t lun tgt, ∃ ch : Choice, P ch ∧
          w.cache.lookupByName name = some l ∧ absDiff l.capacityBytes (sizeGB * giB) < giB ∧
          w.cache.targetForLUN l.index = some t ∧
          w.san.serve (.getLUN l.index) ch.san = some (lun, w.san) ∧
          w.san.target t.index = some tgt ∧ w'.san = w.san ∧ w'.cache = w.cache.addLUN lun tgt ∧
          v = toVolume c none vp l.index t.index (t.aliasName = name) sizeGB lun tgt)
      fun _ w' => w.Later w' ∧ ∀ l t, w.cache.lookupByName name = some l →
        absDiff l.capacityBytes (sizeGB * giB) < giB → w.cache.targetForLUN l.index = some t →
        w.san.lun l.index = none ∨ w.san.target t.index = none := by
  refine Ends.bind (ends_cacheRead fun _ => rfl) ?_
  rintro (_ | l) w₁ ⟨_, hl, hlater1⟩
  · exact .pure ⟨fun _ => ⟨hlater1, hl.symm⟩, by simp⟩
  · dsimp only
    split
    · next hcap =>
      refine .throw ⟨hlater1, fun l' t hl' hcap' => ?_⟩
      obtain rfl := Option.some.inj (hl.trans hl')
      exact absurd hcap (Int.not_le.2 hcap')
    · next hcap =>
      refine Ends.bind (ends_cacheRead fun _ => rfl) ?_
      rintro t w₂ ⟨_, ht, hlater2⟩
      have hlater := hlater1.trans hlater2
      have ht : t = w.cache.targetForLUN l.index := by
        rw [← hlater1.cache]
        exact ht
      cases t with
      | none =>
        refine .throw ⟨hlater, fun l' t hl' _ ht' => ?_⟩
        obtain rfl := Option.some.inj (hl.trans hl')
        cases ht.trans ht'
      | some t =>
        refine Ends.bind ((ends_assembleVolume hP).weaken ?_) ?_
        · rintro _ w₃ ⟨hlater₃, hmiss⟩
          rw [hlater.san] at hmiss
          refine ⟨hlater.trans hlater₃, fun l' t' hl' _ ht' => ?_⟩
          obtain rfl := Option.some.inj (hl.trans hl')
          obtain rfl := Option.some.inj (ht.trans ht')
          exact hmiss
        · rintro v w₃ ⟨hs3, lun, tgt, ch, hch, hlun, htgt, hk3, rfl⟩
          rw [hlater.san] at hs3 hlun htgt
          have hgb : (sizeGB * giB).tdiv giB = sizeGB := Int.mul_tdiv_cancel _ (by decide)
          refine .pure ⟨by simp, ?_⟩
          rintro _ ⟨⟩
          rw [hgb]
          exact ⟨l, t, lun, tgt, ch, hch, hl.symm, Int.not_le.1 hcap, ht.symm, hlun, htgt, hs3,
            hlater.cache ▸ hk3, rfl⟩

end

end NomadCsi.Qnap
