import NomadCsi.Qnap.Blind
import NomadCsi.Qnap.Identity

/-!
# An expired session

Every operation that goes through a session manager, run from a cached session that the
appliance no longer accepts and from one that it accepts. Most operations give the same
outcomes (`Blind`). Three do not: DeleteVolume answers a refused read as "already gone",
DeleteSnapshot classifies the refusal inside the closure, and the node's hydration does
not go through `do` at all.
-/

namespace NomadCsi.Qnap

open Lib Lib.Go Driver

inductive SessionOp where
  | createVolume (c : Controller) (req : CreateVolumeRequest)
  | deleteVolume (id : String)
  | expandVolume (id : String) (cr : CapacityRange)
  | createSnapshot (c : Controller) (req : CreateSnapshotRequest)
  | deleteSnapshot (id : String)
  | listVolumes
  | listSnapshots (c : Controller) (sourceVolumeID : String)
  | volumeExists (id : String)
  | getCapacity (c : Controller) (params : StrMap)
  | resolveIQN (k : SanIdentityCache) (now later : Int) (eid : ExternalID)
  | resolveExternalID (k : SanIdentityCache) (now later : Int) (iqn : String) (lunNumber : Int)

namespace SessionOp

@[reducible] def Result : SessionOp → Type
  | createVolume _ _ => Volume
  | deleteVolume _ | deleteSnapshot _ => Unit
  | expandVolume _ _ => Int × Bool
  | createSnapshot _ _ => Snapshot
  | listVolumes => List (String × Int)
  | listSnapshots _ _ => List Snapshot
  | volumeExists _ => Bool
  | getCapacity _ _ => Int
  | resolveIQN _ _ _ _ | resolveExternalID _ _ _ _ _ => Option String

def op : (o : SessionOp) → Op o.Result
  | createVolume c req => Qnap.createVolume c req
  | deleteVolume id => Qnap.deleteVolume id
  | expandVolume id cr => Qnap.expandVolume id cr
  | createSnapshot c req => Qnap.createSnapshot c req
  | deleteSnapshot id => Qnap.deleteSnapshot id
  | listVolumes => Qnap.listVolumes
  | listSnapshots c src => Qnap.listSnapshots c src
  | volumeExists id => Qnap.volumeExists id
  | getCapacity c params => Qnap.getCapacity c params
  | resolveIQN k now later eid => do return (← Qnap.resolveIQN k now later eid).1
  | resolveExternalID k now later iqn n => do
    return (← Qnap.resolveExternalID k now later iqn n).1

end SessionOp

/-- DeleteVolume would take the LUN of the id for its own. -/
def San.OwnsLUN (s : San) (eid : ExternalID) : Prop :=
  ∃ l, s.lun eid.lunIndex = some l ∧ l.name ≠ "" ∧ (eid.lunName = "" ∨ l.name = eid.lunName)

/-- DeleteVolume would take the target of the id for its own. -/
def San.OwnsTarget (s : San) (eid : ExternalID) : Prop :=
  eid.ownTarget = true ∧ eid.lunName ≠ "" ∧
    ∃ t, s.target eid.targetIndex = some t ∧ t.aliasName = eid.lunName

/-- DeleteVolume would find nothing of its own. -/
def San.OwnsNothing (s : San) (eid : ExternalID) : Prop := ¬ s.OwnsLUN eid ∧ ¬ s.OwnsTarget eid

/-- The operation has no use for a session, or would find nothing with one. -/
def SessionOp.Indifferent (w : World) : SessionOp → Prop
  | deleteVolume id => ∀ eid, parseExternalID id = .ok eid → w.san.OwnsNothing eid
  | deleteSnapshot id => (parseSnapshotID id).isOk = false
  | resolveIQN k now later eid => k.isWarm now = true ∨
      (SanIdentityCache.build w.san.allTargets w.san.allLUNs later).iqnFor eid = none
  | resolveExternalID k now later iqn n => k.isWarm now = true ∨
      (SanIdentityCache.build w.san.allTargets w.san.allLUNs later).idFor iqn n = none
  | _ => True

/-- A run of `x` in which the appliance answers can return `r` and leave the appliance as `s`. -/
def Gives {α : Type} (x : Op α) (w : World) (r : Except Err α) (s : San) : Prop :=
  ∃ tr w', Runs act x.run w tr r w' ∧ (∀ e ∈ tr, e.choice.Answers) ∧ w'.san = s

variable {w : World} {α : Type} {x : Op α}

theorem gives_iff {r : Except Err α} {s : San} :
    Gives x w r s ↔ ∃ w', Reaches answering x w r w' ∧ w'.san = s := by
  constructor
  · rintro ⟨tr, w', h, hans, hs⟩
    obtain ⟨tr', -, h'⟩ := h.restrict hans
    exact ⟨w', ⟨tr', h'⟩, hs⟩
  · rintro ⟨w', ⟨tr, h⟩, hs⟩
    obtain ⟨tr', hans, h'⟩ := h.of_restrict
    exact ⟨tr', w', h', hans, hs⟩

def SameOutcomes {α : Type} (x : Op α) (w w' : World) : Prop := ∀ r s, Gives x w r s ↔ Gives x w' r s

/-- The cached session is one that the appliance no longer accepts. -/
def World.Expired (w : World) : Prop := ∃ s, w.sess = some s ∧ s ∉ w.accepted

def World.Live (w : World) : Prop := ∃ s, w.sess = some s ∧ s ∈ w.accepted

variable {w' : World}

theorem World.Like.symm (h : w.Like w') : w'.Like w :=
  ⟨h.san.symm, h.cache.symm, h.now.symm⟩

theorem Blind.sameOutcomes (h : Blind x) (hlike : w.Like w') : SameOutcomes x w w' := by
  have hle : ∀ {w w' : World}, w.Like w' → ∀ r s, Gives x w r s → Gives x w' r s := by
    intro w w' hlike r s hg
    obtain ⟨w1, hr, hs⟩ := gives_iff.1 hg
    obtain ⟨w1', hr', hlike'⟩ := h w w' r w1 hlike hr
    exact gives_iff.2 ⟨w1', hr', hlike'.san.trans hs⟩
  exact fun r s => ⟨hle hlike r s, hle hlike.symm r s⟩

instance : Nonempty (Subtype Choice.Answers) := ⟨⟨{}, answers_default⟩⟩

/-- If every outcome from `w` is in `P`, and an outcome from `w'` is in `P` only where `c` holds,
then the outcomes agree only where `c` holds. -/
theorem not_sameOutcomes {P : Except Err α → San → Prop}
    (hw : ∀ r w1, Reaches answering x w r w1 → P r w1.san)
    (hw' : ∀ r w1, Reaches answering x w' r w1 → ¬ P r w1.san) : ¬ SameOutcomes x w w' := by
  intro h
  obtain ⟨r, w1, hr⟩ := exists_reaches answering x w
  obtain ⟨w1', hr', hs⟩ := gives_iff.1 ((h r w1.san).1 (gives_iff.2 ⟨w1, hr, rfl⟩))
  exact hw' r w1' hr' (hs ▸ hw r w1 hr)

/-- If the only outcome from either world is `r0` with the appliance unchanged. -/
theorem sameOutcomes_of_only {r0 : Except Err α} (hlike : w.Like w')
    (hw : ∀ r w1, Reaches answering x w r w1 → r = r0 ∧ w1.san = w.san)
    (hw' : ∀ r w1, Reaches answering x w' r w1 → r = r0 ∧ w1.san = w'.san) :
    SameOutcomes x w w' := by
  have honly : ∀ {w : World}, (∀ r w1, Reaches answering x w r w1 → r = r0 ∧ w1.san = w.san) →
      ∀ r s, Gives x w r s ↔ r = r0 ∧ s = w.san := by
    intro w hw r s
    rw [gives_iff]
    constructor
    · rintro ⟨w1, hr, rfl⟩
      exact hw r w1 hr
    · rintro ⟨rfl, rfl⟩
      obtain ⟨r, w1, hr⟩ := exists_reaches answering x w
      obtain ⟨rfl, hs⟩ := hw r w1 hr
      exact ⟨w1, hr, hs⟩
  intro r s
  rw [honly hw, honly hw', hlike.san]

/-! ### One attempt under the cached session -/

variable {X : Err → World → Prop}

section

variable {α : Type} {w : World} {s : Int}

abbrev Answered (x : Op α) (w : World) (Q : α → World → Prop) (X : Err → World → Prop) : Prop :=
  Ends answering (fun _ => True) x w Q X

theorem answered_refused {c : SanCall} {Q : c.Val → World → Prop} (hs : s ∉ w.accepted) (hX : ∀ text
      w', w'.san = w.san → w'.accepted = w.accepted → X (.san ⟨.sessionInvalid, text⟩) w') :
    Answered (san s c) w Q X := by
  change wp answering (.call (.san s c) _) w _
  rintro ⟨ch, hch⟩
  refine ⟨fun _ _ => trivial, ?_⟩
  rw [answering, restrict, act_san, sanAct_expired hch hs]
  exact hX _ _ rfl rfl

theorem answered_smGet (hsess : w.sess = some s) :
    Answered smGet w (fun s' w' => s' = s ∧ w.Later w' ∧ w'.accepted = w.accepted) X := by
  change wp answering (.call .get _) w _
  rintro ⟨ch, hch⟩
  refine ⟨fun _ _ => trivial, ?_⟩
  have hact : answering w Call.get ⟨ch, hch⟩ = (.ok s, { w with now := w.now + ch.tick }) := by
    simp only [restrict, act, answer, getAct, hsess]
  rw [hact]
  exact ⟨rfl, w.later_tick _, rfl⟩

/-- The cached session, if any, is one that the appliance accepts. -/
def World.Honoured (w : World) : Prop := ∀ s, w.sess = some s → s ∈ w.accepted

theorem World.Live.honoured (h : w.Live) : w.Honoured := by
  obtain ⟨s, hsess, hs⟩ := h
  intro s' hsess'
  rw [hsess] at hsess'
  exact Option.some.inj hsess' ▸ hs

theorem answered_smGet_honoured (hw : w.Honoured) :
    Answered smGet w (fun s w' => w.Later w' ∧ s ∈ w'.accepted) X := by
  cases hsess : w.sess with
  | none => exact ends_smGet (fun _ h => h) fun s w' hlater hlive => ⟨hlater, hlive hsess⟩
  | some s =>
    refine (answered_smGet hsess).mono ?_ fun _ _ h => h
    rintro _ w' ⟨rfl, hlater, hacc⟩
    exact ⟨hlater, hacc ▸ hw _ hsess⟩

/-- The closure is run once if no authentication error is reported. -/
theorem answered_smDo_of {fn : Int → Op α} {Q : α → World → Prop} {R : Int → World → Prop}
    (hget : Answered smGet w R X) (hfn : ∀ s w', R s w' → Answered (fn s) w' Q fun e w'' =>
      isAuthError e = false ∧ X e w'') : Answered (smDo fn) w Q X := by
  refine Ends.bind hget ?_
  intro s w1 hR
  refine Ends.bind (Q := Outcome Q fun e w'' => isAuthError e = false ∧ X e w'')
    (Ends.attempt (hfn s w1 hR)) ?_
  rintro (e | a) w2 h
  · obtain ⟨hauth, hX⟩ := h
    dsimp only
    rw [hauth]
    exact Ends.throw hX
  · exact Ends.pure h

theorem answered_smDo {fn : Int → Op α} {Q : α → World → Prop} (hsess : w.sess = some s) (hfn : ∀
      w', w'.san = w.san → w'.accepted = w.accepted → Answered (fn s) w' Q fun e w'' => isAuthError
      e = false ∧ X e w'') : Answered (smDo fn) w Q X := by
  refine answered_smDo_of (answered_smGet hsess) ?_
  rintro _ w1 ⟨rfl, hlater, hacc⟩
  exact hfn w1 hlater.san hacc

structure World.Under (w w' : World) : Prop where
  accepted : w'.accepted = w.accepted
  cache : w'.cache = w.cache

theorem World.Under.trans {w w'' : World} (h : w.Under w') (h' : w'.Under w'') : w.Under w'' :=
  ⟨h'.accepted.trans h.accepted, h'.cache.trans h.cache⟩

theorem answered_live {c : SanCall} {Q : c.Val → World → Prop} (hs : s ∈ w.accepted) (hX : ∀ ch w',
      w.san.serve c ch = none → w'.san = w.san → w.Under w' → ∀ e, isAuthError e = false → X e w')
    (hQ : ∀ ch v w', w.san.serve c ch = some (v, w'.san) → w.Under w' → Q v w') :
    Answered (san s c) w Q X :=
  ends_san (fun _ h => h) hs
    (fun ch hch hnone => hX ch.san { w with now := w.now + ch.tick } hnone rfl ⟨rfl, rfl⟩ _ hch.error)
    fun ch v _ _ hsome => hQ ch.san v _ hsome ⟨rfl, rfl⟩

end

/-! ### DeleteVolume -/

section

variable {volumeID : String} {eid : ExternalID} {w : World} {s : Int}

theorem expired_releaseTarget (hs : s ∉ w.accepted) :
    Answered (releaseTarget eid s) w (fun _ w' => w'.san = w.san) fun _ _ => False := by
  unfold releaseTarget
  split
  · refine Ends.bind (Q := fun ours w' => ours = false ∧ w'.san = w.san) ?_ ?_
    · unfold targetIsOurs
      split
      · exact Ends.pure ⟨rfl, rfl⟩
      · refine Ends.bind (Q := fun r w' => r.isOk = false ∧ w'.san = w.san)
          (Ends.attempt (answered_refused hs fun _ _ h _ => ⟨rfl, h⟩)) ?_
        rintro (e | t) w' ⟨hbad, hs'⟩
        · exact Ends.pure ⟨rfl, hs'⟩
        · cases hbad
    · rintro _ w' ⟨rfl, hs'⟩
      exact Ends.pure hs'
  · exact Ends.pure rfl

theorem expired_deleteUnder (hs : s ∉ w.accepted) :
    Answered (deleteUnder volumeID eid s) w (fun _ w' => w'.san = w.san) fun _ _ => False := by
  refine Ends.bind (Q := fun r w' => r.isOk = false ∧ w'.san = w.san ∧ w'.accepted = w.accepted)
    (Ends.attempt (answered_refused hs fun _ _ h h' => ⟨rfl, h, h'⟩)) ?_
  rintro (e | l) w' ⟨hbad, hs', hacc⟩
  · exact (expired_releaseTarget (hacc ▸ hs)).mono (fun _ _ h => h.trans hs') fun _ _ h => h
  · cases hbad

inductive Released (eid : ExternalID) (s : San) : San → Prop where
  | ours (h : s.OwnsTarget eid) : Released eid s (s.dropTarget eid.targetIndex)
  | left (h : ¬ s.OwnsTarget eid) : Released eid s s

/-- The LUN of the id is ours, but it has snapshots. -/
def San.Refuses (s : San) (eid : ExternalID) : Prop :=
  s.OwnsLUN eid ∧ s.snapsOf eid.lunIndex ≠ []

inductive Deleted (eid : ExternalID) (s : San) : San → Prop where
  | kept {s' : San} (h : ¬ s.OwnsLUN eid) (hr : Released eid s s') : Deleted eid s s'
  | destroyed {s' : San} (h : s.OwnsLUN eid) (hsnaps : s.snapsOf eid.lunIndex = [])
      (hr : Released eid (s.dropLUN eid.lunIndex) s') : Deleted eid s s'

theorem San.OwnsLUN.mem {s : San} (h : s.OwnsLUN eid) : eid.lunIndex ∈ s.luns := by
  obtain ⟨l, hl, -⟩ := h
  exact San.lun_isSome hl

theorem San.OwnsTarget.mem {s : San} (h : s.OwnsTarget eid) : eid.targetIndex ∈ s.targets := by
  obtain ⟨-, -, t, ht, -⟩ := h
  obtain ⟨row, hrow, -⟩ := Option.map_eq_some_iff.1 ht
  exact AList.lookup_isSome.1 (by rw [hrow]; rfl)

theorem San.dropLUN_unmap (s : San) (i t : Int) : (s.unmap i t).dropLUN i = s.dropLUN i := by
  have hmaps : (s.maps.filter fun m => decide (m ≠ (i, t))).filter (fun m => decide (m.1 ≠ i)) =
      s.maps.filter fun m => decide (m.1 ≠ i) := by
    rw [List.filter_filter]
    refine List.filter_congr fun m _ => ?_
    by_cases hm : m.1 = i
    · simp [hm]
    · have hne : m ≠ (i, t) := fun h => hm (by rw [h])
      simp [hm, hne]
  unfold San.dropLUN San.unmap
  rw [hmaps]

theorem Released.luns {s s' : San} (h : Released eid s s') : s'.luns = s.luns := by
  cases h with
  | ours => rfl
  | left => rfl

theorem Released.eq_iff {s s' : San} (h : Released eid s s') : s' = s ↔ ¬ s.OwnsTarget eid := by
  cases h with
  | left h => exact iff_of_true rfl h
  | ours h =>
    refine iff_of_false (fun heq => ?_) (not_not.2 h)
    have hmem := h.mem
    rw [← heq] at hmem
    exact (AList.mem_erase.1 hmem).1 rfl

/-- The appliance is left alone exactly if nothing on it is ours. -/
theorem Deleted.eq_iff {s s' : San} (h : Deleted eid s s') : s' = s ↔ s.OwnsNothing eid := by
  cases h with
  | kept h hr => rw [hr.eq_iff, San.OwnsNothing, and_iff_right h]
  | destroyed h _ hr =>
    refine iff_of_false (fun heq => ?_) fun hnot => hnot.1 h
    have hmem := h.mem
    rw [← heq, hr.luns] at hmem
    exact (AList.mem_erase.1 hmem).1 rfl

theorem live_releaseTarget (hs : s ∈ w.accepted) :
    Answered (releaseTarget eid s) w (fun _ w' => Released eid w.san w'.san ∧ w.Under w')
      fun _ _ => False := by
  have hkeep : ∀ {w' : World}, w'.san = w.san → ¬ w.san.OwnsTarget eid →
      Released eid w.san w'.san := by
    intro w' hs' hnot
    rw [hs']
    exact .left hnot
  unfold releaseTarget
  split
  · next hown =>
    refine Ends.bind (Q := fun ours w' => (ours = true ↔ w.san.OwnsTarget eid) ∧ w'.san = w.san ∧
      w.Under w') ?_ ?_
    · unfold targetIsOurs
      split
      · next hname =>
        exact Ends.pure ⟨iff_of_false Bool.false_ne_true fun h => h.2.1 hname, rfl, rfl, rfl⟩
      · next hname =>
        refine Ends.bind (Q := fun r w' => r.toOption = w.san.target eid.targetIndex ∧
          w'.san = w.san ∧ w.Under w') (Ends.attempt (answered_live hs ?_ ?_)) ?_
        · intro ch w' hnone hs' hunder e _
          exact ⟨(Option.map_eq_none_iff.1 hnone).symm, hs', hunder⟩
        · intro ch t w' hsome hunder
          obtain ⟨x, hx, heq⟩ := Option.map_eq_some_iff.1 hsome
          obtain ⟨rfl, hs'⟩ := Prod.mk.inj heq
          exact ⟨hx.symm, hs'.symm, hunder⟩
        rintro (e | t) w1 ⟨ht, hs1, hunder1⟩
        · refine Ends.pure ⟨iff_of_false Bool.false_ne_true ?_, hs1, hunder1⟩
          rintro ⟨-, -, t, ht', -⟩
          rw [← ht] at ht'
          cases ht'
        · refine Ends.pure ⟨?_, hs1, hunder1⟩
          rw [decide_eq_true_iff]
          constructor
          · exact fun halias => ⟨hown, hname, t, ht.symm, halias⟩
          · rintro ⟨-, -, t', ht', halias⟩
            rw [← ht] at ht'
            cases ht'
            exact halias
    · rintro (_ | _) w1 ⟨hours, hs1, hunder1⟩
      · exact Ends.pure ⟨hkeep hs1 fun h => Bool.false_ne_true (hours.2 h), hunder1⟩
      · have howns := hours.1 rfl
        refine Ends.bind (Q := fun _ w' => w'.san = w.san.dropTarget eid.targetIndex ∧ w.Under w')
          (Ends.attempt (answered_live (hunder1.accepted ▸ hs) ?_ ?_)) ?_
        · intro ch w' hnone
          simp only [San.serve, hs1, if_pos howns.mem] at hnone
          cases hnone
        · intro ch v w' hsome hunder
          simp only [San.serve, hs1, if_pos howns.mem] at hsome
          exact ⟨(Prod.mk.inj (Option.some.inj hsome)).2.symm, hunder1.trans hunder⟩
        · rintro _ w2 ⟨hs2, hunder2⟩
          refine Ends.pure ⟨?_, hunder2⟩
          rw [hs2]
          exact .ours howns
  · next hown => exact Ends.pure ⟨hkeep rfl fun h => hown h.1, rfl, rfl⟩

theorem live_destroyLUN (hs : s ∈ w.accepted) (hthere : eid.lunIndex ∈ w.san.luns) :
    Answered (destroyLUN volumeID eid s) w
      (fun _ w' => w.san.snapsOf eid.lunIndex = [] ∧ w'.san = w.san.dropLUN eid.lunIndex ∧
        w.Under w')
      fun e w' => isAuthError e = false ∧ w.san.snapsOf eid.lunIndex ≠ [] ∧ w'.san = w.san ∧
        w.Under w' := by
  refine Ends.bind (Q := fun snaps w' => snaps = w.san.snapsOf eid.lunIndex ∧ w'.san = w.san ∧
    w.Under w') (Ends.onError (answered_live hs ?_ ?_)) ?_
  · intro ch w' hnone
    cases hnone
  · intro ch v w' hsome hunder
    obtain ⟨rfl, hs'⟩ := Prod.mk.inj (Option.some.inj hsome)
    exact ⟨rfl, hs'.symm, hunder⟩
  rintro _ w1 ⟨rfl, hs1, hunder1⟩
  split
  · next hsnaps =>
    exact Ends.throw ⟨rfl, List.ne_nil_of_length_pos hsnaps, hs1, hunder1⟩
  next hsnaps =>
  have hnil : w.san.snapsOf eid.lunIndex = [] := List.length_eq_zero_iff.1 (by omega)
  -- the mapping may be undone first; it goes with the LUN anyway
  refine Ends.bind (Q := fun _ w' => w'.san.dropLUN eid.lunIndex = w.san.dropLUN eid.lunIndex ∧
    eid.lunIndex ∈ w'.san.luns ∧ w.Under w')
    (Ends.attempt (answered_live (hunder1.accepted ▸ hs) ?_ ?_)) ?_
  · intro ch w' _ hs' hunder e _
    rw [hs', hs1]
    exact ⟨rfl, hthere, hunder1.trans hunder⟩
  · intro ch v w' hsome hunder
    simp only [San.serve] at hsome
    split at hsome
    · rw [← (Prod.mk.inj (Option.some.inj hsome)).2, San.dropLUN_unmap, hs1]
      exact ⟨rfl, hthere, hunder1.trans hunder⟩
    · cases hsome
  rintro _ w2 ⟨hdrop2, hthere2, hunder2⟩
  refine Ends.bind (Q := fun r w' => r.isOk = true ∧ w'.san = w.san.dropLUN eid.lunIndex ∧
    w.Under w') (Ends.attempt (answered_live (hunder2.accepted ▸ hs) ?_ ?_)) ?_
  · intro ch w' hnone
    simp only [San.serve, if_pos hthere2] at hnone
    cases hnone
  · intro ch v w' hsome hunder
    simp only [San.serve, if_pos hthere2] at hsome
    rw [← (Prod.mk.inj (Option.some.inj hsome)).2]
    exact ⟨rfl, hdrop2, hunder2.trans hunder⟩
  rintro (e | _) w₃ ⟨hok, hs3, hunder3⟩
  · cases hok
  · have hgone : eid.lunIndex ∉ w₃.san.luns := by
      rw [hs3]
      exact fun h => (AList.mem_erase.1 h).1 rfl
    refine Ends.onError (answered_live (hunder3.accepted ▸ hs) ?_ ?_)
    · intro ch w' hnone
      simp only [San.serve, if_neg hgone] at hnone
      cases hnone
    · intro ch v w' hsome hunder
      simp only [San.serve, if_neg hgone] at hsome
      rw [← (Prod.mk.inj (Option.some.inj hsome)).2]
      exact ⟨hnil, hs3, hunder3.trans hunder⟩

theorem live_deleteUnder (hs : s ∈ w.accepted) :
    Answered (deleteUnder volumeID eid s) w (fun _ w' => Deleted eid w.san w'.san ∧ w.Under w')
      fun e w' => isAuthError e = false ∧ w.san.Refuses eid ∧ w'.san = w.san ∧ w.Under w' := by
  have hrelease : ∀ w1 : World, w1.san = w.san → w.Under w1 → ¬ w.san.OwnsLUN eid →
      Answered (releaseTarget eid s) w1 (fun _ w' => Deleted eid w.san w'.san ∧ w.Under w')
        fun e w' => isAuthError e = false ∧ w.san.Refuses eid ∧ w'.san = w.san ∧ w.Under w' := by
    intro w1 hs1 hunder1 hnot
    refine (live_releaseTarget (hunder1.accepted ▸ hs)).mono ?_ fun _ _ h => h.elim
    rintro _ w' ⟨hr, hunder⟩
    rw [hs1] at hr
    exact ⟨.kept hnot hr, hunder1.trans hunder⟩
  refine Ends.bind (Q := fun r w' => w'.san = w.san ∧ w.Under w' ∧
    Outcome (fun l _ => w.san.lun eid.lunIndex = some l ∨
      w.san.lun eid.lunIndex = none ∧ l.name = "") (fun _ _ => w.san.lun eid.lunIndex = none) r ())
    (Ends.attempt (answered_live hs ?_ ?_)) ?_
  · intro ch w' hnone hs' hunder e _
    refine ⟨hs', hunder, ?_⟩
    cases hl : w.san.lun eid.lunIndex with
    | none => exact rfl
    | some l =>
      simp only [San.serve, hl] at hnone
      cases hnone
  · intro ch l w' hsome hunder
    obtain ⟨hs', hl⟩ := San.serve_getLUN hsome
    refine ⟨hs', hunder, ?_⟩
    rcases hl with hl | ⟨hl, rfl⟩
    · exact .inl hl
    · exact .inr ⟨hl, rfl⟩
  rintro (e | l) w1 ⟨hs1, hunder1, hl⟩
  · refine hrelease w1 hs1 hunder1 ?_
    rintro ⟨l, hl', -⟩
    rw [show w.san.lun eid.lunIndex = none from hl] at hl'
    cases hl'
  · have hl : w.san.lun eid.lunIndex = some l ∨ w.san.lun eid.lunIndex = none ∧ l.name = "" := hl
    -- our LUN is there exactly if the read returned it under a name that passes the checks
    have howns : w.san.OwnsLUN eid ↔ l.name ≠ "" ∧ (eid.lunName = "" ∨ l.name = eid.lunName) := by
      rcases hl with hl | ⟨hl, hempty⟩
      · constructor
        · rintro ⟨l', hl', hname⟩
          rw [hl] at hl'
          cases hl'
          exact hname
        · exact fun hname => ⟨l, hl, hname⟩
      · refine iff_of_false ?_ fun h => h.1 hempty
        rintro ⟨l', hl', -⟩
        rw [hl] at hl'
        cases hl'
    dsimp only
    split
    · next hempty => exact hrelease w1 hs1 hunder1 fun h => (howns.1 h).1 hempty
    · next hname =>
      split
      · next hother =>
        refine hrelease w1 hs1 hunder1 fun h => ?_
        rcases (howns.1 h).2 with h | h
        · exact hother.1 h
        · exact hother.2 h
      · next hsame =>
        have hours : w.san.OwnsLUN eid := by
          refine howns.2 ⟨hname, ?_⟩
          by_cases h : eid.lunName = ""
          · exact .inl h
          · exact .inr (not_not.1 fun hne => hsame ⟨h, hne⟩)
        refine Ends.bind ((live_destroyLUN (hunder1.accepted ▸ hs) (hs1 ▸ hours.mem)).mono
          (fun _ _ h => h) ?_) ?_
        · rintro e w2 ⟨hauth, hsnaps, hs2, hunder2⟩
          rw [hs1] at hsnaps
          exact ⟨hauth, ⟨hours, hsnaps⟩, hs2.trans hs1, hunder1.trans hunder2⟩
        rintro _ w2 ⟨hnil, hs2, hunder2⟩
        have hunder2' := hunder1.trans hunder2
        refine (live_releaseTarget (hunder2'.accepted ▸ hs)).mono ?_ fun _ _ h => h.elim
        rintro _ w₃ ⟨hr, hunder3⟩
        rw [hs1] at hnil hs2
        rw [hs2] at hr
        exact ⟨.destroyed hours hnil hr, hunder2'.trans hunder3⟩

end

theorem answered_deleteVolume {volumeID : String} {eid : ExternalID} {s : Int} {Q : World → Prop}
    {X : Prop} (hid : parseExternalID volumeID = .ok eid) (hsess : w.sess = some s) (hunder : ∀ w',
      w'.san = w.san → w'.accepted = w.accepted → Answered (deleteUnder volumeID eid s) w' (fun _
      w'' => ∀ w3 : World, w3.san = w''.san → Q w3) fun e _ => isAuthError e = false ∧ X) :
    Answered (deleteVolume volumeID) w (fun _ w' => Q w') fun _ _ => X := by
  unfold deleteVolume
  rw [hid, check_ok_bind]
  refine Ends.bind (Q := fun r w' => Outcome (fun _ (w' : World) => ∀ w3 : World,
    w3.san = w'.san → Q w3) (fun _ _ => X) r w') (Ends.attempt (answered_smDo hsess hunder)) ?_
  rintro r w1 h
  refine Ends.bind (Q := fun _ w' => w'.san = w1.san) (Ends.perform fun _ => ⟨trivial, rfl⟩) ?_
  intro _ w2 hs2
  cases r with
  | ok a => exact Ends.pure (h w2 hs2)
  | error e => exact Ends.throw h

theorem deleteVolume_expiry_iff (volumeID : String) (hlike : w.Like w') (hexpired : w.Expired)
    (hlive : w'.Live) : SameOutcomes (deleteVolume volumeID) w w' ↔
      ∀ eid, parseExternalID volumeID = .ok eid → w.san.OwnsNothing eid := by
  cases hid : parseExternalID volumeID with
  | error e =>
    have hblind : Blind (deleteVolume volumeID) := by
      unfold deleteVolume
      rw [hid]
      exact Sim.decided (.error (Err.driver e))
    exact iff_of_true (hblind.sameOutcomes hlike) nofun
  | ok eid =>
    obtain ⟨s, hsess, hs⟩ := hexpired
    obtain ⟨s', hsess', hs'⟩ := hlive
    have hgone : ∀ r w1, Reaches answering (deleteVolume volumeID) w r w1 →
        r = .ok () ∧ w1.san = w.san := by
      intro r w1 hr
      have hends := (answered_deleteVolume (Q := fun w1 => w1.san = w.san) (X := False) hid hsess
        fun w0 hs0 hacc => (expired_deleteUnder (hacc ▸ hs)).mono
          (fun _ _ h _ h' => h'.trans (h.trans hs0)) fun _ _ h => h.elim).reaches hr
      cases r with
      | ok a => exact ⟨rfl, hends⟩
      | error e => exact hends.elim
    have hfresh := answered_deleteVolume (Q := fun w1 => w1.san = w'.san ↔ w'.san.OwnsNothing eid)
      (X := ¬ w'.san.OwnsNothing eid) hid hsess' fun w0 hs0 hacc =>
        (live_deleteUnder (hacc ▸ hs')).mono (fun _ _ h _ h' => by rw [h', ← hs0]; exact h.1.eq_iff)
          fun _ _ h => ⟨h.1, fun hnot => hnot.1 (hs0 ▸ h.2.1.1)⟩
    rw [hlike.san] at hfresh
    by_cases hnothing : w.san.OwnsNothing eid
    · refine iff_of_true (sameOutcomes_of_only hlike hgone ?_) ?_
      · intro r w1 hr
        have hends := hfresh.reaches hr
        cases r with
        | ok a => exact ⟨rfl, (hends.2 hnothing).trans hlike.san.symm⟩
        | error e => exact absurd hnothing hends
      · rintro _ ⟨⟩
        exact hnothing
    · refine iff_of_false (not_sameOutcomes (P := fun r s => r = .ok () ∧ s = w.san) hgone ?_) ?_
      · rintro r w1 hr ⟨rfl, hs1⟩
        have hends := hfresh.reaches hr
        exact hnothing (hends.1 hs1)
      · exact fun h => hnothing (h eid rfl)

/-! ### DeleteSnapshot -/

def Err.Unavailable (e : Err) : Prop := ∃ err, e = .driver err ∧ err.code = .unavailable

/-- A classified error is Unavailable exactly if it was an authentication error. -/
theorem unavailable_mapQNAPError {op : String} {e : Err} :
    (mapQNAPError op e).Unavailable ↔ isAuthError e = true := by
  unfold mapQNAPError
  split
  · next hauth => exact iff_of_true ⟨_, rfl, rfl⟩ hauth
  · next hauth =>
    refine iff_of_false ?_ hauth
    rintro ⟨err, heq, hcode⟩
    split at heq
    · split_ifs at heq
      all_goals
        cases heq
        cases hcode
    · cases heq
      cases hcode

section

variable {id : String} {sid : SnapshotID} {w : World} {s : Int}

theorem expired_deleteSnapshot (hid : parseSnapshotID id = .ok sid) (hsess : w.sess = some s)
    (hs : s ∉ w.accepted) :
    Answered (deleteSnapshot id) w (fun _ _ => False) fun e _ => e.Unavailable := by
  unfold deleteSnapshot
  rw [hid, check_ok_bind]
  refine answered_smDo hsess fun w1 _ hacc => ?_
  refine Ends.bind (Q := fun _ _ => False) (Ends.onError (answered_refused (hacc ▸ hs) ?_))
    fun _ _ h => h.elim
  intro text w' _ _
  exact ⟨isAuthError_mapQNAPError _ _, unavailable_mapQNAPError.2 rfl⟩

theorem live_deleteSnapshot (hid : parseSnapshotID id = .ok sid) (hsess : w.sess = some s)
    (hs : s ∈ w.accepted) :
    Answered (deleteSnapshot id) w (fun _ _ => True) fun e _ => ¬ e.Unavailable := by
  have hmapped : ∀ op e, isAuthError e = false →
      isAuthError (mapQNAPError op e) = false ∧ ¬ (mapQNAPError op e).Unavailable := by
    intro op e he
    refine ⟨isAuthError_mapQNAPError _ _, fun h => ?_⟩
    rw [unavailable_mapQNAPError.1 h] at he
    cases he
  unfold deleteSnapshot
  rw [hid, check_ok_bind]
  refine answered_smDo hsess fun w1 _ hacc => ?_
  refine Ends.bind (Q := fun _ w' => w'.accepted = w1.accepted) (Ends.onError
    (answered_live (hacc ▸ hs) (fun _ _ _ _ _ e he => hmapped _ e he)
      fun _ _ _ _ h => h.accepted)) ?_
  intro _ w2 hacc2
  exact Ends.onError (answered_live (hacc2 ▸ hacc ▸ hs) (fun _ _ _ _ _ e he => hmapped _ e he)
    fun _ _ _ _ _ => trivial)

end

theorem deleteSnapshot_expiry_iff (id : String) (hlike : w.Like w') (hexpired : w.Expired)
    (hlive : w'.Live) :
    SameOutcomes (deleteSnapshot id) w w' ↔ (parseSnapshotID id).isOk = false := by
  cases hid : parseSnapshotID id with
  | error e =>
    have hblind : Blind (deleteSnapshot id) := by
      unfold deleteSnapshot
      rw [hid]
      exact Sim.decided (.error (Err.driver e))
    exact iff_of_true (hblind.sameOutcomes hlike) rfl
  | ok sid =>
    obtain ⟨s, hsess, hs⟩ := hexpired
    obtain ⟨s', hsess', hs'⟩ := hlive
    refine iff_of_false (not_sameOutcomes (P := fun r _ => ∃ e, r = .error e ∧ e.Unavailable)
      ?_ ?_) nofun
    · intro r w1 hr
      have hends := (expired_deleteSnapshot hid hsess hs).reaches hr
      cases r with
      | ok a => exact hends.elim
      | error e => exact ⟨e, rfl, hends⟩
    · rintro r w1 hr ⟨e, rfl, he⟩
      exact (live_deleteSnapshot hid hsess' hs').reaches hr he

/-! ### The node's lookups -/

section

variable {k : SanIdentityCache} {now later : Int} {find : SanIdentityCache → Option String}
  {w : World} {s : Int}

theorem answered_resolveWith (found : Option String) (hcold : k.isWarm now = false)
    (h : Answered (hydrate later) w (fun k' w' => find k' = found ∧ w'.san = w.san)
      fun _ w' => none = found ∧ w'.san = w.san) :
    Answered (do return (← resolveWith k now later find).1) w
      (fun r w' => r = found ∧ w'.san = w.san) fun _ _ => False := by
  refine Ends.bind (Q := fun p w' => p.1 = found ∧ w'.san = w.san) ?_ fun p w' hp => Ends.pure hp
  unfold resolveWith
  rw [hcold, if_neg Bool.false_ne_true]
  refine Ends.bind (Q := Outcome (fun k' (w' : World) => find k' = found ∧ w'.san = w.san)
    fun _ (w' : World) => none = found ∧ w'.san = w.san) (Ends.attempt h) ?_
  rintro (e | k') w' hp
  · exact Ends.pure hp
  · exact Ends.pure hp

theorem expired_hydrate (hsess : w.sess = some s) (hs : s ∉ w.accepted) :
    Answered (hydrate later) w (fun _ _ => False) fun _ w' => w'.san = w.san := by
  refine Ends.bind (answered_smGet hsess) ?_
  rintro _ w1 ⟨rfl, hlater, hacc⟩
  exact Ends.bind (Q := fun _ _ => False)
    (answered_refused (hacc ▸ hs) fun _ _ h _ => h.trans hlater.san)
    fun _ _ h => h.elim

theorem live_hydrate (hw : w.Honoured) :
    Answered (hydrate later) w
      (fun k' w' => k' = .build w.san.allTargets w.san.allLUNs later ∧ w'.san = w.san)
      fun _ _ => False := by
  refine Ends.bind (answered_smGet_honoured hw) ?_
  rintro s w1 ⟨hlater, hs⟩
  refine Ends.bind (ends_read (fun _ h => h) rfl hs ?_) ?_
  · intro ch w' _ _ hnone
    cases hnone
  rintro _ w2 ⟨hlater2, hacc2, _, -, htgts⟩
  refine Ends.bind (ends_read (fun _ h => h) rfl (hacc2 ▸ hs) ?_) ?_
  · intro ch w' _ _ hnone
    cases hnone
  rintro _ w₃ ⟨hlater3, -, _, -, hluns⟩
  cases htgts
  cases hluns
  refine Ends.pure ⟨?_, hlater3.san.trans (hlater2.san.trans hlater.san)⟩
  rw [hlater2.san, hlater.san]

end

theorem resolveWith_expiry_iff (k : SanIdentityCache) (now later : Int)
    (find : SanIdentityCache → Option String) (hlike : w.Like w') (hexpired : w.Expired)
    (hlive : w'.Live) : SameOutcomes (do return (← resolveWith k now later find).1) w w' ↔
      k.isWarm now = true ∨ find (.build w.san.allTargets w.san.allLUNs later) = none := by
  by_cases hwarm : k.isWarm now = true
  · have hblind : Blind (do return (← resolveWith k now later find).1) := by
      refine .bind ?_ fun p => .pure p.1
      unfold resolveWith
      rw [if_pos hwarm]
      exact .pure _
    exact iff_of_true (hblind.sameOutcomes hlike) (.inl hwarm)
  · obtain ⟨s, hsess, hs⟩ := hexpired
    have hcold : k.isWarm now = false := Bool.eq_false_iff.2 hwarm
    have hnone : ∀ r w1, Reaches answering (do return (← resolveWith k now later find).1) w r w1 →
        r = .ok none ∧ w1.san = w.san := by
      intro r w1 hr
      have hends := (answered_resolveWith none hcold ((expired_hydrate hsess hs).mono
        (fun _ _ h => h.elim) fun _ _ h => ⟨rfl, h⟩)).reaches hr
      cases r with
      | ok a => exact ⟨congrArg Except.ok hends.1, hends.2⟩
      | error e => exact hends.elim
    have hfound : ∀ r w1, Reaches answering (do return (← resolveWith k now later find).1) w' r w1 →
        r = .ok (find (.build w.san.allTargets w.san.allLUNs later)) ∧ w1.san = w'.san := by
      intro r w1 hr
      have hends := (answered_resolveWith _ hcold ((live_hydrate hlive.honoured).mono
        (fun _ _ h => ⟨congrArg find h.1, h.2⟩) fun _ _ h => h.elim)).reaches hr
      rw [hlike.san] at hends ⊢
      cases r with
      | ok a => exact ⟨congrArg Except.ok hends.1, hends.2⟩
      | error e => exact hends.elim
    rw [or_iff_right hwarm]
    by_cases hmiss : find (.build w.san.allTargets w.san.allLUNs later) = none
    · rw [hmiss] at hfound
      exact iff_of_true (sameOutcomes_of_only hlike hnone hfound) hmiss
    · refine iff_of_false (not_sameOutcomes (P := fun r _ => r = .ok none)
        (fun r w1 hr => (hnone r w1 hr).1) fun r w1 hr hr' => ?_) hmiss
      exact hmiss (Except.ok.inj ((hfound r w1 hr).1.symm.trans hr'))

/-- A cached session that has expired shows in no outcome of an operation exactly if the operation is
not one of the three that mind, or would find nothing with a session either. -/
theorem sessionExpiry_iff (o : SessionOp) {w w' : World} (hlike : w.Like w') (hexpired : w.Expired)
    (hlive : w'.Live) : SameOutcomes o.op w w' ↔ o.Indifferent w := by
  cases o with
  | createVolume c req =>
    exact iff_of_true ((blind_createVolume c req).sameOutcomes hlike) trivial
  | deleteVolume id => exact deleteVolume_expiry_iff id hlike hexpired hlive
  | expandVolume id cr => exact iff_of_true ((blind_expandVolume id cr).sameOutcomes hlike) trivial
  | createSnapshot c req =>
    exact iff_of_true ((blind_createSnapshot c req).sameOutcomes hlike) trivial
  | deleteSnapshot id => exact deleteSnapshot_expiry_iff id hlike hexpired hlive
  | listVolumes => exact iff_of_true (blind_listVolumes.sameOutcomes hlike) trivial
  | listSnapshots c src =>
    exact iff_of_true ((blind_listSnapshots c src).sameOutcomes hlike) trivial
  | volumeExists id => exact iff_of_true ((blind_volumeExists id).sameOutcomes hlike) trivial
  | getCapacity c params =>
    exact iff_of_true ((blind_getCapacity c params).sameOutcomes hlike) trivial
  | resolveIQN k now later eid =>
    exact resolveWith_expiry_iff k now later (·.iqnFor eid) hlike hexpired hlive
  | resolveExternalID k now later iqn n =>
    exact resolveWith_expiry_iff k now later (·.idFor iqn n) hlike hexpired hlive

def liveWorld : World := .of [(7, "vol1")] [(3, "vol1")] [(7, 3)]

/-- The same volume, with the session dropped by the appliance. -/
def expiredWorld : World := { liveWorld with accepted := [] }

theorem expiredWorld_like : expiredWorld.Like liveWorld := ⟨rfl, rfl, rfl⟩

theorem expiredWorld_expired : expiredWorld.Expired := ⟨1, rfl, List.not_mem_nil⟩

theorem liveWorld_live : liveWorld.Live := ⟨1, rfl, .head _⟩

theorem listVolumes_expired : SameOutcomes (SessionOp.op .listVolumes) expiredWorld liveWorld :=
  (sessionExpiry_iff .listVolumes expiredWorld_like expiredWorld_expired liveWorld_live).2 trivial

/-- Under an expired session DeleteVolume reports success and deletes nothing. -/
theorem deleteVolume_expired_keeps_lun : ¬ ∀ (o : SessionOp) (w w' : World), w.Like w' →
    w.Expired → w'.Live → SameOutcomes o.op w w' := by
  intro h
  have hsame := h (.deleteVolume (ExternalID.toString ⟨7, 3, true, "vol1"⟩)) _ _ expiredWorld_like
    expiredWorld_expired liveWorld_live
  have hnothing := (deleteVolume_expiry_iff _ expiredWorld_like expiredWorld_expired
    liveWorld_live).1 hsame ⟨7, 3, true, "vol1"⟩ (by decide)
  exact hnothing.1 ⟨⟨7, "vol1", giB⟩, by decide, by decide, .inr rfl⟩

end NomadCsi.Qnap
