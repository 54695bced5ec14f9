import NomadCsi.Qnap.Create
import NomadCsi.Qnap.Delete

/-!
# The index-reuse guard

Before an operation touches the LUN a volume id points to, the driver is meant to check
that the LUN still carries the id's name. DeleteVolume, ExpandVolume and CreateSnapshot
do; a clone and a filtered ListSnapshots go by the index alone.
-/

namespace NomadCsi.Qnap

open Lib Lib.Go Driver

inductive VolumeOp where
  | delete (volumeID : String)
  | expand (volumeID : String) (cr : CapacityRange)
  | snapshot (volumeID name : String)
  | clone (volumeID : String) (req : CreateVolumeRequest)
  | listSnapshots (volumeID : String)

namespace VolumeOp

def volumeID : VolumeOp → String
  | delete id | expand id _ | snapshot id _ | clone id _ | listSnapshots id => id

def prog (c : Controller) : VolumeOp → Op Unit
  | delete id => deleteVolume id
  | expand id cr => do let _ ← expandVolume id cr
  | snapshot id name => do let _ ← createSnapshot c ⟨id, name⟩
  | clone id req => do let _ ← createVolume c { req with contentSource := some ⟨"", id⟩ }
  | listSnapshots id => do let _ ← Qnap.listSnapshots c id

/-- The operation compares the LUN's name with the id's before it touches the LUN. -/
def checksName : VolumeOp → Bool
  | delete _ | expand _ _ | snapshot _ _ => true
  | clone _ _ | listSnapshots _ => false

end VolumeOp

/-- The call deletes, unmaps, resizes, snapshots or clones LUN `i`, or lists its snapshots. -/
def Touches (i : Int) : SanCall → Prop
  | .deleteLUN j | .unmapLUN j _ | .resizeLUN j _ | .createSnapshot j _ | .listSnapshots j => j = i
  | .cloneLUN r => r.sourceLUNIndex = i
  | _ => False

/-- Every call that touches the id's LUN meets it under its name exactly if `P`. -/
def Guarded (eid : ExternalID) (P : Prop) (c : SanCall) (s : San) : Prop :=
  Touches eid.lunIndex c → (s.Carries eid.lunIndex eid.lunName ↔ P)

variable {volumeID : String} {c : Controller}

section

variable {eid : ExternalID} {P : Prop} {s : San} {k : LunCache}

/-- The check only reads, and passes only over the id's own LUN or for an id without a name. -/
theorem does_nameCheck {E : SanCall → San → Prop} (hE : E (.getLUN eid.lunIndex) s) :
    Does E (ensureLUNIsOurs eid) s k
      (fun _ s' _ => s' = s ∧ (eid.lunName = "" ∨ s.Carries eid.lunIndex eid.lunName))
      fun _ s' _ => s' = s := by
  unfold ensureLUNIsOurs
  split
  · next hname => exact .pure ⟨rfl, .inl hname⟩
  · next hname =>
    refine .bind (Q := fun r s' _ => s' = s ∧ ∀ lun, r = .ok lun → lun.name ≠ "" →
      s.Carries eid.lunIndex lun.name) (.attempt ?_) ?_
    · refine (Does.smDo_read rfl hE).mono ?_ fun _ _ _ h => ⟨h.1, nofun⟩
      rintro lun _ _ ⟨rfl, -, ch, hs⟩
      refine ⟨rfl, ?_⟩
      rintro _ ⟨⟩ hne
      exact San.carries_of_getLUN hs hne
    · rintro (e | lun) _ k ⟨rfl, h⟩
      · exact .fail rfl
      · dsimp only
        split
        · exact .fail rfl
        · next heq =>
          have heq : lun.name = eid.lunName := not_not.1 heq
          exact .pure ⟨rfl, .inr (heq ▸ h lun rfl (heq ▸ hname))⟩

theorem does_ensureLUNIsOurs (hname : eid.lunName ≠ "") :
    Does (Guarded eid P) (ensureLUNIsOurs eid) s k
      (fun _ s _ => s.Carries eid.lunIndex eid.lunName) fun _ _ _ => True := by
  refine (does_nameCheck nofun).mono ?_ fun _ _ _ _ => trivial
  rintro _ _ _ ⟨rfl, hown⟩
  exact hown.resolve_left hname

theorem does_touch {sess : Int} {c : SanCall} (hs : s.Carries eid.lunIndex eid.lunName)
    (hc : c ≠ .deleteLUN eid.lunIndex) :
    Does (Guarded eid True) (san sess c) s k
      (fun _ s _ => s.Carries eid.lunIndex eid.lunName)
      fun _ s _ => s.Carries eid.lunIndex eid.lunName :=
  .san (fun _ => iff_of_true hs trivial) (fun _ => hs) fun _ _ _ h =>
    have hs' := (San.serve_effect h).carries hc hs
    ⟨hs', fun _ => hs'⟩

theorem guarded_destroyLUN (volumeID : String) (sess : Int)
    (hs : s.Carries eid.lunIndex eid.lunName) :
    Does (Guarded eid True) (destroyLUN volumeID eid sess) s k (fun _ _ _ => True)
      fun _ _ _ => True := by
  have hdrop : ∀ {α : Type} {x : Op α} {s : San} {k : LunCache} {Q : α → San → LunCache → Prop},
      Does (Guarded eid True) x s k Q (fun _ s _ => s.Carries eid.lunIndex eid.lunName) →
      Does (Guarded eid True) x s k Q fun _ _ _ => True :=
    fun h => h.mono (fun _ _ _ h => h) fun _ _ _ _ => trivial
  refine .bind (.onError (hdrop (does_touch hs nofun))) fun snaps s k hs => ?_
  split
  · exact .fail trivial
  · refine .bind (Q := fun _ s _ => s.Carries eid.lunIndex eid.lunName)
      (.attempt (does_touch hs nofun)) fun _ s k hs => ?_
    refine .bind (Q := fun _ _ _ => True) (.attempt ?_) fun r _ _ _ => ?_
    · exact .san (fun _ => iff_of_true hs trivial) (fun _ => trivial)
        fun _ _ _ _ => ⟨trivial, fun _ => trivial⟩
    · exact .of_calls (calls_confirmGone _ _ _ (by rintro _ _ ⟨⟩ _ ⟨⟩) (by rintro _ _ ⟨⟩ _ ⟨⟩))

theorem guarded_deleteVolume (hid : parseExternalID volumeID = .ok eid) (hname : eid.lunName ≠ "") :
    Does (Guarded eid True) (deleteVolume volumeID) s k (fun _ _ _ => True)
      fun _ _ _ => True :=
  does_deleteVolume_by (I := fun _ => True) hid trivial (fun _ _ => nofun)
    (fun sess _ _ _ hown => guarded_destroyLUN volumeID sess (hown hname))
    fun _ _ _ _ => .of_calls (calls_releaseTarget _ _ (by rintro _ _ ⟨⟩ _ ⟨⟩)
      (by rintro _ _ ⟨⟩ _ ⟨⟩))

theorem guarded_expandVolume {cr : CapacityRange} (hid : parseExternalID volumeID = .ok eid)
    (hname : eid.lunName ≠ "") :
    Does (Guarded eid True) (expandVolume volumeID cr) s k (fun _ _ _ => True)
      fun _ _ _ => True := by
  unfold expandVolume
  rw [hid, check_ok_bind]
  refine .bind (Q := fun _ _ _ => True) (.check (fun _ _ => trivial) fun _ _ => trivial)
    fun sizeGB s k _ => ?_
  refine .bind (does_ensureLUNIsOurs hname) fun _ s k hs => ?_
  refine .bind (Q := fun _ _ _ => True) (.onError ?_) fun _ _ _ _ => .pure trivial
  refine .smDo (fun s _ => s.Carries eid.lunIndex eid.lunName) hs (fun sess s k hs => ?_)
    fun _ _ _ _ => trivial
  refine .mono (P := fun _ _ _ => True)
    (Y := fun _ s _ => s.Carries eid.lunIndex eid.lunName) ?_ (fun _ _ _ h => h)
    fun _ _ _ h => ⟨h, trivial⟩
  refine .bind (does_touch hs nofun) fun _ s k hs => ?_
  exact .bind (does_touch hs nofun) fun _ _ _ _ => .pure trivial

theorem guarded_createSnapshot {name : String} (hid : parseExternalID volumeID = .ok eid)
    (hname : eid.lunName ≠ "") :
    Does (Guarded eid True) (createSnapshot c ⟨volumeID, name⟩) s k (fun _ _ _ => True)
      fun _ _ _ => True := by
  unfold createSnapshot
  rw [hid, check_ok_bind]
  refine .bind (does_ensureLUNIsOurs hname) fun _ s k hs => ?_
  refine .bind (Q := fun _ _ _ => True) (.onError ?_) fun _ _ _ _ => .pure trivial
  refine .smDo (fun s _ => s.Carries eid.lunIndex eid.lunName) hs (fun sess s k hs => ?_)
    fun _ _ _ _ => trivial
  refine Does.mono (does_touch hs ?_) (fun _ _ _ _ => trivial) fun _ _ _ h => ⟨h, trivial⟩
  exact nofun

theorem guarded_listSnapshots (hid : parseExternalID volumeID = .ok eid)
    (hP : s.Carries eid.lunIndex eid.lunName ↔ P) :
    Does (Guarded eid P) (listSnapshots c volumeID) s k (fun _ _ _ => True)
      fun _ _ _ => True := by
  have hne : volumeID ≠ "" := by
    rintro rfl
    cases hid
  unfold listSnapshots
  rw [if_pos hne, hid, check_ok_bind]
  refine .bind (Q := fun _ _ _ => True) (.onError ?_) fun _ _ _ _ => .pure trivial
  exact (Does.smDo_read rfl fun _ => hP).mono (fun _ _ _ _ => trivial) fun _ _ _ _ => trivial

theorem carries_addLUN_iff {i j t : Int} {name : String} {row : LunRow} (hij : i ≠ j) :
    (s.addLUN j row t).Carries i name ↔ s.Carries i name := by
  simp [San.Carries, hij]

/-- A clone goes by the source's index alone. What it creates and grows is another LUN, so the
source stays what it was. -/
theorem guarded_clone {req : CreateVolumeRequest} (hid : parseExternalID volumeID = .ok eid)
    (hP : s.Carries eid.lunIndex eid.lunName ↔ P) :
    Does (Guarded eid P) (createVolume c { req with contentSource := some ⟨"", volumeID⟩ }) s k
      (fun _ _ _ => True) fun _ _ _ => True := by
  have hne : volumeID ≠ "" := by
    rintro rfl
    cases hid
  have hreads : ∀ s, Reads (Guarded eid P) s := fun s => ⟨nofun, nofun, fun _ => nofun, fun _ => nofun⟩
  let I : San → Prop := fun s => s.Carries eid.lunIndex eid.lunName ↔ P
  have hI : ∀ c s, I s → Guarded eid P c s := fun _ _ h _ => h
  have hclone : ∀ (r : CloneLUNRequest), r.sourceLUNIndex = eid.lunIndex → ∀ s v s', I s →
      Effect s (.cloneLUN r) v s' → I s' ∧ True := by
    intro r hr s v s' h he
    refine ⟨?_, trivial⟩
    cases he with
    | read _ hr => cases hr
    | addClone _ row _ hi _ hsrc =>
      refine Iff.trans (carries_addLUN_iff ?_) h
      rintro rfl
      exact hi (hr ▸ hsrc)
  have hresize : ∀ i gb s v s', I s → Effect s (.resizeLUN i gb) v s' → I s' := by
    intro i gb s v s' h he
    exact Iff.trans ⟨he.carries_of_carries rfl, he.carries nofun⟩ h
  unfold createVolume
  refine .bind (Q := fun vp s' _ => s' = s ∧ vp.targetIndex = none) (.check ?_ fun _ _ => trivial) ?_
  · exact fun vp h => ⟨rfl, resolveParams_targetIndex h⟩
  rintro vp s k ⟨rfl, hvp⟩
  refine .bind (Q := fun _ s' _ => s' = s) (.check (fun _ _ => rfl) fun _ _ => trivial) ?_
  rintro sizeGB s k rfl
  refine .bind (Q := fun _ s' _ => s' = s)
    ((does_findExistingVolume _ _ _ _ (hreads s)).mono (fun _ _ _ h => h) fun _ _ _ _ => trivial) ?_
  rintro (_ | existing) s k rfl
  · refine .bind (Q := fun _ s _ => I s) ((does_resolveTarget hvp hP (fun _ => hI _) ?_).mono
      (fun _ _ _ h => h.1) fun _ _ _ _ => trivial) fun tgt s k h => ?_
    · intro r s v s' h he
      exact Iff.trans ⟨he.carries_of_carries rfl, he.carries nofun⟩ h
    · refine .bind (Q := fun _ s _ => I s) (.attempt ?_) fun r s k h => ?_
      · unfold provisionLUN
        dsimp only [Option.getD_some]
        rw [if_neg (not_not.2 rfl), if_pos hne, hid, check_ok_bind]
        refine .bind (.onError (does_smDo_step h (hI _) (hclone _ rfl))) fun i s k h => ?_
        exact .bind (does_growToRequested h.1 (hI _) (hI _) (fun _ => hI _) (hresize _ _))
          fun _ _ _ h => .pure h
      · cases r with
        | error e =>
          exact .bind (does_rollbackTarget fun _ => nofun) fun _ _ _ _ => .throw trivial
        | ok i =>
          exact (does_assembleVolume _ _ _ _ _ _ _ (hreads s)).mono (fun _ _ _ _ => trivial)
            fun _ _ _ _ => trivial
  · exact .pure trivial

end

theorem guarded_prog {op : VolumeOp} {eid : ExternalID} {w : World}
    (hid : parseExternalID op.volumeID = .ok eid) (hname : eid.lunName ≠ "") :
    Does (Guarded eid (op.checksName = true ∨ w.san.Carries eid.lunIndex eid.lunName))
      (op.prog c) w.san w.cache (fun _ _ _ => True) fun _ _ _ => True := by
  have hdrop : ∀ {α : Type} {P : Prop} {x : Op α} {s : San} {k : LunCache},
      Does (Guarded eid P) x s k (fun _ _ _ => True) (fun _ _ _ => True) →
      Does (Guarded eid P) (x >>= fun _ => pure ()) s k (fun _ _ _ => True) fun _ _ _ => True :=
    fun h => .bind h fun _ _ _ _ => .pure trivial
  cases op with
  | delete id =>
    simp only [VolumeOp.checksName, true_or]
    exact guarded_deleteVolume hid hname
  | expand id cr =>
    simp only [VolumeOp.checksName, true_or]
    exact hdrop (guarded_expandVolume hid hname)
  | snapshot id name =>
    simp only [VolumeOp.checksName, true_or]
    exact hdrop (guarded_createSnapshot hid hname)
  | clone id req =>
    simp only [VolumeOp.checksName, Bool.false_eq_true, false_or]
    exact hdrop (guarded_clone hid Iff.rfl)
  | listSnapshots id =>
    simp only [VolumeOp.checksName, Bool.false_eq_true, false_or]
    exact hdrop (guarded_listSnapshots hid Iff.rfl)

/-- When a call that touches the id's LUN meets that LUN: always in the operations that check the
name, and in a clone or a filtered listing exactly if the LUN carried the name beforehand. -/
theorem guard_iff {c : Controller} {op : VolumeOp} {eid : ExternalID} {w w' : World}
    {tr : List Ev} {r : Except Err Unit} {e : Ev} {sess : Int} {call : SanCall}
    (hid : parseExternalID op.volumeID = .ok eid) (hname : eid.lunName ≠ "")
    (hrun : Runs act (op.prog c).run w tr r w') (he : e ∈ tr) (hcall : e.call = .san sess call)
    (htouch : Touches eid.lunIndex call) :
    e.pre.san.Carries eid.lunIndex eid.lunName ↔
      op.checksName = true ∨ w.san.Carries eid.lunIndex eid.lunName := by
  have := ((guarded_prog hid hname).runs hrun).1 e he
  unfold Issues at this
  rw [hcall] at this
  exact this htouch

theorem guard_oneVolume : ∃ tr r w',
    Runs act ((VolumeOp.delete "qnap/v1/7/3/t/vol1").prog .plain).run oneVolume tr r w' ∧
      ∃ e ∈ tr, Ev.Is e (.deleteLUN 7) ∧ e.pre.san.Carries 7 "vol1" := by
  obtain ⟨tr, r, w', hrun, e, he, sess, hcall⟩ := runs_of_exec act
    ((VolumeOp.delete "qnap/v1/7/3/t/vol1").prog .plain).run oneVolume
    (List.replicate 9 {}) (fun x => ∃ e ∈ x.1, Ev.Is e (.deleteLUN 7)) (by decide)
  have hid : parseExternalID (VolumeOp.delete "qnap/v1/7/3/t/vol1").volumeID =
    .ok ⟨7, 3, true, "vol1"⟩ := by decide
  exact ⟨tr, r, w', hrun, e, he, ⟨sess, hcall⟩,
    (guard_iff hid (by decide) hrun he hcall rfl).2 (.inl rfl)⟩

/-- Index 7 was given to another volume: listing the snapshots of the old id reads the
newcomer's. -/
theorem listSnapshots_touches_reused_index : ¬ ∀ (c : Controller) (op : VolumeOp)
    (eid : ExternalID) (w w' : World) (tr : List Ev) (r : Except Err Unit) (e : Ev) (sess : Int)
    (call : SanCall), parseExternalID op.volumeID = .ok eid → eid.lunName ≠ "" →
      Runs act (op.prog c).run w tr r w' → e ∈ tr → e.call = .san sess call →
      Touches eid.lunIndex call → e.pre.san.Carries eid.lunIndex eid.lunName := by
  intro h
  obtain ⟨tr, r, w', hrun, e, he, ⟨sess, hlist⟩, hother⟩ := runs_of_exec act
    ((VolumeOp.listSnapshots "qnap/v1/7/3/t/vol1").prog .plain).run
    (.of [(7, "other")] [(3, "other")] [(7, 3)]) [{}, {}]
    (fun x => ∃ e ∈ x.1, Ev.Is e (.listSnapshots 7) ∧ ¬ e.pre.san.Carries 7 "vol1") (by decide)
  exact hother (h _ _ ⟨7, 3, true, "vol1"⟩ _ _ _ _ e sess _ (by decide) (by decide) hrun he hlist rfl)

end NomadCsi.Qnap
