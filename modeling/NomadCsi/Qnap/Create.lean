import NomadCsi.Qnap.Logic

/-!
# The steps of CreateVolume

One judgement for each function that CreateVolume goes through, for any condition `E`
on the client calls that the reads satisfy. The steps that change the appliance keep an
invariant `I` of it: what has to be shown is that the one creating call keeps `I`.
-/

namespace NomadCsi.Qnap

open Lib Lib.Go Driver

/-- The reads of CreateVolume are allowed in `s`. -/
structure Reads (E : SanCall → San → Prop) (s : San) : Prop where
  listLUNs : E .listLUNs s
  listTargets : E .listTargets s
  getLUN : ∀ i, E (.getLUN i) s
  getTarget : ∀ t, E (.getTarget t) s

variable {lunName : String}

section

variable {E : SanCall → San → Prop} {I : San → Prop} {s : San} {k : LunCache}

theorem does_rebuildCache (h : Reads E s) :
    Does E rebuildCache s k
      (fun _ s' k' => s' = s ∧ ∃ now, k' = .install s.allLUNs s.allTargets now)
      fun _ s' _ => s' = s := by
  refine .bind (Q := fun lists s' _ => s' = s ∧ lists = (s.allLUNs, s.allTargets)) ?_ ?_
  · refine .smDo (fun s' _ => s' = s) rfl ?_ fun _ _ _ h => h
    rintro sess s k rfl
    refine .bind (Q := fun luns s' _ => s' = s ∧ luns = s.allLUNs)
      (.read rfl h.listLUNs (fun _ => ⟨rfl, rfl⟩) ?_) ?_
    · rintro ch v hs
      cases hs
      exact ⟨rfl, rfl⟩
    · rintro _ s k ⟨rfl, rfl⟩
      refine .bind (Q := fun targets s' _ => s' = s ∧ targets = s.allTargets)
        (.read rfl h.listTargets (fun _ => ⟨rfl, rfl⟩) ?_) ?_
      · rintro ch v hs
        cases hs
        exact ⟨rfl, rfl⟩
      · rintro _ s k ⟨rfl, rfl⟩
        exact .pure ⟨rfl, rfl⟩
  · rintro _ s k ⟨rfl, rfl⟩
    exact .cacheInstall fun now => ⟨rfl, now, rfl⟩

theorem does_assembleVolume (c : Controller) (source : Option ContentSource) (vp : VolumeParams)
    (lunIdx targetIdx : Int) (own : Bool) (sizeGB : Int) (h : Reads E s) :
    Does E (assembleVolume c source vp lunIdx targetIdx own sizeGB) s k
      (fun v s' _ => s' = s ∧ ∃ lun tgt ch, s.serve (.getLUN lunIdx) ch = some (lun, s) ∧
        s.target targetIdx = some tgt ∧
        v = toVolume c source vp lunIdx targetIdx own sizeGB lun tgt)
      fun _ s' _ => s' = s := by
  refine .bind (Q := fun p s' _ => s' = s ∧ (∃ ch, s.serve (.getLUN lunIdx) ch = some (p.1, s)) ∧
    s.target targetIdx = some p.2) (.onError ?_) ?_
  · refine .smDo (fun s' _ => s' = s) rfl ?_ fun _ _ _ h => h
    rintro sess s k rfl
    refine .bind (Q := fun lun s' _ => s' = s ∧ ∃ ch, s.serve (.getLUN lunIdx) ch = some (lun, s))
      (.read rfl (h.getLUN _) (fun _ => ⟨rfl, rfl⟩) fun ch v hs => ⟨rfl, ch, hs⟩) ?_
    rintro lun s k ⟨rfl, hlun⟩
    refine .bind (Q := fun tgt s' _ => s' = s ∧ s.target targetIdx = some tgt)
      (.read rfl (h.getTarget _) (fun _ => ⟨rfl, rfl⟩) ?_) ?_
    · intro ch tgt hs
      obtain ⟨x, hx, he⟩ := Option.map_eq_some_iff.1 hs
      cases he
      exact ⟨rfl, hx⟩
    · rintro tgt s k ⟨rfl, htgt⟩
      exact .pure ⟨rfl, hlun, htgt⟩
  · rintro ⟨lun, tgt⟩ s k ⟨rfl, ⟨ch, hlun⟩, htgt⟩
    exact .bind (Q := fun _ s' _ => s' = s) (.cacheAdd rfl) fun _ _ _ h =>
      .pure ⟨h, lun, tgt, ch, hlun, htgt, rfl⟩

/-- The volume `v` that CreateVolume returns for a name in the cache: it is read at the cached
indices of the LUN and its target, from whatever is there now. -/
def Reused (c : Controller) (vp : VolumeParams) (name : String) (sizeGB : Int) (s : San)
    (k : LunCache) (v : Volume) : Prop :=
  ∃ l t lun tgt ch, k.lookupByName name = some l ∧ absDiff l.capacityBytes (sizeGB * giB) < giB ∧
    k.targetForLUN l.index = some t ∧ s.serve (.getLUN l.index) ch = some (lun, s) ∧
    s.target t.index = some tgt ∧
    v = toVolume c none vp l.index t.index (t.aliasName = name) sizeGB lun tgt

theorem does_existingFromCache (c : Controller) (lunName : String) (sizeGB : Int)
    (vp : VolumeParams) (h : Reads E s) :
    Does E (existingFromCache c lunName (sizeGB * giB) vp) s k
      (fun r s' _ => s' = s ∧ (r = none → k.lookupByName lunName = none) ∧
        ∀ v, r = some v → Reused c vp lunName sizeGB s k v)
      fun _ s' _ => s' = s := by
  refine .bind (Q := fun r s' k' => s' = s ∧ k' = k ∧ r = k.lookupByName lunName)
    (.cacheLookup ⟨rfl, rfl, rfl⟩) ?_
  rintro (_ | l) s k ⟨rfl, rfl, hl⟩
  · exact .pure ⟨rfl, fun _ => hl.symm, nofun⟩
  · dsimp only
    split
    · exact .fail rfl
    · next hsize =>
      refine .bind (Q := fun r s' k' => s' = s ∧ k' = k ∧ r = k.targetForLUN l.index)
        (.cacheTarget ⟨rfl, rfl, rfl⟩) ?_
      rintro (_ | t) s k ⟨rfl, rfl, ht⟩
      · exact .fail rfl
      · refine .bind (does_assembleVolume _ _ _ _ _ _ _ h) ?_
        rintro v s _ ⟨rfl, lun, tgt, ch, hlun, htgt, hv⟩
        refine .pure ⟨rfl, nofun, ?_⟩
        rintro _ ⟨⟩
        have hgb : (sizeGB * giB).tdiv giB = sizeGB := Int.mul_tdiv_cancel _ (by decide)
        rw [hgb] at hv
        exact ⟨l, t, lun, tgt, ch, hl.symm, Int.not_le.1 hsize, ht.symm, hlun, htgt, hv⟩

theorem does_findExistingVolume (c : Controller) (lunName : String) (sizeGB : Int)
    (vp : VolumeParams) (h : Reads E s) :
    Does E (findExistingVolume c lunName (sizeGB * giB) vp) s k (fun _ s' _ => s' = s)
      fun _ s' _ => s' = s := by
  refine .bind (Q := fun _ s' _ => s' = s) (.onError ?_) ?_
  · refine .bind (Q := fun _ s' _ => s' = s) (.cacheFresh fun _ => rfl) ?_
    rintro (_ | _) s k rfl
    · exact (does_rebuildCache h).mono (fun _ _ _ h => h.1) fun _ _ _ h => h
    · exact .pure rfl
  · rintro _ s k rfl
    exact (does_existingFromCache c lunName sizeGB vp h).mono (fun _ _ _ h => h.1) fun _ _ _ h => h

theorem does_smDo_step {c : SanCall} {Q : c.Val → San → Prop} (hI : I s)
    (hE : ∀ s, I s → E c s) (hstep : ∀ s v s', I s → Effect s c v s' → I s' ∧ Q v s') :
    Does E (smDo fun sess => san sess c) s k (fun v s' _ => I s' ∧ Q v s')
      fun _ s' _ => I s' := by
  refine .smDo (fun s _ => I s) hI ?_ fun _ _ _ h => h
  intro sess s k hI
  refine .san (hE s hI) (fun _ => ⟨hI, hI⟩) fun ch v s' hs => ?_
  have h' := hstep s v s' hI (San.serve_effect hs)
  exact ⟨h', fun _ => ⟨h'.1, h'.1⟩⟩

theorem does_resolveTarget {c : Controller} {vp : VolumeParams} (hvp : vp.targetIndex = none)
    (hI : I s) (hE : ∀ r s, I s → E (.createTarget r) s)
    (hstep : ∀ r s v s', I s → Effect s (.createTarget r) v s' → I s') :
    Does E (resolveTarget c lunName vp) s k (fun r s' _ => I s' ∧ r.2 = true)
      fun _ s' _ => I s' := by
  unfold resolveTarget
  rw [hvp]
  refine .bind (Q := fun _ s' _ => I s' ∧ True) (.onError (does_smDo_step hI (hE _) ?_)) ?_
  · exact fun s v s' hI he => ⟨hstep _ s v s' hI he, trivial⟩
  · exact fun _ _ _ h => .pure ⟨h.1, rfl⟩

theorem does_growToRequested {lunIdx sizeGB : Int} (hI : I s)
    (hget : ∀ s, I s → E (.getLUN lunIdx) s) (hresize : ∀ s, I s → E (.resizeLUN lunIdx sizeGB) s)
    (hwait : ∀ b s, I s → E (.waitForResizeComplete lunIdx b) s)
    (hstep : ∀ s v s', I s → Effect s (.resizeLUN lunIdx sizeGB) v s' → I s') :
    Does E (growToRequested lunIdx sizeGB) s k (fun _ s' _ => I s') fun _ s' _ => I s' := by
  refine .bind (Q := fun _ s' _ => I s') (.onError ?_) fun lun s k hI => ?_
  · refine (Does.smDo_read rfl (hget s hI)).mono ?_ ?_
    · rintro _ _ _ ⟨rfl, -⟩
      exact hI
    · rintro _ _ _ ⟨rfl, -⟩
      exact hI
  · split
    · exact .pure hI
    · refine .smDo (fun s _ => I s) hI (fun sess s k hI => ?_) fun _ _ _ h => h
      refine .bind (Q := fun _ s' _ => I s') (.san (hresize s hI) (fun _ => ⟨hI, hI⟩) ?_) ?_
      · intro ch v s' hs
        have h' := hstep s v s' hI (San.serve_effect hs)
        exact ⟨h', fun _ => ⟨h', h'⟩⟩
      · intro _ s k hI
        exact .bind (Q := fun _ s' _ => I s')
          (.read rfl (hwait _ s hI) (fun _ => ⟨hI, hI⟩) fun _ _ _ => hI) fun _ _ _ hI => .pure hI

theorem does_rollbackTarget {targetIdx : Int} {own : Bool}
    (hE : ∀ s, E (.deleteTarget targetIdx) s) :
    Does E (rollbackTarget targetIdx own) s k (fun _ _ _ => True) fun _ _ _ => True := by
  unfold rollbackTarget bestEffortDeleteTarget
  split
  · refine .bind (Q := fun _ _ _ => True) (.attempt ?_) fun _ _ _ _ => .pure trivial
    exact (does_smDo_step (I := fun _ => True) (Q := fun _ _ => True) trivial (fun s _ => hE s)
      fun _ _ _ _ _ => ⟨trivial, trivial⟩).mono (fun _ _ _ _ => trivial) fun _ _ _ _ => trivial
  · exact .pure trivial

end

section

variable {s : San} {k : LunCache}

theorem made_of_resize {s s' : San} {i t gb : Int} {name : String} {v : Unit} (h : s.Made i name t)
    (he : Effect s (.resizeLUN i gb) v s') : s'.Made i name t :=
  ⟨he.carries nofun h.1, he.maps_mem nofun nofun nofun h.2⟩

/-- Whatever the source, a new LUN is put on the target and grown: what holds of it then holds of
the provisioned LUN. -/
theorem does_provisionLUN_of (source : Option ContentSource) (vp : VolumeParams) (lunName : String)
    (sizeGB targetIdx : Int) {I : San → Prop} {Q : Int → San → Prop} (hI : I s)
    (hadd : ∀ s i s', I s → s.Adds i lunName targetIdx s' → I s' ∧ Q i s')
    (hresize : ∀ s i gb v s', Q i s → Effect s (.resizeLUN i gb) v s' → Q i s') :
    Does (fun _ _ => True) (provisionLUN source vp lunName sizeGB targetIdx) s k
      (fun i s' _ => Q i s') fun _ _ _ => True := by
  have hgrow : ∀ {i : Int} {s : San} {k : LunCache}, Q i s →
      Does (fun _ _ => True) (growToRequested i sizeGB >>= fun _ => pure i) s k
        (fun i s' _ => Q i s') fun _ _ _ => True := by
    intro i s k h
    refine .bind ((does_growToRequested (I := Q i) h (fun _ _ => trivial) (fun _ _ => trivial)
      (fun _ _ _ => trivial) fun s v s' => hresize s i sizeGB v s').mono (fun _ _ _ h => h)
      fun _ _ _ _ => trivial) fun _ _ _ h => .pure h
  unfold provisionLUN
  dsimp only
  split
  · refine .bind (Q := fun _ s _ => I s) (.check (fun _ _ => hI) fun _ _ => trivial)
      fun sid s k hI => ?_
    refine .bind (.onError ((does_smDo_step hI (fun _ _ => trivial)
      fun s i s' hI he => hadd s i s' hI he.adds_restore).mono (fun _ _ _ h => h)
      fun _ _ _ _ => trivial)) fun i s k h => hgrow h.2
  · split
    · refine .bind (Q := fun _ s _ => I s) (.check (fun _ _ => hI) fun _ _ => trivial)
        fun eid s k hI => ?_
      refine .bind (.onError ((does_smDo_step hI (fun _ _ => trivial)
        fun s i s' hI he => hadd s i s' hI he.adds_clone).mono (fun _ _ _ h => h)
        fun _ _ _ _ => trivial)) fun i s k h => hgrow h.2
    · exact .onError ((does_smDo_step hI (fun _ _ => trivial)
        fun s i s' hI he => hadd s i s' hI he.adds_block).mono (fun _ _ _ h => h.2)
        fun _ _ _ _ => trivial)

end

/-! ### The calls of CreateVolume -/

def SanCall.ofCreate : SanCall → Bool
  | .createBlockLUN _ | .cloneLUN _ | .createLUNFromSnapshot _ | .getLUN _ | .listLUNs
  | .resizeLUN _ _ | .waitForResizeComplete _ _ | .createTarget _ | .getTarget _ | .listTargets
  | .deleteTarget _ => true
  | _ => false

/-- A client call, if it is one, is one of CreateVolume's. -/
def Call.OfCreate : Call → Prop
  | .san _ c => c.ofCreate = true
  | _ => True

/-- A call that provisions a LUN of this name, or takes back what was made for it. -/
def Call.Provisions (lunName : String) : Call → Prop
  | .san _ c => c.ofCreate = true ∧ ∀ new ∈ c.newLUN, new.1 = lunName
  | .get | .reset => True
  | _ => False

theorem provisions_of_newLUN {sess : Int} {c : SanCall} (h : c.ofCreate = true)
    (hn : c.newLUN = none) : (Call.san sess c).Provisions lunName := by
  refine ⟨h, fun new hnew => ?_⟩
  rw [hn] at hnew
  cases hnew

/-- The call makes a LUN from this source, an empty one if there is none. -/
def SanCall.Copies (source : Option ContentSource) : SanCall → Prop
  | .createLUNFromSnapshot r => (source.getD ⟨"", ""⟩).snapshotID ≠ "" ∧ ∃ sid,
      parseSnapshotID (source.getD ⟨"", ""⟩).snapshotID = .ok sid ∧ r.snapshotID = sid.snapshotID
  | .cloneLUN r => (source.getD ⟨"", ""⟩).snapshotID = "" ∧ ∃ eid,
      parseExternalID (source.getD ⟨"", ""⟩).volumeID = .ok eid ∧ r.sourceLUNIndex = eid.lunIndex
  | .createBlockLUN _ => source.getD ⟨"", ""⟩ = ⟨"", ""⟩
  | _ => False

section

variable {K : Call → Prop} (hget : K .get) (hreset : K .reset)
  (hread : ∀ {sess : Int} {call : SanCall}, call.ofCreate = true → call.newLUN = none →
    K (.san sess call))

include hget hreset hread

theorem calls_growToRequested (lunIdx sizeGB : Int) :
    (growToRequested lunIdx sizeGB).run.Calls K := by
  refine calls_run_bind (calls_onError (calls_smDo hget hreset fun _ => calls_san (hread rfl rfl)))
    fun lun => ?_
  split
  · trivial
  · refine calls_smDo hget hreset fun s => calls_run_bind (calls_san (hread rfl rfl)) fun _ => ?_
    exact calls_run_bind (calls_san (hread rfl rfl)) fun _ => trivial

theorem calls_provisionLUN (source : Option ContentSource) (vp : VolumeParams) (sizeGB : Int)
    {targetIdx : Int} (hnew : ∀ {sess : Int} {call : SanCall}, call.ofCreate = true →
      call.newLUN = some (lunName, targetIdx) → call.Copies source → K (.san sess call)) :
    (provisionLUN source vp lunName sizeGB targetIdx).run.Calls K := by
  unfold provisionLUN
  dsimp only
  split
  · next hsnap =>
    cases hp : parseSnapshotID (source.getD ⟨"", ""⟩).snapshotID with
    | error e => trivial
    | ok sid =>
      rw [check_ok_bind]
      refine calls_run_bind (calls_onError (calls_smDo hget hreset fun s => calls_san ?_)) fun i => ?_
      · exact hnew rfl rfl ⟨hsnap, sid, hp, rfl⟩
      · exact calls_run_bind (calls_growToRequested hget hreset hread _ _) fun _ => trivial
  · next hsnap =>
    rw [not_not] at hsnap
    split
    · cases hp : parseExternalID (source.getD ⟨"", ""⟩).volumeID with
      | error e => trivial
      | ok eid =>
        rw [check_ok_bind]
        refine calls_run_bind (calls_onError (calls_smDo hget hreset fun s => calls_san ?_))
          fun i => ?_
        · exact hnew rfl rfl ⟨hsnap, eid, hp, rfl⟩
        · exact calls_run_bind (calls_growToRequested hget hreset hread _ _) fun _ => trivial
    · next hvol =>
      refine calls_onError (calls_smDo hget hreset fun s => calls_san (hnew rfl rfl ?_))
      exact congrArg₂ ContentSource.mk hsnap (not_not.1 hvol)

theorem calls_rollbackTarget (targetIdx : Int) (ownTarget : Bool) :
    (rollbackTarget targetIdx ownTarget).run.Calls K := by
  unfold rollbackTarget
  split
  · exact calls_run_bind (calls_attempt (calls_smDo hget hreset fun _ =>
      calls_san (hread rfl rfl))) fun _ => trivial
  · trivial

theorem calls_resolveTarget (c : Controller) (vp : VolumeParams) :
    (resolveTarget c lunName vp).run.Calls K := by
  unfold resolveTarget
  split
  · trivial
  · exact calls_run_bind (calls_onError (calls_smDo hget hreset fun _ =>
      calls_san (hread rfl rfl))) fun _ => trivial

end

section

variable {K : Call → Prop} (hcache : ∀ {call : Call}, call.client = none → K call)
  (hread : ∀ {sess : Int} {call : SanCall}, call.ofCreate = true → call.newLUN = none →
    K (.san sess call)) (c : Controller)

include hcache hread

theorem calls_assembleVolume (source : Option ContentSource) (vp : VolumeParams)
    (lunIdx targetIdx : Int) (ownTarget : Bool) (sizeGB : Int) :
    (assembleVolume c source vp lunIdx targetIdx ownTarget sizeGB).run.Calls K := by
  refine calls_run_bind (calls_onError (calls_smDo (hcache rfl) (hcache rfl) fun s => ?_)) fun r => ?_
  · refine calls_run_bind (calls_san (hread rfl rfl)) fun lun => ?_
    exact calls_run_bind (calls_san (hread rfl rfl)) fun tgt => trivial
  · exact calls_run_bind ⟨hcache rfl, fun _ => trivial⟩ fun _ => trivial

theorem calls_findExistingVolume (vp : VolumeParams) (lunName : String) (wantBytes : Int) :
    (findExistingVolume c lunName wantBytes vp).run.Calls K := by
  refine calls_run_bind (calls_onError (calls_run_bind ⟨hcache rfl, fun _ => trivial⟩
    fun fresh => ?_)) fun _ => calls_run_bind ⟨hcache rfl, fun _ => trivial⟩ fun r => ?_
  · split
    · trivial
    · refine calls_run_bind (calls_smDo (hcache rfl) (hcache rfl) fun s => ?_)
        fun r => ⟨hcache rfl, fun _ => trivial⟩
      refine calls_run_bind (calls_san (hread rfl rfl)) fun _ => ?_
      exact calls_run_bind (calls_san (hread rfl rfl)) fun _ => trivial
  · cases r with
    | none => trivial
    | some lun =>
      dsimp only
      split
      · trivial
      · refine calls_run_bind ⟨hcache rfl, fun _ => trivial⟩ fun tgt => ?_
        cases tgt with
        | none => trivial
        | some tgt =>
          exact calls_run_bind (calls_assembleVolume hcache hread c _ _ _ _ _ _) fun _ => trivial

theorem calls_createVolume (req : CreateVolumeRequest)
    (hnew : ∀ {sess : Int} {call : SanCall}, call.ofCreate = true →
      call.Copies req.contentSource → K (.san sess call)) :
    (createVolume c req).run.Calls K := by
  refine calls_run_bind (calls_check _) fun vp => calls_run_bind (calls_check _) fun sizeGB => ?_
  refine calls_run_bind (calls_findExistingVolume hcache hread c _ _ _) fun existing => ?_
  cases existing with
  | some v => trivial
  | none =>
    refine calls_run_bind (calls_resolveTarget (hcache rfl) (hcache rfl) hread c vp) fun tgt => ?_
    refine calls_run_bind (calls_attempt (calls_provisionLUN (hcache rfl) (hcache rfl) hread _ _ _
      fun h _ => hnew h)) fun r => ?_
    cases r with
    | error e =>
      exact calls_run_bind (calls_rollbackTarget (hcache rfl) (hcache rfl) hread _ _)
        fun _ => trivial
    | ok i => exact calls_assembleVolume hcache hread c _ _ _ _ _ _

end

end NomadCsi.Qnap
