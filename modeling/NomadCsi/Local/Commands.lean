import NomadCsi.Local.Ops
import NomadCsi.Zfs.Logic

/-!
# The commands of the operations

`Request.Changes c r cmd`: serving the request `r`, the node may issue the command `cmd`, which
is not one that only reads. `calls_run` says that these and reads are all the commands of an
operation, whatever they answer.
-/

namespace NomadCsi.Local

open Lib Lib.Go Driver Zfs

def CreateArgs.dataset (c : Controller) (a : CreateArgs) : String := c.datasetFor a.pool a.name

/-- The name of the transient snapshot of a clone. -/
def CreateArgs.transient (a : CreateArgs) : String := "csiclone-" ++ a.name

/-- What a create copies: a snapshot of this node, or a transient one of a volume of this node. -/
inductive CopySource (c : Controller) (a : CreateArgs) : String → String → Prop where
  | snapshot {sid : SnapshotID} : a.contentSnapshotID ≠ "" →
      parseSnapshotID a.contentSnapshotID = .ok sid → sid.node = c.localNode →
      CopySource c a sid.dataset sid.snapName
  | volume {e : ExternalID} : a.contentSnapshotID = "" → a.contentVolumeID ≠ "" →
      parseExternalID a.contentVolumeID = .ok e → e.node = c.localNode →
      CopySource c a e.dataset a.transient

/-- The commands by which an operation changes its node. -/
inductive Request.Changes (c : Controller) : Request → Cmd → Prop where
  | fresh {a : CreateArgs} : contentSourceID a = "" →
      Changes c (.create a) (.create (a.dataset c) a.sizeBytes a.volblocksize)
  | transient {a : CreateArgs} {src : String} : CopySource c a src a.transient →
      a.contentSnapshotID = "" → Changes c (.create a) (.snapshot src a.transient)
  | copy {a : CreateArgs} {src snap : String} : CopySource c a src snap →
      Changes c (.create a) (.sendRecv src snap (a.dataset c))
  | dropReceived {a : CreateArgs} {src snap : String} : CopySource c a src snap →
      Changes c (.create a) (.destroySnapshot (a.dataset c) snap)
  | dropTransient {a : CreateArgs} {src : String} : CopySource c a src a.transient →
      a.contentSnapshotID = "" → Changes c (.create a) (.destroySnapshot src a.transient)
  | record {a : CreateArgs} {src snap : String} : CopySource c a src snap →
      Changes c (.create a) (.setProp (a.dataset c) sourceProp (contentSourceID a))
  | grow {a : CreateArgs} {src snap : String} : CopySource c a src snap →
      Changes c (.create a) (.setVolsize (a.dataset c) a.sizeBytes)
  | delete {id : String} {e : ExternalID} : parseExternalID id = .ok e → e.node = c.localNode →
      Changes c (.delete id) (.destroy e.dataset)
  | expand {id : String} {required limit size : Int} {e : ExternalID} :
      parseExternalID id = .ok e → Changes c (.expand id required limit) (.setVolsize e.dataset size)
  | snapshot {a : SnapshotArgs} {e : ExternalID} : parseExternalID a.sourceVolumeID = .ok e →
      Changes c (.snapshot a) (.snapshot e.dataset (sanitizeName a.name))
  | deleteSnapshot {id : String} {sid : SnapshotID} : parseSnapshotID id = .ok sid →
      Changes c (.deleteSnapshot id) (.destroySnapshot sid.dataset sid.snapName)

/-- A command of the operation: one that reads, or one of its changes. -/
def Request.Issues (c : Controller) (r : Request) (cmd : Cmd) : Prop :=
  cmd.reads = true ∨ r.Changes c cmd

/-! ### Creating -/

variable {K : Cmd → Prop} {ds : String}

section

variable {c : Controller} {a : CreateArgs}

theorem calls_checkCapacity (pool : String) (size : Int) (h1 : K (.available pool))
    (h2 : K (.poolSize pool)) : (checkCapacity c pool size).run.Calls K := by
  refine calls_run_bind (calls_onError (calls_command _ h1)) fun avail => ?_
  refine calls_run_bind (calls_onError (calls_command _ h2)) fun total => ?_
  dsimp only
  split
  · trivial
  · trivial

/-- The source of a copy is recorded, and the copy is brought to size. -/
abbrev finishCopy (ds src : String) (want : Int) : LocalOp Unit :=
  recordProvenance ds src >>= fun _ => growIfNeeded ds want

theorem calls_finishCopy {src : String} {want : Int} (h1 : K (.setProp ds sourceProp src))
    (h2 : K (.getVolsize ds)) (h3 : K (.setVolsize ds want)) :
    (finishCopy ds src want).run.Calls K := by
  refine calls_run_bind (calls_onError (calls_command _ h1)) fun _ => ?_
  refine calls_run_bind (calls_onError (calls_command _ h2)) fun cur => ?_
  split
  · trivial
  · exact calls_onError (calls_command _ h3)

theorem calls_cloneIndependent {source snap : String} (h1 : K (.sendRecv source snap ds))
    (h2 : K (.destroySnapshot ds snap)) : (cloneIndependent source snap ds).run.Calls K :=
  calls_run_bind (calls_perform h1) fun r => calls_run_bind (calls_outcome _ r) fun _ =>
    calls_onError (calls_command _ h2)

theorem calls_restoreFromSnapshot (hsnap : a.contentSnapshotID ≠ "") :
    (restoreFromSnapshot c a (a.dataset c)).run.Calls (Request.Issues c (.create a)) := by
  have hid : contentSourceID a = a.contentSnapshotID := if_pos hsnap
  unfold restoreFromSnapshot
  cases hp : parseSnapshotID a.contentSnapshotID with
  | error e => trivial
  | ok sid =>
    rw [decided_ok_bind]
    split
    · trivial
    · next hnode =>
      have hsource := CopySource.snapshot hsnap hp (not_not.1 hnode)
      refine calls_run_bind (calls_checkCapacity _ _ (.inl rfl) (.inl rfl)) fun _ => ?_
      refine calls_run_bind (calls_onError (calls_cloneIndependent (.inr (.copy hsource))
        (.inr (.dropReceived hsource)))) fun _ => ?_
      rw [← hid]
      exact calls_finishCopy (.inr (.record hsource)) (.inl rfl) (.inr (.grow hsource))

theorem calls_copyVolume {source snap : String} (h1 : K (.sendRecv source snap ds))
    (h2 : K (.destroySnapshot ds snap)) (h3 : K (.destroySnapshot source snap)) :
    (copyVolume source snap ds).run.Calls K := by
  refine calls_run_bind (calls_attempt (calls_cloneIndependent h1 h2)) fun r => ?_
  cases r with
  | error | ok => exact calls_run_bind (calls_attempt (calls_command _ h3)) fun _ => trivial

theorem calls_cloneFromVolume (hsnap : a.contentSnapshotID = "") (hvol : a.contentVolumeID ≠ "") :
    (cloneFromVolume c a (a.dataset c)).run.Calls (Request.Issues c (.create a)) := by
  have hid : contentSourceID a = a.contentVolumeID := if_neg (by simp [hsnap])
  unfold cloneFromVolume
  cases hp : parseExternalID a.contentVolumeID with
  | error e => trivial
  | ok src =>
    rw [decided_ok_bind]
    split
    · trivial
    · next hnode =>
      have hsource := CopySource.volume hsnap hvol hp (not_not.1 hnode)
      refine calls_run_bind (calls_checkCapacity _ _ (.inl rfl) (.inl rfl)) fun _ => ?_
      refine calls_run_bind (calls_onError (calls_command _ (.inr (.transient hsource hsnap))))
        fun _ => ?_
      refine calls_run_bind (calls_copyVolume (.inr (.copy hsource)) (.inr (.dropReceived hsource))
        (.inr (.dropTransient hsource hsnap))) fun _ => ?_
      rw [← hid]
      exact calls_finishCopy (.inr (.record hsource)) (.inl rfl) (.inr (.grow hsource))

theorem calls_provision :
    (provision c a (a.dataset c)).run.Calls (Request.Issues c (.create a)) := by
  unfold provision
  split
  · next hsnap => exact calls_restoreFromSnapshot hsnap
  · next hsnap =>
    rw [not_not] at hsnap
    split
    · next hvol => exact calls_cloneFromVolume hsnap hvol
    · next hvol =>
      rw [not_not] at hvol
      refine calls_run_bind (calls_checkCapacity _ _ (.inl rfl) (.inl rfl)) fun _ => ?_
      refine calls_onError (calls_command _ (.inr (.fresh ?_)))
      simp [contentSourceID, hsnap, hvol]

theorem calls_checkExisting (h1 : K (.getVolsize ds)) (h2 : K (.getProp ds sourceProp)) :
    (checkExisting a ds).run.Calls K := by
  refine calls_run_bind (calls_onError (calls_command _ h1)) fun cur => ?_
  split
  · trivial
  · unfold checkProvenance
    split
    · refine calls_run_bind (calls_onError (calls_run_bind (calls_perform h2) fun r =>
        calls_run_bind (calls_outcome _ r) fun _ => trivial)) fun got => ?_
      split
      · trivial
      · trivial
    · trivial

theorem calls_localCreate : (localCreate c a).run.Calls (Request.Issues c (.create a)) := by
  refine calls_run_bind (calls_run_bind (calls_onError (calls_poolStatus (.inl rfl)))
    fun _ => trivial) fun ready => ?_
  split
  · refine calls_run_bind (calls_run_bind (calls_onError (calls_datasetExists (.inl rfl)))
      fun found => ?_) fun _ => trivial
    split
    · exact calls_checkExisting (.inl rfl) (.inl rfl)
    · exact calls_provision
  · trivial

end

/-! ### The other operations -/

section

variable {c : Controller}

theorem calls_localDelete (id : String) :
    (localDelete c id).run.Calls (Request.Issues c (.delete id)) := by
  unfold localDelete
  cases hp : parseExternalID id with
  | error e => trivial
  | ok e =>
    rw [decided_ok_bind]
    split
    · trivial
    · next hnode =>
      refine calls_run_bind (calls_onError (calls_datasetExists (.inl rfl))) fun found => ?_
      split
      · refine calls_run_bind (calls_onError (calls_listSnapshots (.inl rfl))) fun snaps => ?_
        split
        · trivial
        · exact calls_onError (calls_command _ (.inr (.delete hp (not_not.1 hnode))))
      · trivial

theorem calls_localExpand (id : String) (required limit : Int) :
    (localExpand id required limit).run.Calls (Request.Issues c (.expand id required limit)) := by
  unfold localExpand
  cases hp : parseExternalID id with
  | error e => trivial
  | ok e =>
    rw [decided_ok_bind]
    refine calls_run_bind (calls_onError (calls_command _ (.inl rfl))) fun block => ?_
    split
    · trivial
    · dsimp only
      split
      · trivial
      · refine calls_run_bind (calls_onError (calls_command _ (.inl rfl))) fun cur => ?_
        split
        · trivial
        · split
          · trivial
          · refine calls_run_bind (calls_onError (calls_command _ (.inr (.expand hp)))) fun _ => ?_
            exact calls_onError (calls_command _ (.inl rfl))

theorem calls_localSnapshot (a : SnapshotArgs) :
    (localSnapshot c a).run.Calls (Request.Issues c (.snapshot a)) := by
  unfold localSnapshot
  cases hp : parseExternalID a.sourceVolumeID with
  | error e => trivial
  | ok e =>
    rw [decided_ok_bind]
    refine calls_run_bind (calls_onError (calls_command _ (.inr (.snapshot hp)))) fun _ => ?_
    refine calls_run_bind (calls_onError (calls_command _ (.inl rfl))) fun size => ?_
    exact calls_run_bind (calls_onError (calls_command _ (.inl rfl))) fun created => trivial

theorem calls_localDeleteSnapshot (id : String) :
    (localDeleteSnapshot id).run.Calls (Request.Issues c (.deleteSnapshot id)) := by
  unfold localDeleteSnapshot
  cases hp : parseSnapshotID id with
  | error e => trivial
  | ok sid =>
    rw [decided_ok_bind]
    refine calls_run_bind (calls_onError (calls_snapshotExists (.inl rfl))) fun found => ?_
    split
    · exact calls_onError (calls_command _ (.inr (.deleteSnapshot hp)))
    · trivial

theorem calls_localStats (pool : String) :
    (localStats c pool).run.Calls fun cmd => cmd.reads = true := by
  refine calls_run_bind (calls_run_bind (calls_onError (calls_poolStatus rfl)) fun _ => trivial) ?_
  intro ready
  cases ready with
  | false => trivial
  | true =>
    refine calls_run_bind (calls_onError (calls_listZvols rfl)) fun vols => ?_
    refine calls_run_bind (calls_onError (calls_command _ rfl)) fun free => ?_
    refine calls_run_bind (calls_onError (calls_command _ rfl)) fun avail => ?_
    exact calls_run_bind (calls_onError (calls_command _ rfl)) fun total => trivial

theorem calls_gather {α β : Type} {f : α → LocalOp (List β)} (xs : List α)
    (hf : ∀ x, (f x).run.Calls K) : (gather f xs).run.Calls K := by
  induction xs with
  | nil => trivial
  | cons x xs ih => exact calls_run_bind (hf x) fun rows => calls_run_bind ih fun rest => trivial

theorem calls_localList : (localList c).run.Calls fun cmd => cmd.reads = true :=
  calls_gather _ fun _ => calls_run_bind (calls_onError (calls_listZvols rfl)) fun _ => trivial

theorem calls_localListSnapshots (dataset : String) :
    (localListSnapshots c dataset).run.Calls fun cmd => cmd.reads = true :=
  calls_gather _ fun _ => calls_run_bind (calls_onError (calls_listSnapshots rfl)) fun _ => trivial

theorem calls_localExists (id : String) :
    (localExists id).run.Calls fun cmd => cmd.reads = true := by
  unfold localExists
  cases parseExternalID id with
  | error e => trivial
  | ok e => exact calls_onError (calls_datasetExists rfl)

end

theorem calls_run (c : Controller) (r : Request) : (r.run c).run.Calls (r.Issues c) := by
  cases r with
  | create a => exact calls_localCreate
  | delete id => exact calls_localDelete id
  | expand id required limit => exact calls_localExpand id required limit
  | snapshot a => exact calls_localSnapshot a
  | deleteSnapshot id => exact calls_localDeleteSnapshot id
  | stats pool => exact (calls_localStats pool).mono fun _ => .inl
  | list => exact calls_localList.mono fun _ => .inl
  | listSnapshots dataset => exact (calls_localListSnapshots dataset).mono fun _ => .inl
  | volumeExists id => exact (calls_localExists id).mono fun _ => .inl

end NomadCsi.Local
