import NomadCsi.Local.Params
import NomadCsi.Zfs.Tools

/-!
# The operations a node runs on its own pools

The operations of `localops.go` as programs over the ZFS commands of one node: creating (a
fresh zvol, a restored snapshot, a cloned volume), deleting, expanding, snapshots, and the
reports. They run on the owning node, for its own controller or for one that forwards to it.
Metrics and logging are left out.
-/

namespace NomadCsi.Local

open Lib Lib.Go Driver Zfs

structure Controller where
  cfg : Config
  /-- The default parent dataset of a pool. -/
  parentDataset : String
  localNode : String
deriving DecidableEq, Repr

abbrev LocalOp := ExceptT Error (Prog Cmd Cmd.Reply)

namespace Controller

/-- The dataset zvols live under in a pool. -/
def parentDatasetFor (c : Controller) (pool : String) : String :=
  let own := ((c.cfg.poolByName pool).map (·.parentDataset)).getD ""
  pool ++ "/" ++ (if own ≠ "" then own else c.parentDataset)

def datasetFor (c : Controller) (pool volName : String) : String :=
  c.parentDatasetFor pool ++ "/" ++ volName

end Controller

/-- The free-space floor of a pool of `total` bytes at `pct` percent. -/
def reserveBytes (total pct : Int) : Int :=
  if pct ≤ 0 then 0
  else if pct ≥ 100 then total
  else wrap64 (total.tdiv 100 * pct)

/-- What is left of `avail` bytes over the reserve. -/
def overReserve (cfg : Config) (pool : String) (avail total : Int) : Int :=
  wrap64 (avail - reserveBytes total (cfg.reserveFor pool))

/-! ### Creating -/

structure CreateArgs where
  name : String
  pool : String
  sizeBytes : Int
  volblocksize : String
  fsType : String
  block : Bool
  contentSnapshotID : String := ""
  contentVolumeID : String := ""
deriving DecidableEq, Repr

structure CreateResult where
  volumeID : String
  dataset : String
  capacityBytes : Int
  fsType : String
deriving DecidableEq, Repr

/-- The user property that records what a clone or restore was made from. -/
def sourceProp : String := "nomad-csi:source"

def contentSourceID (a : CreateArgs) : String :=
  if a.contentSnapshotID ≠ "" then a.contentSnapshotID else a.contentVolumeID

def recordProvenance (dataset sourceID : String) : LocalOp Unit :=
  onError (fun e => internal ("recording provenance: " ++ e))
    (setUserProp dataset sourceProp sourceID)

def checkCapacity (c : Controller) (pool : String) (size : Int) : LocalOp Unit := do
  let avail ← onError (fun e => internal ("zfs available: " ++ e)) (poolAvailable pool)
  let total ← onError (fun e => internal ("zpool size: " ++ e)) (poolSize pool)
  let left := overReserve c.cfg pool avail total
  if left < size then
    throw (outOfRange ("pool " ++ quote pool ++ " has " ++ itoa (max left 0) ++
      " bytes available after reserve, need " ++ itoa size))
  else return ()

def growIfNeeded (dataset : String) (want : Int) : LocalOp Unit := do
  let cur ← onError (fun e => internal ("reading cloned volsize: " ++ e)) (getVolsize dataset)
  if cur ≥ want then return ()
  else onError (fun e => internal ("growing cloned zvol: " ++ e)) (setVolsize dataset want)

def restoreFromSnapshot (c : Controller) (a : CreateArgs) (dataset : String) : LocalOp Unit := do
  let sid ← decided (parseSnapshotID a.contentSnapshotID)
  if sid.node ≠ c.localNode then
    throw (failedPrecondition ("snapshot " ++ quote a.contentSnapshotID ++ " is on node " ++
      quote sid.node ++ ", not " ++ quote c.localNode ++ " (local restore only)"))
  else
    checkCapacity c a.pool a.sizeBytes
    onError (fun e => internal ("clone from snapshot: " ++ e))
      (cloneIndependent sid.dataset sid.snapName dataset)
    recordProvenance dataset a.contentSnapshotID
    growIfNeeded dataset a.sizeBytes

/-- Copy over a transient snapshot, which is dropped again; failing to drop it after a good copy
is logged. -/
def copyVolume (source snapName dataset : String) : LocalOp Unit := do
  match ← attempt (cloneIndependent source snapName dataset) with
  | .error e =>
    let _ ← attempt (destroySnapshot source snapName)
    throw (internal ("clone send|recv: " ++ e))
  | .ok _ =>
    let _ ← attempt (destroySnapshot source snapName)
    return ()

def cloneFromVolume (c : Controller) (a : CreateArgs) (dataset : String) : LocalOp Unit := do
  let src ← decided (parseExternalID a.contentVolumeID)
  if src.node ≠ c.localNode then
    throw (failedPrecondition ("source volume " ++ quote a.contentVolumeID ++ " is on node " ++
      quote src.node ++ ", not " ++ quote c.localNode ++ " (local clone only)"))
  else
    checkCapacity c a.pool a.sizeBytes
    onError (fun e => internal ("transient snapshot: " ++ e))
      (snapshot src.dataset ("csiclone-" ++ a.name))
    copyVolume src.dataset ("csiclone-" ++ a.name) dataset
    recordProvenance dataset a.contentVolumeID
    growIfNeeded dataset a.sizeBytes

def createFresh (c : Controller) (a : CreateArgs) (dataset : String) : LocalOp Unit := do
  checkCapacity c a.pool a.sizeBytes
  onError (fun e => internal ("zfs create: " ++ e)) (createZvol dataset a.sizeBytes a.volblocksize)

def provision (c : Controller) (a : CreateArgs) (dataset : String) : LocalOp Unit :=
  if a.contentSnapshotID ≠ "" then restoreFromSnapshot c a dataset
  else if a.contentVolumeID ≠ "" then cloneFromVolume c a dataset
  else createFresh c a dataset

def createResult (c : Controller) (a : CreateArgs) (dataset : String) : CreateResult :=
  ⟨ExternalID.toString ⟨c.localNode, dataset⟩, dataset, a.sizeBytes, a.fsType⟩

/-- A clone or restore that is there already must come from the same source. -/
def checkProvenance (a : CreateArgs) (dataset : String) : LocalOp Unit := do
  if contentSourceID a ≠ "" then
    let got ← onError (fun e => internal ("reading provenance: " ++ e))
      (getUserProp dataset sourceProp)
    if got ≠ contentSourceID a then
      throw (alreadyExists ("volume " ++ quote a.name ++
        " already exists from a different source (have " ++ quote got ++ ", requested " ++
        quote (contentSourceID a) ++ ")"))
    else return ()
  else return ()

/-- A zvol of the name that is there already must have the size. -/
def checkExisting (a : CreateArgs) (dataset : String) : LocalOp Unit := do
  let cur ← onError (fun e => internal ("reading volsize: " ++ e)) (getVolsize dataset)
  if cur ≠ a.sizeBytes then
    throw (alreadyExists ("volume " ++ quote a.name ++ " exists with size " ++ itoa cur ++
      ", requested " ++ itoa a.sizeBytes))
  else checkProvenance a dataset

/-- The pool is imported and ONLINE. -/
def poolReady (pool : String) : LocalOp Bool := do
  let (present, online) ←
    onError (fun e => internal ("checking pool " ++ quote pool ++ ": " ++ e)) (poolStatus pool)
  return present && online

/-- Check the dataset if it is there, make it if not. -/
def settleDataset (c : Controller) (a : CreateArgs) (dataset : String) : LocalOp Unit := do
  if ← onError (fun e => internal ("checking dataset: " ++ e)) (datasetExists dataset) then
    checkExisting a dataset
  else provision c a dataset

def localCreate (c : Controller) (a : CreateArgs) : LocalOp CreateResult := do
  if ← poolReady a.pool then
    settleDataset c a (c.datasetFor a.pool a.name)
    return createResult c a (c.datasetFor a.pool a.name)
  else
    throw (failedPrecondition ("pool " ++ quote a.pool ++ " is not available on node " ++
      quote c.localNode))

/-! ### Deleting and expanding -/

/-- A volume that is not there is deleted already; one with snapshots is refused. -/
def localDelete (c : Controller) (volumeID : String) : LocalOp Unit := do
  let eid ← decided (parseExternalID volumeID)
  if eid.node ≠ c.localNode then
    throw (internal ("delete for node " ++ quote eid.node ++ " routed to " ++ quote c.localNode))
  else if ← onError (fun e => internal ("checking dataset: " ++ e)) (datasetExists eid.dataset) then
    let snaps ← onError (fun e => internal ("checking snapshots: " ++ e)) (listSnapshots eid.dataset)
    if snaps ≠ [] then
      throw (failedPrecondition ("volume " ++ volumeID ++ " still has " ++ itoa snaps.length ++
        " snapshot(s); delete them first"))
    else onError (fun e => internal ("zfs destroy: " ++ e)) (destroyZvol eid.dataset)
  else return ()

def localExists (volumeID : String) : LocalOp Bool := do
  let eid ← decided (parseExternalID volumeID)
  onError (fun e => internal ("checking dataset: " ++ e)) (datasetExists eid.dataset)

/-- The required bytes as a whole number of blocks. -/
def expandSize (requiredBytes block : Int) : Int :=
  wrap64 (wrap64 ((wrap64 (wrap64 (requiredBytes + block) - 1)).tdiv block) * block)

def localExpand (volumeID : String) (requiredBytes limitBytes : Int) : LocalOp Int := do
  let eid ← decided (parseExternalID volumeID)
  let block ← onError (fun e => internal ("reading volblocksize: " ++ e))
    (getVolblocksize eid.dataset)
  if block ≤ 0 then
    throw (internal ("invalid volblocksize " ++ itoa block ++ " for " ++ eid.dataset))
  else
    let size := expandSize requiredBytes block
    if limitBytes > 0 ∧ size > limitBytes then
      throw (outOfRange ("required " ++ itoa requiredBytes ++ " rounds up to " ++ itoa size ++
        " which exceeds limit " ++ itoa limitBytes))
    else
      let cur ← onError (fun e => internal ("reading volsize: " ++ e)) (getVolsize eid.dataset)
      if size < cur then
        throw (outOfRange ("cannot shrink volume from " ++ itoa cur ++ " to " ++ itoa size))
      else if size = cur then return cur
      else
        onError (fun e => internal ("zfs set volsize: " ++ e)) (setVolsize eid.dataset size)
        onError (fun e => internal ("reading volsize after grow: " ++ e)) (getVolsize eid.dataset)

/-! ### Snapshots -/

structure SnapshotArgs where
  sourceVolumeID : String
  name : String
deriving DecidableEq, Repr

structure SnapshotResult where
  snapshotID : String
  sizeBytes : Int
  creationUnix : Int
  readyToUse : Bool
deriving DecidableEq, Repr

def localSnapshot (c : Controller) (a : SnapshotArgs) : LocalOp SnapshotResult := do
  let src ← decided (parseExternalID a.sourceVolumeID)
  let snapName := sanitizeName a.name
  onError (fun e => internal ("zfs snapshot: " ++ e)) (snapshot src.dataset snapName)
  let size ← onError (fun e => internal ("reading volsize: " ++ e)) (getVolsize src.dataset)
  let created ← onError (fun e => internal ("reading snapshot creation time: " ++ e))
    (getCreation src.dataset snapName)
  return ⟨SnapshotID.toString ⟨c.localNode, src.dataset, snapName⟩, size, created, true⟩

/-- A snapshot that is not there is deleted already. -/
def localDeleteSnapshot (id : String) : LocalOp Unit := do
  let sid ← decided (parseSnapshotID id)
  if ← onError (fun e => internal ("checking snapshot: " ++ e))
      (snapshotExists sid.dataset sid.snapName) then
    onError (fun e => internal ("zfs destroy snapshot: " ++ e))
      (destroySnapshot sid.dataset sid.snapName)
  else return ()

/-! ### Reporting -/

structure StatsResult where
  node : String
  /-- The pool is imported and ONLINE here. -/
  hasPool : Bool := false
  volumeCount : Int := 0
  freeBytes : Int := 0
  availBytes : Int := 0
deriving DecidableEq, Repr

def localStats (c : Controller) (pool : String) : LocalOp StatsResult := do
  if ← poolReady pool then
    let vols ← onError (fun e => internal ("listing zvols: " ++ e))
      (listZvols (c.parentDatasetFor pool))
    let free ← onError (fun e => internal ("zpool free: " ++ e)) (poolFree pool)
    let avail ← onError (fun e => internal ("zfs available: " ++ e)) (poolAvailable pool)
    let total ← onError (fun e => internal ("zpool size: " ++ e)) (poolSize pool)
    return { node := c.localNode, hasPool := true, volumeCount := vols.length, freeBytes := free,
             availBytes := max (overReserve c.cfg pool avail total) 0 }
  else return { node := c.localNode }

/-- The rows of one step after the other. -/
def gather {α β : Type} (f : α → LocalOp (List β)) : List α → LocalOp (List β)
  | [] => return []
  | x :: xs => do
    let rows ← f x
    let rest ← gather f xs
    return rows ++ rest

structure VolWire where
  volumeID : String
  capacityBytes : Int
deriving DecidableEq, Repr

def listPool (c : Controller) (pool : String) : LocalOp (List VolWire) := do
  let parent := c.parentDatasetFor pool
  let vols ← onError (fun e => internal ("listing zvols in " ++ quote pool ++ ": " ++ e))
    (listZvols parent)
  return (vols.filter fun v => hasPrefix v.1 (parent ++ "/")).map fun v =>
    ⟨ExternalID.toString ⟨c.localNode, v.1⟩, v.2⟩

def localList (c : Controller) : LocalOp (List VolWire) := gather (listPool c) c.cfg.poolNames

structure SnapWire where
  snapshotID : String
  sourceVolumeID : String
  sizeBytes : Int
  creationUnix : Int
  readyToUse : Bool
deriving DecidableEq, Repr

/-- A row of the listing as it is reported; one without `@` is skipped. -/
def snapWire (node : String) (e : SnapshotEntry) : Option SnapWire :=
  (cut e.name '@').map fun (ds, snap) =>
    ⟨SnapshotID.toString ⟨node, ds, snap⟩, ExternalID.toString ⟨node, ds⟩, e.volsizeBytes,
      e.creationUnix, true⟩

def listTarget (c : Controller) (target : String) : LocalOp (List SnapWire) := do
  let entries ← onError (fun e => internal ("listing snapshots in " ++ quote target ++ ": " ++ e))
    (listSnapshots target)
  return entries.filterMap (snapWire c.localNode)

/-- The snapshots of one dataset, or of all pools when it is empty. -/
def localListSnapshots (c : Controller) (datasetFilter : String) : LocalOp (List SnapWire) :=
  gather (listTarget c)
    (if datasetFilter ≠ "" then [datasetFilter] else c.cfg.poolNames.map c.parentDatasetFor)

/-! ### Requests -/

/-- One of the operations above with its arguments, as a peer may ask for it. -/
inductive Request where
  | create (a : CreateArgs)
  | delete (id : String)
  | expand (volumeID : String) (requiredBytes limitBytes : Int)
  | snapshot (a : SnapshotArgs)
  | deleteSnapshot (id : String)
  | stats (pool : String)
  | list
  | listSnapshots (dataset : String)
  | volumeExists (id : String)
deriving DecidableEq, Repr

@[reducible] def Request.Result : Request → Type
  | create _ => CreateResult
  | delete _ | deleteSnapshot _ => Unit
  | expand _ _ _ => Int
  | snapshot _ => SnapshotResult
  | stats _ => StatsResult
  | list => List VolWire
  | listSnapshots _ => List SnapWire
  | volumeExists _ => Bool

def Request.run (c : Controller) : (r : Request) → LocalOp r.Result
  | create a => localCreate c a
  | delete id => localDelete c id
  | expand id required limit => localExpand id required limit
  | snapshot a => localSnapshot c a
  | deleteSnapshot id => localDeleteSnapshot id
  | stats pool => localStats c pool
  | list => localList c
  | listSnapshots dataset => localListSnapshots c dataset
  | volumeExists id => localExists id

end NomadCsi.Local
