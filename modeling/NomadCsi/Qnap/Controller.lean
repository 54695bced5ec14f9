import NomadCsi.Qnap.World

/-!
# The QNAP controller

The operations of `qnap/controller.go` as programs over the controller's calls.
Logging is left out.
-/

namespace NomadCsi.Qnap

open Lib Lib.Go Driver

/-- The controller's configuration; `parseANSIC` reads an appliance timestamp, zero if it
cannot. -/
structure Controller where
  cfg : Config
  parseANSIC : String → Int

/-- The last `:` or `]` decides, read from the end. -/
def hasPort (hostport : String) : Bool :=
  hostport.toList.reverse.find? (fun ch => ch = ':' || ch = ']') = some ':'

def portals (c : Controller) : List String :=
  c.cfg.portalList.map fun p => if hasPort p then p else p ++ ":3260"

def cacheRefresh : Op (List LUN × List Target) :=
  smDo fun s => do
    let luns ← san s .listLUNs
    let targets ← san s .listTargets
    return (luns, targets)

def rebuildCache : Op Unit := do
  let (luns, targets) ← cacheRefresh
  perform (Call.cacheInstall luns targets)

/-- `lunCache.ensureFresh` over `cacheRefresh`. -/
def ensureFresh : Op Unit := do
  if ← perform Call.cacheFresh then return () else rebuildCache

/-- The iSCSI attach information a volume carries to the node. -/
def volumeContext (c : Controller) (vp : VolumeParams) (tgt : Target) (lunIdx : Int) : StrMap :=
  let vctx : StrMap := (((∅ : StrMap).insert "portal" (join (portals c) ",")).insert "iqn"
    tgt.iqn |>.insert "lun" "0").insert "lunIndex" (itoa lunIdx)
  if vp.block then vctx else vctx.insert "fsType" vp.fsType

/-- The volume returned for a LUN and the target it was provisioned on. -/
def toVolume (c : Controller) (source : Option ContentSource) (vp : VolumeParams)
    (lunIdx targetIdx : Int) (ownTarget : Bool) (sizeGB : Int) (lun : LUN) (tgt : Target) :
    Volume where
  volumeID := ExternalID.toString ⟨lunIdx, targetIdx, ownTarget, lun.name⟩
  capacityBytes := if lun.capacityBytes = 0 then sizeGB * giB else lun.capacityBytes
  volumeContext := volumeContext c vp tgt lunIdx
  accessibleTopology := []
  contentSource := source

/-- Fetch the LUN and the target, keep the cache warm, build the volume. -/
def assembleVolume (c : Controller) (source : Option ContentSource) (vp : VolumeParams)
    (lunIdx targetIdx : Int) (ownTarget : Bool) (sizeGB : Int) : Op Volume := do
  let (lun, tgt) ← onError (mapQNAPError "GetLUN/GetTarget") <| smDo fun s => do
    let lun ← san s (.getLUN lunIdx)
    let tgt ← san s (.getTarget targetIdx)
    return (lun, tgt)
  perform (Call.cacheAdd lun tgt)
  return toVolume c source vp lunIdx targetIdx ownTarget sizeGB lun tgt

/-- The volume the cache knows by this name, if its size fits. -/
def existingFromCache (c : Controller) (lunName : String) (wantBytes : Int)
    (vp : VolumeParams) : Op (Option Volume) := do
  match ← perform (Call.cacheLookup lunName) with
  | none => return none
  | some lun =>
    if absDiff lun.capacityBytes wantBytes ≥ giB then
      fail (alreadyExists ("volume " ++ quote lunName ++ " already exists with a different size (" ++
        itoa lun.capacityBytes ++ " != " ++ itoa wantBytes ++ ")"))
    else match ← perform (Call.cacheTarget lun.index) with
      | none => fail (internal ("existing LUN " ++ itoa lun.index ++ " is not mapped to any target"))
      | some tgt => do
        let v ← assembleVolume c none vp lun.index tgt.index (tgt.aliasName = lunName)
          (wantBytes.tdiv giB)
        return some v

/-- CreateVolume's idempotency by LUN name, served from the cache. -/
def findExistingVolume (c : Controller) (lunName : String) (wantBytes : Int)
    (vp : VolumeParams) : Op (Option Volume) := do
  onError (mapQNAPError "cache refresh") ensureFresh
  existingFromCache c lunName wantBytes vp

/-- The target to map the LUN to: a caller-supplied one, or one made for it. -/
def resolveTarget (c : Controller) (lunName : String) (vp : VolumeParams) : Op (Int × Bool) := do
  match vp.targetIndex with
  | some t => return (t, false)
  | none =>
    let idx ← onError (mapQNAPError "CreateTarget") <| smDo fun s =>
      san s (.createTarget ⟨lunName, lunName, c.cfg.interfaces⟩)
    return (idx, true)

/-- Resize a fresh clone up to the requested size if it is smaller. -/
def growToRequested (lunIdx sizeGB : Int) : Op Unit := do
  let lun ← onError (mapQNAPError "GetLUN") <| smDo fun s => san s (.getLUN lunIdx)
  if lun.capacityBytes ≥ sizeGB * giB then return ()
  else smDo fun s => do
    san s (.resizeLUN lunIdx sizeGB)
    let _ ← san s (.waitForResizeComplete lunIdx (sizeGB * giB))
    return ()

/-- Create the LUN, fresh, from a snapshot or as a clone, mapped to `targetIdx`. -/
def provisionLUN (source : Option ContentSource) (vp : VolumeParams) (lunName : String)
    (sizeGB targetIdx : Int) : Op Int := do
  let src := source.getD ⟨"", ""⟩
  if src.snapshotID ≠ "" then
    let sid ← check (parseSnapshotID src.snapshotID)
    let lunIdx ← onError (mapQNAPError "CreateLUNFromSnapshot") <| smDo fun s =>
      san s (.createLUNFromSnapshot ⟨sid.snapshotID, lunName, vp.poolID, targetIdx⟩)
    growToRequested lunIdx sizeGB
    return lunIdx
  else if src.volumeID ≠ "" then
    let srcEID ← check (parseExternalID src.volumeID)
    let lunIdx ← onError (mapQNAPError "CloneLUN") <| smDo fun s =>
      san s (.cloneLUN ⟨srcEID.lunIndex, lunName, vp.poolID, targetIdx⟩)
    growToRequested lunIdx sizeGB
    return lunIdx
  else
    onError (mapQNAPError "CreateBlockLUN") <| smDo fun s =>
      san s (.createBlockLUN ⟨lunName, vp.poolID, sizeGB, vp.sectorSize, vp.thin, targetIdx⟩)

def bestEffortDeleteTarget (targetIdx : Int) : Op Unit := do
  let _ ← attempt (smDo fun s => san s (.deleteTarget targetIdx))

/-- Roll back a target made for a volume that could not be provisioned. -/
def rollbackTarget (targetIdx : Int) (ownTarget : Bool) : Op Unit :=
  if ownTarget then bestEffortDeleteTarget targetIdx else return ()

/-- Provision on a resolved target, rolling a target of our own back on failure. -/
def provisionOn (c : Controller) (req : CreateVolumeRequest) (vp : VolumeParams)
    (lunName : String) (sizeGB targetIdx : Int) (ownTarget : Bool) : Op Volume := do
  match ← attempt (provisionLUN req.contentSource vp lunName sizeGB targetIdx) with
  | .error e =>
    rollbackTarget targetIdx ownTarget
    throw e
  | .ok lunIdx => assembleVolume c req.contentSource vp lunIdx targetIdx ownTarget sizeGB

def createVolume (c : Controller) (req : CreateVolumeRequest) : Op Volume := do
  let vp ← check (resolveParams c.cfg req.parameters req.volumeCapabilities)
  let sizeGB ← check (sizeGiBExact req.capacityRange)
  let lunName := sanitizeLUNName req.name
  match ← findExistingVolume c lunName (sizeGB * giB) vp with
  | some existing => return existing
  | none =>
    let (targetIdx, ownTarget) ← resolveTarget c lunName vp
    provisionOn c req vp lunName sizeGB targetIdx ownTarget

/-- Whether the id still refers to our LUN; only an auth failure is an error. -/
def volumeExists (volumeID : String) : Op Bool := do
  let eid ← check (parseExternalID volumeID)
  match ← attempt (smDo fun s => san s (.getLUN eid.lunIndex)) with
  | .error e =>
    if isAuthError e then
      fail (unavailable ("checking volume " ++ volumeID ++ ": " ++ e.text))
    else return false
  | .ok lun =>
    if lun.name = "" then return false
    else if eid.lunName ≠ "" ∧ lun.name ≠ eid.lunName then return false
    else return true

/-- The target's alias still matches the name we made it for. -/
def targetIsOurs (s : Int) (targetIdx : Int) (name : String) : Op Bool := do
  if name = "" then return false
  else match ← attempt (san s (.getTarget targetIdx)) with
    | .error _ => return false
    | .ok tgt => return tgt.aliasName = name

/-- The index holds no LUN any more: an error, an empty row or a zero capacity. -/
def lunGone (s : Int) (lunIdx : Int) : Op Bool := do
  match ← attempt (san s (.getLUN lunIdx)) with
  | .error _ => return true
  | .ok lun => return lun.name = "" ∨ lun.capacityBytes = 0

/-- After `DeleteLUN`: a failure is forgiven when the LUN reads as gone, a success is waited
for. -/
def confirmGone (s lunIdx : Int) : Except Err Unit → Op Unit
  | .error e => do
    if ← lunGone s lunIdx then return ()
    else throw (mapQNAPError "DeleteLUN" e)
  | .ok _ => onError (mapQNAPError "WaitForLUNGone") (san s (.waitForLUNGone lunIdx))

/-- The branch of DeleteVolume that found our LUN: refuse while it has snapshots, then
unmap and delete it. -/
def destroyLUN (volumeID : String) (eid : ExternalID) (s : Int) : Op Unit := do
  let snaps ← onError (mapQNAPError "ListSnapshots") (san s (.listSnapshots eid.lunIndex))
  if snaps.length > 0 then
    fail (failedPrecondition ("volume " ++ volumeID ++ " still has " ++ itoa snaps.length ++
      " snapshot(s); delete them first"))
  else
    let _ ← attempt (san s (.unmapLUN eid.lunIndex eid.targetIndex))
    confirmGone s eid.lunIndex (← attempt (san s (.deleteLUN eid.lunIndex)))

/-- Delete a target of our own, if its alias is still our LUN name; errors are logged. -/
def releaseTarget (eid : ExternalID) (s : Int) : Op Unit := do
  if eid.ownTarget then
    if ← targetIsOurs s eid.targetIndex eid.lunName then
      let _ ← attempt (san s (.deleteTarget eid.targetIndex))
      return ()
    else return ()
  else return ()

def deleteUnder (volumeID : String) (eid : ExternalID) (s : Int) : Op Unit := do
  match ← attempt (san s (.getLUN eid.lunIndex)) with
  | .error _ => releaseTarget eid s
  | .ok lun =>
    if lun.name = "" then releaseTarget eid s
    else if eid.lunName ≠ "" ∧ lun.name ≠ eid.lunName then releaseTarget eid s
    else
      destroyLUN volumeID eid s
      releaseTarget eid s

def deleteVolume (volumeID : String) : Op Unit := do
  let eid ← check (parseExternalID volumeID)
  let r ← attempt (smDo fun s => deleteUnder volumeID eid s)
  perform (Call.cacheRemove eid.lunIndex)
  ExceptT.mk (.ret r)

/-- The LUN at the id's index still has the id's name; an id without one is not checked. -/
def ensureLUNIsOurs (eid : ExternalID) : Op Unit := do
  if eid.lunName = "" then return ()
  else match ← attempt (smDo fun s => san s (.getLUN eid.lunIndex)) with
    | .error _ =>
      fail (notFound ("volume no longer exists (LUN index " ++ itoa eid.lunIndex ++ " not found)"))
    | .ok lun =>
      if lun.name ≠ eid.lunName then
        fail (notFound ("volume no longer exists (LUN index " ++ itoa eid.lunIndex ++ " now holds " ++
          quote lun.name ++ ", expected " ++ quote eid.lunName ++ ")"))
      else return ()

def expandVolume (volumeID : String) (cr : CapacityRange) : Op (Int × Bool) := do
  let eid ← check (parseExternalID volumeID)
  let sizeGB ← check (sizeGiBExact cr)
  ensureLUNIsOurs eid
  onError (mapQNAPError "ResizeLUN") <| smDo fun s => do
    san s (.resizeLUN eid.lunIndex sizeGB)
    let _ ← san s (.waitForResizeComplete eid.lunIndex (sizeGB * giB))
    return ()
  return (sizeGB * giB, true)

def createSnapshot (c : Controller) (req : CreateSnapshotRequest) : Op Snapshot := do
  let srcEID ← check (parseExternalID req.sourceVolumeID)
  ensureLUNIsOurs srcEID
  let snap ← onError (mapQNAPError "CreateSnapshot") <| smDo fun s =>
    san s (.createSnapshot srcEID.lunIndex ⟨sanitizeLUNName req.name, 0, true⟩)
  return ⟨SnapshotID.toString ⟨srcEID.lunIndex, snap.id⟩, req.sourceVolumeID, snap.sizeBytes,
    c.parseANSIC snap.createdAt, snap.ready⟩

def deleteSnapshot (id : String) : Op Unit := do
  let sid ← check (parseSnapshotID id)
  smDo fun s => do
    onError (mapQNAPError "DeleteSnapshot") (san s (.deleteSnapshot sid.snapshotID))
    onError (mapQNAPError "WaitForSnapshotGone")
      (san s (.waitForSnapshotGone sid.lunIndex sid.snapshotID))

def snapshotsForLUN (c : Controller) (lunIdx : Int) (srcVolID : String) : Op (List Snapshot) := do
  let snaps ← onError (mapQNAPError "ListSnapshots") <| smDo fun s =>
    san s (.listSnapshots lunIdx)
  return snaps.map fun sn => ⟨SnapshotID.toString ⟨lunIdx, sn.id⟩, srcVolID, sn.sizeBytes,
    c.parseANSIC sn.createdAt, sn.ready⟩

/-- The id ListVolumes and ListSnapshots give a cached LUN and its target. -/
def listedID (lun : LUN) (t : Target) : String :=
  ExternalID.toString ⟨lun.index, t.index, t.aliasName = lun.name, lun.name⟩

/-- The volumes of the cached LUNs that are mapped: id and capacity. -/
def listMapped : List LUN → Op (List (String × Int))
  | [] => return []
  | lun :: luns => do
    match ← perform (Call.cacheTarget lun.index) with
    | none => listMapped luns
    | some t => return (listedID lun t, lun.capacityBytes) :: (← listMapped luns)

def listVolumes : Op (List (String × Int)) := do
  onError (mapQNAPError "ListVolumes") ensureFresh
  listMapped (← perform Call.cacheAll)

def snapshotsOfMapped (c : Controller) : List LUN → Op (List Snapshot)
  | [] => return []
  | lun :: luns => do
    match ← perform (Call.cacheTarget lun.index) with
    | none => snapshotsOfMapped c luns
    | some t =>
      let infos ← snapshotsForLUN c lun.index (listedID lun t)
      return infos ++ (← snapshotsOfMapped c luns)

def listSnapshots (c : Controller) (sourceVolumeID : String) : Op (List Snapshot) := do
  if sourceVolumeID ≠ "" then
    let eid ← check (parseExternalID sourceVolumeID)
    snapshotsForLUN c eid.lunIndex sourceVolumeID
  else
    onError (mapQNAPError "ListSnapshots") ensureFresh
    snapshotsOfMapped c (← perform Call.cacheAll)

def getCapacity (c : Controller) (params : StrMap) : Op Int := do
  let poolID ← check (intParam params "pool" c.cfg.defaultPoolID)
  if poolID ≤ 0 then fail (invalidArgument "pool is required for GetCapacity")
  else onError (mapQNAPError "GetPool") <| smDo fun s => san s (.getPool poolID)

/-- A controller that provisions from pool 1, for concrete runs. -/
def Controller.plain : Controller := ⟨⟨"", [], 1, [], 512⟩, fun _ => 0⟩

end NomadCsi.Qnap
