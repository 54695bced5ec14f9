import NomadCsi.Local.Ops
import NomadCsi.Node.Tools

/-!
# The node plugin of the local backend

The zvol already lives on this node: StageVolume finds its device and hands it to the shared
format and mount layer. Metrics, logging and the usage statistics are left out.
-/

namespace NomadCsi.Local

open Lib Lib.Go Driver Node

structure NodePlugin where
  nodeID : String
  /-- A ZFS wrapper is there to ask for pools. -/
  hasZFS : Bool

abbrev NodeOp := ExceptT Error (Prog Node.Cmd Node.Cmd.Reply)

def devicePath (dataset : String) : String := "/dev/zvol/" ++ dataset

/-- The dataset and the owning node: from the context, and what is missing there from the id. -/
def resolveVolumeIdentity (volumeID : String) (vctx : StrMap) : Except Error (String × String) :=
  let dataset := vctx.get "dataset"
  let owner := vctx.get "node"
  if dataset ≠ "" ∧ owner ≠ "" then .ok (dataset, owner)
  else match parseExternalID volumeID with
    | .error e => .error (invalidArgument ("volume context is missing \"dataset\" and volume id " ++
        quote volumeID ++ " cannot be parsed to recover it: " ++ e.text))
    | .ok eid => .ok (if dataset = "" then eid.dataset else dataset,
        if owner = "" then eid.node else owner)

/-- The pool of the volume must be imported here and ONLINE. -/
def checkPool (n : NodePlugin) (dataset : String) : NodeOp Unit := do
  if n.hasZFS then
    let (present, online) ← onError (fun e => unavailable ("checking pool " ++
      quote (Zfs.poolOf dataset) ++ " on node " ++ quote n.nodeID ++ ": " ++ e))
      (Node.poolStatus (Zfs.poolOf dataset))
    if ¬ present ∨ ¬ online then
      throw (failedPrecondition ("pool " ++ quote (Zfs.poolOf dataset) ++ " unavailable on node " ++
        quote n.nodeID))
    else return ()
  else return ()

def waitForZvol (dataset : String) : NodeOp String := do
  match ← perform (Cmd.waitForPath (devicePath dataset)) with
  | .ok dev => return dev
  | .error e => throw (internal ("zvol device did not appear: " ++ e.text))

/-- The device of a volume that this node owns. -/
def locate (n : NodePlugin) (req : StageRequest) : NodeOp String := do
  let (dataset, owner) ← decided (resolveVolumeIdentity req.volumeID req.volumeContext)
  if owner ≠ n.nodeID then
    throw (failedPrecondition ("volume " ++ req.volumeID ++ " is owned by node " ++ quote owner ++
      " but staged on " ++ quote n.nodeID))
  else
    checkPool n dataset
    waitForZvol dataset

/-- The filesystem that is declared or, if none is, found on the device. -/
def stageFsType (req : StageRequest) (dev : String) : NodeOp String := do
  let ctxFs := req.volumeContext.get "fsType"
  let fsType := if ctxFs = "" then req.volumeCapability.fsType else ctxFs
  if fsType = "" then
    match ← attempt (detectFilesystem dev) with
    | .ok detected => return detected
    | .error _ => return fsType
  else return fsType

def stageDevice (req : StageRequest) (dev : String) : NodeOp Unit := do
  if req.volumeCapability.accessType = .block then return ()
  else
    let fsType ← stageFsType req dev
    let _ ← onError (fun e => internal ("format: " ++ e)) (formatIfEmpty dev fsType)
    onError (fun e => internal ("mount: " ++ e))
      (Node.mount dev req.stagingTargetPath fsType req.volumeCapability.mountFlags)

def stageVolume (n : NodePlugin) (req : StageRequest) : NodeOp Unit := do
  let dev ← locate n req
  stageDevice req dev

def unstageVolume (req : UnstageRequest) : NodeOp Unit :=
  onError (fun e => internal ("unmount staging: " ++ e)) (unmount req.stagingTargetPath)

def publishVolume (req : PublishRequest) : NodeOp Unit := do
  if req.volumeCapability.accessType = .block then
    let (dataset, _) ← decided (resolveVolumeIdentity req.volumeID req.volumeContext)
    let dev ← waitForZvol dataset
    onError (fun e => internal ("bind device: " ++ e))
      (bindMount dev req.targetPath false req.readonly)
  else
    onError (fun e => internal ("bind mount: " ++ e))
      (bindMount req.stagingTargetPath req.targetPath true req.readonly)

def unpublishVolume (req : UnpublishRequest) : NodeOp Unit :=
  onError (fun e => internal ("unpublish unmount: " ++ e)) (unmount req.targetPath)

def nodeExpandVolume (req : NodeExpandRequest) : NodeOp Int := do
  if req.volumeCapability.accessType = .block then return req.capacityRange.requiredBytes
  else
    let dev ← onError (fun e => internal ("locating device for expand: " ++ e))
      (sourceDevice req.volumePath)
    onError (fun e => internal ("resize filesystem: " ++ e))
      (resize dev req.volumePath req.volumeCapability.fsType)
    return req.capacityRange.requiredBytes

end NomadCsi.Local
