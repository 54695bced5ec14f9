import NomadCsi.Node.Tools
import NomadCsi.Qnap.ExternalId

/-!
# The node plugin

Attaching a volume (`attach`, called by StageVolume and by a block PublishVolume) and
tearing it down again (`unstageVolume`), as programs over the host's commands. Metrics,
logging and the usage statistics are left out.
-/

namespace NomadCsi.Qnap

open Lib Lib.Go Driver Node

structure NodePlugin where
  cfg : Config
  nodeID : String
  useMultipath : Bool
  /-- A read-only SAN client is configured. -/
  hasSAN : Bool
  /-- How often a map is polled for before the deadline. -/
  polls : Nat

def NodePlugin.plain : NodePlugin := ⟨⟨"10.0.0.1", [], 1, [], 512⟩, "node1", true, false, 3⟩

def NodePlugin.single : NodePlugin := { NodePlugin.plain with useMultipath := false }

abbrev NodeOp := ExceptT Error (Prog Cmd Cmd.Reply)

/-- `host:port`, with the default iSCSI port when there is none. -/
def normalizePortal (p : String) : String :=
  let p := trimSpace p
  if p = "" then ""
  else if (splitHostPort p.toList).isNone then joinHostPort p "3260"
  else p

def ourPortals (cfg : Config) : List String := (cfg.portalList.map normalizePortal).filter (· ≠ "")

/-- A session portal belongs to this plugin; without configured portals every one does. -/
def portalOwned (portal : String) (ours : List String) : Bool :=
  ours.isEmpty || normalizePortal portal ∈ ours

def splitPortals (s : String) : List String := ((split s ',').map trimSpace).filter (· ≠ "")

/-! ### The identity to attach -/

def contextLUN (lunRaw : String) : Except Error Int :=
  match atoi lunRaw with
  | some lun => .ok lun
  | none => .error (invalidArgument ("volume context has a non-numeric \"lun\" (" ++ quote lunRaw ++
      "): " ++ atoiError lunRaw))

def recoverID (volumeID : String) : Except Error ExternalID :=
  (parseExternalID volumeID).mapError fun e =>
    invalidArgument ("volume context is missing portal/iqn/lun and volume id " ++ quote volumeID ++
      " cannot be parsed to recover them: " ++ e.text)

def noSAN (volumeID : String) : Error :=
  failedPrecondition ("volume " ++ volumeID ++ " has no \"iqn\" in its volume context and " ++
    "no read-only SAN client is configured to recover it")

def unresolvedIQN (volumeID : String) (lunIndex : Int) : Error :=
  failedPrecondition ("volume " ++ volumeID ++ " has no \"iqn\" in its volume context " ++
    "and the SAN could not resolve the target IQN for LUN index " ++ itoa lunIndex ++
    " (the LUN may have been deleted, or its name no longer matches)")

def recoverIQN (n : NodePlugin) (volumeID : String) (eid : ExternalID) (iqn : String) :
    NodeOp String := do
  if iqn ≠ "" then return iqn
  else if ¬ n.hasSAN then throw (noSAN volumeID)
  else match ← perform (Cmd.resolveIQN eid.lunIndex eid.targetIndex eid.lunName) with
    | some iqn => return iqn
    | none => throw (unresolvedIQN volumeID eid.lunIndex)

def recoverPortals (n : NodePlugin) (volumeID : String) (portals : List String) :
    Except Error (List String) :=
  if portals ≠ [] then .ok portals
  else if ourPortals n.cfg ≠ [] then .ok (ourPortals n.cfg)
  else .error (failedPrecondition ("volume " ++ volumeID ++ " has no \"portal\" in its volume " ++
    "context and this node has no qnap.portals configured to rebuild it from; set qnap.portals " ++
    "on the node, or restore the volume context with `nomad volume register`"))

/-- LUN 0 of a target of its own; of a shared target the number is not guessed. -/
def recoverLUN (volumeID : String) (eid : ExternalID) (lunRaw : String) : Except Error Int :=
  if lunRaw ≠ "" then contextLUN lunRaw
  else if eid.ownTarget then .ok 0
  else .error (failedPrecondition ("volume " ++ volumeID ++ " has no \"lun\" in its volume context " ++
    "and its target is shared (1:N), so the LUN number cannot be derived from the volume id; " ++
    "restore the volume context with `nomad volume register`"))

/-- The portals, the target IQN and the LUN number to log in to. -/
def resolveAttachIdentity (n : NodePlugin) (volumeID : String) (vctx : StrMap) :
    NodeOp (List String × String × Int) := do
  let portals := splitPortals (vctx.get "portal")
  let iqn := vctx.get "iqn"
  let lunRaw := trimSpace (vctx.get "lun")
  if portals ≠ [] ∧ iqn ≠ "" ∧ lunRaw ≠ "" then
    let lun ← decided (contextLUN lunRaw)
    return (portals, iqn, lun)
  else
    let eid ← decided (recoverID volumeID)
    let iqn ← recoverIQN n volumeID eid iqn
    let portals ← decided (recoverPortals n volumeID portals)
    let lun ← decided (recoverLUN volumeID eid lunRaw)
    return (portals, iqn, lun)

/-! ### Attaching -/

/-- Discover and log in over one portal; whether it is up. -/
def loginPortal (portal iqn : String) : NodeOp Bool := do
  match ← attempt (discover portal) with
  | .error _ => return false
  | .ok _ =>
    match ← attempt (login portal iqn) with
    | .error _ => return false
    | .ok _ => return true

def loginEach (iqn : String) : List String → NodeOp (List String)
  | [] => return []
  | p :: ps => do
    let up ← loginPortal p iqn
    let active ← loginEach iqn ps
    return if up then p :: active else active

def loginPortals (portals : List String) (iqn : String) : NodeOp (List String) := do
  let active ← loginEach iqn portals
  if active = [] then
    throw (unavailable ("iscsi login failed: no portal reachable for " ++ iqn ++ " (tried " ++
      itoa portals.length ++ ": [" ++ join portals " " ++ "])"))
  else return active

/-- Poll until multipath has claimed the device. -/
def waitForMapWWID (raw : String) : Nat → Tool String
  | 0 => do
    let wwid ← mapWWID raw
    if wwid ≠ "" then return wwid else throw "context deadline exceeded"
  | k + 1 => do
    let wwid ← mapWWID raw
    if wwid ≠ "" then return wwid
    else if ← perform Cmd.pause then throw "context canceled"
    else waitForMapWWID raw k

/-- The device to use for a raw device and the WWID of its map. An error carries the WWID claimed
so far. -/
def mapDevice (n : NodePlugin) (raw : String) :
    ExceptT (String × Error) (Prog Cmd Cmd.Reply) (String × String) := do
  if n.useMultipath then
    let wwid ← onError (fun e => ("", unavailable ("multipath device did not appear: " ++ e)))
      (waitForMapWWID raw n.polls)
    match ← perform (Cmd.waitForPath (mapperPath wwid)) with
    | .ok dev => return (dev, wwid)
    | .error e => throw (wwid, unavailable ("multipath device did not appear: " ++ e.text))
  else return (raw, "")

def attachDevice (n : NodePlugin) (iqn : String) (lun : Int) :
    ExceptT (String × Error) (Prog Cmd Cmd.Reply) (String × String) := do
  match ← perform (Cmd.waitForDevice iqn lun) with
  | .ok raw => mapDevice n raw
  | .error e => throw ("", unavailable ("iscsi device did not appear: " ++ e.text))

/-- Log out of the target at every portal; errors are logged. -/
def logoutEach (iqn : String) : List String → NodeOp Unit
  | [] => return ()
  | p :: ps => do
    let _ ← attempt (logout p iqn)
    logoutEach iqn ps

/-- Flush the map of a volume, if there is one; errors are logged. -/
def flushMap (n : NodePlugin) (wwid : String) : NodeOp Unit := do
  if n.useMultipath ∧ wwid ≠ "" then
    let _ ← attempt (flush wwid)
  else return ()

def cleanupAttach (n : NodePlugin) (portals : List String) (iqn wwid : String) : NodeOp Unit := do
  flushMap n wwid
  logoutEach iqn portals

/-- Attach over portals that are up, and clean up if the device does not appear. -/
def attachOver (n : NodePlugin) (active : List String) (iqn : String) (lun : Int) :
    NodeOp (String × StageMeta) := do
  match ← attempt (attachDevice n iqn lun) with
  | .ok (dev, wwid) =>
    return (dev, ({ portals := active, iqn := iqn, lunNumber := lun, wwid := wwid } : StageMeta))
  | .error (wwid, e) =>
    cleanupAttach n active iqn wwid
    throw e

def attach (n : NodePlugin) (volumeID : String) (vctx : StrMap) : NodeOp (String × StageMeta) := do
  let (portals, iqn, lun) ← resolveAttachIdentity n volumeID vctx
  let active ← loginPortals portals iqn
  attachOver n active iqn lun

def stageDevice (req : StageRequest) (dev : String) : NodeOp Unit := do
  if req.volumeCapability.accessType = .block then return ()
  else
    let ctxFs := req.volumeContext.get "fsType"
    let fsType := if ctxFs = "" then req.volumeCapability.fsType else ctxFs
    let _ ← onError (fun e => internal ("format: " ++ e)) (formatIfEmpty dev fsType)
    onError (fun e => internal ("mount: " ++ e))
      (mount dev req.stagingTargetPath fsType req.volumeCapability.mountFlags)

def stageVolume (n : NodePlugin) (req : StageRequest) : NodeOp Unit := do
  let (dev, m) ← attach n req.volumeID req.volumeContext
  perform (Cmd.metaSave req.volumeID m)
  stageDevice req dev

def bindVolume (source : String) (isDir : Bool) (req : PublishRequest) : NodeOp Unit :=
  onError (fun e => internal ("bind mount: " ++ e))
    (bindMount source req.targetPath isDir req.readonly)

def publishVolume (n : NodePlugin) (req : PublishRequest) : NodeOp Unit := do
  if req.volumeCapability.accessType = .block then
    let (dev, _) ← attach n req.volumeID req.volumeContext
    bindVolume dev false req
  else bindVolume req.stagingTargetPath true req

def unpublishVolume (req : UnpublishRequest) : NodeOp Unit :=
  onError (fun e => internal ("unpublish unmount: " ++ e)) (unmount req.targetPath)

/-! ### Tearing down -/

def sortedKeys (l : List String) : List String := l.dedup.mergeSort (· ≤ ·)

def portalList (m : StageMeta) : List String :=
  if m.portals ≠ [] then m.portals else if m.portal ≠ "" then [m.portal] else []

/-- The WWID of the map a mount source names, and the path devices behind it. -/
def memberDevices (dev : String) : NodeOp (String × List String) := do
  if hasPrefix dev "/dev/mapper/" then
    match ← attempt (members (base dev)) with
    | .ok l => return (base dev, l.map base)
    | .error _ => return (base dev, [])
  else return ("", [base dev])

/-- The identity behind the sessions that match; the last one names target and LUN. -/
def identityOf (hits : List Session) (wwid : String) : Option StageMeta :=
  match hits.getLast? with
  | none => none
  | some s =>
    if s.iqn = "" then none
    else some { iqn := s.iqn, lunNumber := s.lun, wwid := wwid,
                portals := sortedKeys (hits.map fun s => normalizePortal s.portal) }

/-- Rebuild the identity from the staging mount: source device, path devices, sessions. -/
def reconstructFromMount (n : NodePlugin) (stagingPath : String) : NodeOp (Option StageMeta) := do
  match ← attempt (sourceDevice stagingPath) with
  | .error _ => return none
  | .ok dev =>
    match ← attempt listSessions with
    | .error _ => return none
    | .ok sessions =>
      let (wwid, devs) ← memberDevices dev
      return identityOf (sessions.filter fun s =>
        base s.device ∈ devs ∧ portalOwned s.portal (ourPortals n.cfg)) wwid

/-- The map of the device of the last session of the target; errors read as none. -/
def sessionWWID (n : NodePlugin) (device : String) : NodeOp String := do
  if n.useMultipath ∧ device ≠ "" then
    match ← attempt (mapWWID device) with
    | .ok wwid => return wwid
    | .error _ => return ""
  else return ""

/-- The identity of the target the SAN names, from this node's sessions to it. -/
def identityOnTarget (n : NodePlugin) (iqn : String) (sessions : List Session) :
    NodeOp (Option StageMeta) := do
  let hits := sessions.filter fun s => s.iqn = iqn ∧ portalOwned s.portal (ourPortals n.cfg)
  match hits.getLast? with
  | none => return none
  | some s =>
    if s.lun < 0 then return none
    else
      let wwid ← sessionWWID n s.device
      return some { iqn := iqn, lunNumber := s.lun, wwid := wwid,
                    portals := sortedKeys (hits.map fun s => normalizePortal s.portal) }

def reconstructFromSAN (n : NodePlugin) (volumeID : String) : NodeOp (Option StageMeta) := do
  if ¬ n.hasSAN then return none
  else match parseExternalID volumeID with
    | .error _ => return none
    | .ok eid =>
      match ← perform (Cmd.resolveIQN eid.lunIndex eid.targetIndex eid.lunName) with
      | none => return none
      | some iqn =>
        match ← attempt listSessions with
        | .error _ => return none
        | .ok sessions => identityOnTarget n iqn sessions

/-- The cache, then the staging mount, then the SAN. -/
def resolveTeardown (n : NodePlugin) (req : UnstageRequest) : NodeOp (Option StageMeta) := do
  match ← perform (Cmd.metaLoad req.volumeID) with
  | some m => return some m
  | none =>
    match ← reconstructFromMount n req.stagingTargetPath with
    | some m => return some m
    | none => reconstructFromSAN n req.volumeID

/-- A mount away from the staging path whose source is the staging path or the mapper device. -/
def usedByMount (req : UnstageRequest) (wwid : String) (m : Mount) : Bool :=
  m.target ≠ req.stagingTargetPath &&
    (m.source = req.stagingTargetPath || (wwid ≠ "" && m.source = mapperPath wwid))

def deviceInUse (req : UnstageRequest) (id : StageMeta) : Tool Bool := do
  let mounts ← listMounts
  if mounts.any (usedByMount req id.wwid) then return true
  else if id.wwid ≠ "" then perform (Cmd.holders (mapperPath id.wwid))
  else return false

/-- Refuse a device in use. A failed check is logged and passed over. -/
def refuseInUse (n : NodePlugin) (req : UnstageRequest) : Option StageMeta → NodeOp Unit
  | none => return ()
  | some id => do
    match ← attempt (deviceInUse req id) with
    | .ok true =>
      throw (failedPrecondition ("volume " ++ req.volumeID ++ " still in use on node " ++
        quote n.nodeID ++ "; refusing to detach"))
    | _ => return ()

/-- The LUN is the only one of the target on this node; a failed listing reads as yes. -/
def lastLUNOnTarget (iqn : String) (lun : Int) : NodeOp Bool := do
  match ← attempt listSessions with
  | .error _ => return true
  | .ok sessions =>
    let luns := ((sessions.filter (·.iqn = iqn)).map (·.lun)).dedup
    return luns = [] ∨ luns = [lun]

/-- Log the target out if this is its last LUN here. -/
def logoutTarget (id : StageMeta) : NodeOp Unit := do
  if id.iqn = "" then return ()
  else if ← lastLUNOnTarget id.iqn id.lunNumber then logoutEach id.iqn (portalList id)
  else return ()

def detach (n : NodePlugin) (req : UnstageRequest) : Option StageMeta → NodeOp Unit
  | none => return ()
  | some id => do
    flushMap n id.wwid
    logoutTarget id
    perform (Cmd.metaDelete req.volumeID)

def unstageVolume (n : NodePlugin) (req : UnstageRequest) : NodeOp Unit := do
  let id ← resolveTeardown n req
  refuseInUse n req id
  onError (fun e => internal ("unmount staging: " ++ e)) (unmount req.stagingTargetPath)
  detach n req id

/-! ### Growing -/

/-- Rescan the target at every portal; errors are logged. -/
def rescanEach (iqn : String) : List String → NodeOp Unit
  | [] => return ()
  | p :: ps => do
    let _ ← attempt (rescan p iqn)
    rescanEach iqn ps

/-- Make the grown LUN visible, for a volume of the stage cache. -/
def rescanStaged (volumeID : String) : NodeOp Unit := do
  match ← perform (Cmd.metaLoad volumeID) with
  | some m => if m.iqn ≠ "" then rescanEach m.iqn (portalList m) else return ()
  | none => return ()

def nodeExpandVolume (req : NodeExpandRequest) : NodeOp Int := do
  rescanStaged req.volumeID
  if req.volumeCapability.accessType = .block then return req.capacityRange.requiredBytes
  else
    let dev ← onError (fun e => internal ("locating device for expand: " ++ e))
      (sourceDevice req.volumePath)
    onError (fun e => internal ("resize filesystem: " ++ e))
      (resize dev req.volumePath req.volumeCapability.fsType)
    return req.capacityRange.requiredBytes

end NomadCsi.Qnap
