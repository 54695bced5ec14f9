import Mathlib.Data.String.Basic
import NomadCsi.Lib.Eval
import NomadCsi.Local.Ops

/-!
# The local controller in its cluster

A controller knows its peers by name and runs an operation on the node that owns the
volume: directly if that is its own node, otherwise over the forwarding transport, where
the peer's controller runs it. `placeVolume` decides on the owner of a new volume,
`pickRoomiest` for `host=auto`. All nodes run with one configuration. The transport
delivers a request and its response as they are, or fails; an error of the peer comes
back with its code and its text.
-/

namespace NomadCsi.Local

open Lib Lib.Go Driver Zfs

/-- What a controller calls: peer discovery, the transport, and ZFS on some node. -/
inductive Call where
  | peers
  | resolve (node : String)
  | request (node : String)
  | response (node : String)
  | zfs (node : String) (c : Cmd)
deriving DecidableEq, Repr

@[reducible] def Call.Reply : Call → Type
  | peers => Except String (List String)
  | resolve _ | request _ | response _ => Except String Unit
  | zfs _ c => c.Reply

structure Cluster where
  roster : List String
  zfs : String → Store

def Cluster.put (w : Cluster) (node : String) (s : Store) : Cluster :=
  { w with zfs := fun n => if n = node then s else w.zfs n }

/-- A call outside ZFS: its result, or the failure of this call. -/
def answered {α : Type} (ch : Fault) (r : Except String α) : Except String α :=
  match ch.fail with
  | some e => .error e.text
  | none => r

abbrev ClusterEv := Event Call Call.Reply Cluster Fault

def clusterAct (w : Cluster) (c : Call) (ch : Fault) : c.Reply × Cluster :=
  match c with
  | .peers => (answered ch (.ok w.roster), w)
  | .resolve node => (answered ch (if node ∈ w.roster then .ok ()
      else .error ("cluster: no peer for node " ++ quote node)), w)
  | .request _ => (answered ch (.ok ()), w)
  | .response _ => (answered ch (.ok ()), w)
  | .zfs node c =>
    let (r, s) := zfsAct (w.zfs node) c ch
    (r, w.put node s)

abbrev ClusterOp := ExceptT Error (Prog Call Call.Reply)

def onNode {α : Type} (node : String) (x : LocalOp α) : ClusterOp α :=
  ExceptT.mk (inject (Call.zfs node) x.run)

/-- A peer's error as it comes back: code and text. -/
def remoteError (e : Error) : Error := ⟨e.code, e.text, none⟩

def transport (node e : String) : Error := ⟨.unknown, "forwarding to " ++ node ++ ": " ++ e, none⟩

/-- The peer's answer, once it has come back. -/
def received {α : Type} (node : String) (r : Except Error α) : ClusterOp α := do
  match ← perform (Call.response node) with
  | .error e => throw (transport node e)
  | .ok _ => decided (r.mapError remoteError)

def forward {α : Type} (node : String) (x : LocalOp α) : ClusterOp α := do
  match ← perform (Call.resolve node) with
  | .error e => throw (unavailable ("resolving node " ++ quote node ++ ": " ++ e))
  | .ok _ =>
    match ← perform (Call.request node) with
    | .error e => throw (transport node e)
    | .ok _ =>
      let r ← attempt (onNode node x)
      received node r

/-- Run an operation where it belongs: here or on a peer. -/
def runOn {α : Type} (c : Controller) (node : String) (x : Controller → LocalOp α) : ClusterOp α :=
  if node = c.localNode then onNode node (x c) else forward node (x { c with localNode := node })

/-! ### Placement -/

def listPeers : ClusterOp (List String) := do
  match ← perform Call.peers with
  | .error e => throw (unavailable ("listing peers: " ++ e))
  | .ok peers => return peers

def statsFor (c : Controller) (node pool : String) : ClusterOp StatsResult :=
  runOn c node fun c => localStats c pool

def validateNode (node : String) : ClusterOp Unit := do
  if node ∈ (← listPeers) then return ()
  else throw (invalidArgument ("host " ++ quote node ++ " is not a known local-driver node"))

/-- The best node so far, with its available bytes and its number of volumes. -/
structure Best where
  node : String
  avail : Int
  count : Int
deriving DecidableEq, Repr

def Best.start : Best := ⟨"", -1, 2 ^ 63 - 1⟩

/-- More available bytes, then fewer volumes, then the smaller name. -/
def Best.beaten (b : Best) (node : String) (st : StatsResult) : Bool :=
  st.availBytes > b.avail || (st.availBytes = b.avail && st.volumeCount < b.count) ||
    (st.availBytes = b.avail && st.volumeCount = b.count && node < b.node)

/-- Take a peer's stats into account; a peer that failed is skipped. -/
def Best.consider (size : Int) (b : Best) (node : String) : Except Error StatsResult → Best
  | .error _ => b
  | .ok st =>
    if st.hasPool && size ≤ st.availBytes && b.beaten node st then
      ⟨node, st.availBytes, st.volumeCount⟩
    else b

def pickLoop (c : Controller) (pool : String) (size : Int) :
    List String → Best → ClusterOp Best
  | [], b => return b
  | p :: ps, b => do
    let st ← attempt (statsFor c p pool)
    pickLoop c pool size ps (b.consider size p st)

def pickRoomiest (c : Controller) (pool : String) (size : Int) : ClusterOp String := do
  let peers ← listPeers
  if peers = [] then throw (unavailable "no local-driver nodes available for placement")
  else
    let best ← pickLoop c pool size peers .start
    if best.node = "" then
      throw (unavailable ("no local-driver node has pool " ++ quote pool ++ " online with " ++
        itoa size ++ " bytes available"))
    else return best.node

/-- A named host must be a peer and have the pool. -/
def pinnedHost (c : Controller) (vp : VolumeParams) : ClusterOp String := do
  validateNode vp.host
  let st ← onError (fun e => unavailable ("checking pool " ++ quote vp.pool ++ " on node " ++
    quote vp.host ++ ": " ++ e.text)) (statsFor c vp.host vp.pool)
  if st.hasPool then return vp.host
  else throw (invalidArgument ("node " ++ quote vp.host ++ " does not have pool " ++
    quote vp.pool ++ " online"))

/-- Without a source: the named host, or the roomiest node. -/
def placeFresh (c : Controller) (vp : VolumeParams) (size : Int) : ClusterOp String :=
  if vp.host ≠ hostAuto then pinnedHost c vp else pickRoomiest c vp.pool size

/-- A source pins the volume to its node. -/
def placeVolume (c : Controller) (vp : VolumeParams) (size : Int) :
    Option ContentSource → ClusterOp String
  | none => placeFresh c vp size
  | some src => do
    if src.snapshotID ≠ "" then
      let sid ← decided (parseSnapshotID src.snapshotID)
      return sid.node
    else if src.volumeID ≠ "" then
      let eid ← decided (parseExternalID src.volumeID)
      return eid.node
    else placeFresh c vp size

/-! ### CreateVolume -/

def createArgs (req : CreateVolumeRequest) (vp : VolumeParams) (size : Int) : CreateArgs where
  name := sanitizeName req.name
  pool := vp.pool
  sizeBytes := size
  volblocksize := vp.volblocksize
  fsType := vp.fsType
  block := vp.block
  contentSnapshotID := (req.contentSource.map (·.snapshotID)).getD ""
  contentVolumeID := (req.contentSource.map (·.volumeID)).getD ""

def volumeOf (req : CreateVolumeRequest) (node : String) (res : CreateResult) : Volume where
  volumeID := res.volumeID
  capacityBytes := res.capacityBytes
  volumeContext :=
    let base := (AList.insert "dataset" res.dataset ∅).insert "node" node
    if res.fsType ≠ "" then base.insert "fsType" res.fsType else base
  accessibleTopology := [AList.insert topologyKey node ∅]
  contentSource := req.contentSource

def createVolume (c : Controller) (req : CreateVolumeRequest) : ClusterOp Volume := do
  let vp ← decided (resolveParams c.cfg req.parameters req.volumeCapabilities)
  let size ← decided (roundUpToBlock req.capacityRange vp.volblocksize)
  let node ← placeVolume c vp size req.contentSource
  let res ← runOn c node fun c => localCreate c (createArgs req vp size)
  return volumeOf req node res

/-! ### The other operations, routed by the id -/

def deleteVolume (c : Controller) (volumeID : String) : ClusterOp Unit := do
  let eid ← decided (parseExternalID volumeID)
  runOn c eid.node fun c => localDelete c volumeID

def volumeExists (c : Controller) (volumeID : String) : ClusterOp Bool := do
  let eid ← decided (parseExternalID volumeID)
  runOn c eid.node fun _ => localExists volumeID

/-- The new size, and that the node must grow the filesystem. -/
def expandVolume (c : Controller) (volumeID : String) (cr : CapacityRange) :
    ClusterOp (Int × Bool) := do
  let eid ← decided (parseExternalID volumeID)
  if cr.requiredBytes ≤ 0 then throw (invalidArgument "capacity required_bytes must be > 0")
  else
    let size ← runOn c eid.node fun _ => localExpand volumeID cr.requiredBytes cr.limitBytes
    return (size, true)

/-- A creation time; zero if there is none. -/
def creationTime (unix : Int) : Int := if unix > 0 then unix else 0

def createSnapshot (c : Controller) (req : CreateSnapshotRequest) : ClusterOp Snapshot := do
  let eid ← decided (parseExternalID req.sourceVolumeID)
  let res ← runOn c eid.node fun c => localSnapshot c ⟨req.sourceVolumeID, req.name⟩
  return ⟨res.snapshotID, req.sourceVolumeID, res.sizeBytes, creationTime res.creationUnix,
    res.readyToUse⟩

def deleteSnapshot (c : Controller) (id : String) : ClusterOp Unit := do
  let sid ← decided (parseSnapshotID id)
  runOn c sid.node fun _ => localDeleteSnapshot id

/-! ### Listings over all peers -/

structure VolumeInfo where
  volumeID : String
  capacityBytes : Int
  accessibleTopology : List StrMap

/-- The rows of every peer that answers; one that fails is skipped. -/
def gatherPeers {α : Type} (f : String → ClusterOp (List α)) : List String → ClusterOp (List α)
  | [] => return []
  | p :: ps => do
    match ← attempt (f p) with
    | .error _ => gatherPeers f ps
    | .ok rows => return rows ++ (← gatherPeers f ps)

def volumesOn (c : Controller) (node : String) : ClusterOp (List VolumeInfo) := do
  let vols ← runOn c node localList
  return vols.map fun v => ⟨v.volumeID, v.capacityBytes, [AList.insert topologyKey node ∅]⟩

def listVolumes (c : Controller) : ClusterOp (List VolumeInfo) := do
  gatherPeers (volumesOn c) (← listPeers)

def snapshotInfo (s : SnapWire) : Snapshot :=
  ⟨s.snapshotID, s.sourceVolumeID, s.sizeBytes, creationTime s.creationUnix, s.readyToUse⟩

def listSnapshotsOn (c : Controller) (node dataset : String) : ClusterOp (List Snapshot) := do
  let snaps ← runOn c node fun c => localListSnapshots c dataset
  return snaps.map snapshotInfo

/-- The snapshots of one volume, from its node, or of all peers. -/
def listSnapshots (c : Controller) (sourceVolumeID : String) : ClusterOp (List Snapshot) := do
  if sourceVolumeID ≠ "" then
    let eid ← decided (parseExternalID sourceVolumeID)
    listSnapshotsOn c eid.node eid.dataset
  else gatherPeers (fun p => listSnapshotsOn c p "") (← listPeers)

end NomadCsi.Local
