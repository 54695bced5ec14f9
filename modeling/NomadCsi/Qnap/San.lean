import NomadCsi.Qnap.ExternalId

/-!
# The appliance

What the driver sees of a QNAP: LUNs and targets under indices the appliance reuses,
the mapping of LUNs to targets, snapshots. `San.serve` answers one call of the client
interface (`qnap/client.go`); what the appliance is free to choose (the index of a new
LUN, whether a removed index reads as an error or as an empty row) is a `SanChoice`.
`none` is a rejected call. Names, aliases and mappings are stored verbatim, a LUN goes
together with its snapshots and mappings, and a wait returns only when what it waits
for holds.
-/

namespace NomadCsi.Qnap

open Lib.Go Driver

/-- The client's error kinds that the driver tells apart. -/
inductive ErrKind where
  | sessionInvalid
  | api (code httpStatus : Int)
  | transport
deriving DecidableEq, Repr

structure SanError where
  kind : ErrKind
  text : String
deriving DecidableEq, Repr

structure LUN where
  index : Int
  name : String
  capacityBytes : Int
deriving DecidableEq, Repr

structure Target where
  index : Int
  iqn : String
  aliasName : String
  luns : List Int
deriving DecidableEq, Repr

structure SanSnapshot where
  id : Int
  sizeBytes : Int
  createdAt : String
  ready : Bool
deriving DecidableEq, Repr

structure CreateBlockLUNRequest where
  name : String
  poolID : Int
  sizeGB : Int
  sectorSize : Int
  thin : Bool
  targetIndex : Int
deriving DecidableEq, Repr

structure CreateLUNFromSnapshotRequest where
  snapshotID : Int
  name : String
  poolID : Int
  targetIndex : Int
deriving DecidableEq, Repr

structure CloneLUNRequest where
  sourceLUNIndex : Int
  name : String
  poolID : Int
  targetIndex : Int
deriving DecidableEq, Repr

structure CreateTargetRequest where
  name : String
  aliasName : String
  interfaces : List String
deriving DecidableEq, Repr

structure SnapRequest where
  name : String
  expireMin : Int
  vital : Bool
deriving DecidableEq, Repr

inductive SanCall where
  | createBlockLUN (req : CreateBlockLUNRequest)
  | getLUN (lunIndex : Int)
  | listLUNs
  | deleteLUN (lunIndex : Int)
  | unmapLUN (lunIndex targetIndex : Int)
  | waitForLUNGone (lunIndex : Int)
  | resizeLUN (lunIndex newSizeGB : Int)
  | waitForResizeComplete (lunIndex expectedBytes : Int)
  | createTarget (req : CreateTargetRequest)
  | getTarget (targetIndex : Int)
  | listTargets
  | deleteTarget (targetIndex : Int)
  | getPool (poolID : Int)
  | createSnapshot (lunIndex : Int) (req : SnapRequest)
  | listSnapshots (lunIndex : Int)
  | deleteSnapshot (snapshotID : Int)
  | waitForSnapshotGone (lunIndex snapshotID : Int)
  | createLUNFromSnapshot (req : CreateLUNFromSnapshotRequest)
  | cloneLUN (req : CloneLUNRequest)
deriving DecidableEq, Repr

/-- What a call returns; a pool is its free bytes. -/
@[reducible] def SanCall.Val : SanCall → Type
  | createBlockLUN _ | createTarget _ | createLUNFromSnapshot _ | cloneLUN _ | getPool _ => Int
  | getLUN _ | waitForResizeComplete _ _ => LUN
  | listLUNs => List LUN
  | getTarget _ => Target
  | listTargets => List Target
  | createSnapshot _ _ => SanSnapshot
  | listSnapshots _ => List SanSnapshot
  | deleteLUN _ | unmapLUN _ _ | waitForLUNGone _ | resizeLUN _ _ | deleteTarget _
  | deleteSnapshot _ | waitForSnapshotGone _ _ => Unit

structure LunRow where
  name : String
  capacityBytes : Int
deriving DecidableEq, Repr

structure TargetRow where
  iqn : String
  aliasName : String
deriving DecidableEq, Repr

structure SnapRow where
  lun : Int
  snap : SanSnapshot
deriving DecidableEq, Repr

/-- The appliance's state; `maps` lists (LUN index, target index) in mapping order. -/
structure San where
  luns : Map Int LunRow
  targets : Map Int TargetRow
  maps : List (Int × Int)
  snaps : List SnapRow
  pools : Map Int Int

/-- What the appliance is free to choose in answering a call. -/
structure SanChoice where
  index : Int := 0
  ghost : Bool := false
  iqn : String := ""
  createdAt : String := ""
  ready : Bool := true

namespace San

def lun (s : San) (i : Int) : Option LUN :=
  (s.luns.lookup i).map fun r => ⟨i, r.name, r.capacityBytes⟩

/-- The LUNs mapped to target `t`, in LUN-number order. -/
def lunsOf (s : San) (t : Int) : List Int :=
  s.maps.filterMap fun m => if m.2 = t then some m.1 else none

def target (s : San) (t : Int) : Option Target :=
  (s.targets.lookup t).map fun r => ⟨t, r.iqn, r.aliasName, s.lunsOf t⟩

def allLUNs (s : San) : List LUN :=
  s.luns.entries.map fun e => ⟨e.1, e.2.name, e.2.capacityBytes⟩

def allTargets (s : San) : List Target :=
  s.targets.entries.map fun e => ⟨e.1, e.2.iqn, e.2.aliasName, s.lunsOf e.1⟩

def snapsOf (s : San) (i : Int) : List SanSnapshot :=
  (s.snaps.filter (·.lun = i)).map (·.snap)

def Carries (s : San) (i : Int) (name : String) : Prop := (s.luns.lookup i).map (·.name) = some name

instance (s : San) (i : Int) (name : String) : Decidable (s.Carries i name) :=
  inferInstanceAs (Decidable (_ = _))

/-- A new LUN, mapped to its target at once. -/
def addLUN (s : San) (i : Int) (row : LunRow) (t : Int) : San :=
  { s with luns := s.luns.insert i row, maps := s.maps ++ [(i, t)] }

def dropLUN (s : San) (i : Int) : San :=
  { s with
    luns := s.luns.erase i
    maps := s.maps.filter (·.1 ≠ i)
    snaps := s.snaps.filter (·.lun ≠ i) }

def dropTarget (s : San) (t : Int) : San :=
  { s with targets := s.targets.erase t, maps := s.maps.filter (·.2 ≠ t) }

def unmap (s : San) (i t : Int) : San := { s with maps := s.maps.filter (· ≠ (i, t)) }

def resize (s : San) (i : Int) (row : LunRow) (gb : Int) : San :=
  { s with luns := s.luns.insert i { row with capacityBytes := gb * giB } }

/-- Create a LUN under the index the appliance picks: it must be free, the target there. -/
def create (s : San) (ch : SanChoice) (row : LunRow) (t : Int) : Option (Int × San) :=
  if ch.index ∈ s.luns ∨ t ∉ s.targets then none else some (ch.index, s.addLUN ch.index row t)

def serve (s : San) (c : SanCall) (ch : SanChoice) : Option (c.Val × San) :=
  match c with
  | .createBlockLUN r => s.create ch ⟨r.name, r.sizeGB * giB⟩ r.targetIndex
  | .cloneLUN r =>
    (s.lun r.sourceLUNIndex).bind fun l => s.create ch ⟨r.name, l.capacityBytes⟩ r.targetIndex
  | .createLUNFromSnapshot r =>
    (s.snaps.find? (·.snap.id = r.snapshotID)).bind fun sn =>
      s.create ch ⟨r.name, sn.snap.sizeBytes⟩ r.targetIndex
  | .getLUN i =>
    match s.lun i with
    | some l => some (l, s)
    | none => if ch.ghost then some (⟨i, "", 0⟩, s) else none
  | .listLUNs => some (s.allLUNs, s)
  | .deleteLUN i => if i ∈ s.luns then some ((), s.dropLUN i) else none
  | .unmapLUN i t => if (i, t) ∈ s.maps then some ((), s.unmap i t) else none
  | .waitForLUNGone i => if i ∈ s.luns then none else some ((), s)
  | .resizeLUN i gb => (s.luns.lookup i).map fun row => ((), s.resize i row gb)
  | .waitForResizeComplete i bytes =>
    (s.lun i).bind fun l => if bytes ≤ l.capacityBytes then some (l, s) else none
  | .createTarget r =>
    if ch.index ∈ s.targets then none
    else some (ch.index, { s with targets := s.targets.insert ch.index ⟨ch.iqn, r.aliasName⟩ })
  | .getTarget t => (s.target t).map fun x => (x, s)
  | .listTargets => some (s.allTargets, s)
  | .deleteTarget t => if t ∈ s.targets then some ((), s.dropTarget t) else none
  | .getPool p => (s.pools.lookup p).map fun free => (free, s)
  | .createSnapshot i _ =>
    (s.lun i).bind fun l =>
      let snap : SanSnapshot := ⟨ch.index, l.capacityBytes, ch.createdAt, ch.ready⟩
      if s.snaps.any (·.snap.id = ch.index) then none
      else some (snap, { s with snaps := s.snaps ++ [⟨i, snap⟩] })
  | .listSnapshots i => some (s.snapsOf i, s)
  | .deleteSnapshot id =>
    if s.snaps.any (·.snap.id = id) then
      some ((), { s with snaps := s.snaps.filter (·.snap.id ≠ id) })
    else none
  | .waitForSnapshotGone _ id => if s.snaps.any (·.snap.id = id) then none else some ((), s)

end San

end NomadCsi.Qnap
