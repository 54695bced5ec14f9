import NomadCsi.Local.Ops

/-!
# Forwarded requests

What a node does with a request that a peer forwards to it: `dispatchForward` reads the body as the
arguments of the method, runs the operation and hands back its result or its error with a code.
-/

namespace NomadCsi.Local

open Lib Lib.Go Driver Zfs

/-! ### What crosses the wire -/

/-- The operations by the names they are forwarded under. -/
inductive Method where
  | create
  | delete
  | expand
  | snapshot
  | deleteSnapshot
  | stats
  | list
  | listSnapshots
  | volumeExists
  | volStats
  | volStatsDump
deriving DecidableEq, Repr

namespace Method

def name : Method → String
  | create => "create"
  | delete => "delete"
  | expand => "expand"
  | snapshot => "snapshot"
  | deleteSnapshot => "deletesnapshot"
  | stats => "stats"
  | list => "list"
  | listSnapshots => "listsnapshots"
  | volumeExists => "exists"
  | volStats => "volstats"
  | volStatsDump => "volstatsdump"

def all : List Method :=
  [create, delete, expand, snapshot, deleteSnapshot, stats, list, listSnapshots, volumeExists,
    volStats, volStatsDump]

def ofName (name : String) : Option Method := all.find? fun m => m.name = name

/-- The arguments in an error about them. -/
def argsName : Method → String
  | listSnapshots => "list-snapshots"
  | m => m.name

end Method

structure ExpandArgs where
  volumeID : String
  requiredBytes : Int
  limitBytes : Int
deriving DecidableEq, Repr

structure WireError where
  code : Int
  msg : String
deriving DecidableEq, Repr

/-- What a body is to `json.Unmarshal`: the arguments of each kind that it reads as, or the error.
Nothing is assumed of how they hang together. -/
structure Body where
  createArgs : Except String CreateArgs
  idArgs : Except String String
  expandArgs : Except String ExpandArgs
  snapshotArgs : Except String SnapshotArgs
  statsArgs : Except String String
  listSnapshotsArgs : Except String String

/-- What is sent back; `ρ` is a usage reading. -/
inductive Answer (ρ : Type) where
  | result (r : Request) (x : r.Result)
  | reading (x : ρ)
  | readings (l : List ρ)

/-- The usage readings of a node. -/
structure Registry (ρ : Type) where
  get : String → Option ρ
  dump : List ρ

/-! ### The peer -/

def codes : List Code :=
  [.unknown, .invalidArgument, .notFound, .alreadyExists, .failedPrecondition, .outOfRange,
    .resourceExhausted, .aborted, .unimplemented, .internal, .unavailable]

def codeInt (c : Code) : Int := codes.idxOf c

def codedFromErr (e : Error) : WireError := ⟨codeInt e.code, e.text⟩

abbrev Handled := ExceptT WireError (Prog Cmd Cmd.Reply)

section

variable {ρ α : Type}

/-- The arguments of a method, or an error that says whose they are. -/
def decoded (m : Method) (args : Except String α) : Handled α :=
  decided (args.mapError fun e =>
    codedFromErr (invalidArgument ("decoding " ++ m.argsName ++ " args: " ++ e)))

def encodeOrCoded (r : Request) (x : LocalOp r.Result) : Handled (Answer ρ) := do
  return .result r (← onError codedFromErr x)

def dispatchForward (reg : Registry ρ) (c : Controller) (method : String) (body : Body) :
    Handled (Answer ρ) :=
  match Method.ofName method with
  | some .create => do
    let a ← decoded .create body.createArgs
    encodeOrCoded (.create a) (localCreate c a)
  | some .delete => do
    let id ← decoded .delete body.idArgs
    encodeOrCoded (.delete id) (localDelete c id)
  | some .expand => do
    let a ← decoded .expand body.expandArgs
    encodeOrCoded (.expand a.volumeID a.requiredBytes a.limitBytes)
      (localExpand a.volumeID a.requiredBytes a.limitBytes)
  | some .snapshot => do
    let a ← decoded .snapshot body.snapshotArgs
    encodeOrCoded (.snapshot a) (localSnapshot c a)
  | some .deleteSnapshot => do
    let id ← decoded .deleteSnapshot body.idArgs
    encodeOrCoded (.deleteSnapshot id) (localDeleteSnapshot id)
  | some .stats => do
    let pool ← decoded .stats body.statsArgs
    encodeOrCoded (.stats pool) (localStats c pool)
  | some .list => encodeOrCoded .list (localList c)
  | some .listSnapshots => do
    let dataset ← decoded .listSnapshots body.listSnapshotsArgs
    encodeOrCoded (.listSnapshots dataset) (localListSnapshots c dataset)
  | some .volumeExists => do
    let id ← decoded .volumeExists body.idArgs
    encodeOrCoded (.volumeExists id) (localExists id)
  | some .volStats => do
    let id ← decoded .volStats body.idArgs
    match reg.get id with
    | some reading => return .reading reading
    | none => throw (codedFromErr (notFound ("volume " ++ id ++ " not tracked on this node")))
  | some .volStatsDump => return .readings reg.dump
  | none => throw (codedFromErr (invalidArgument ("unknown forward method " ++ quote method)))

end

end NomadCsi.Local
