import NomadCsi.Zfs.Store

/-!
# The ZFS wrapper

`zfs.ZFS` as programs over the commands. An error is its text.
-/

namespace NomadCsi.Zfs

open Lib Lib.Go Driver

/-- A program of ZFS commands that may fail with an `ε`. -/
abbrev Script (ε : Type) := ExceptT ε (Prog Cmd Cmd.Reply)

abbrev Tool := ExceptT String (Prog Cmd Cmd.Reply)

def createZvol (dataset : String) (size : Int) (volblocksize : String) : Tool Unit := do
  outcome ("zfs create " ++ dataset) (← perform (Cmd.create dataset size volblocksize))

/-- One zvol: one with snapshots is refused. -/
def destroyZvol (dataset : String) : Tool Unit := do
  outcome ("zfs destroy " ++ dataset) (← perform (Cmd.destroy dataset))

/-- A listing that exits 1 reads as absent. -/
def datasetExists (dataset : String) : Tool Bool := do
  match ← perform (Cmd.list dataset) with
  | .ok _ => return true
  | .error e => if isExit e 1 then return false else throw ("zfs list " ++ dataset ++ ": " ++ e.text)

def snapshotExists (dataset name : String) : Tool Bool := do
  match ← perform (Cmd.listSnapshot dataset name) with
  | .ok _ => return true
  | .error e =>
    if isExit e 1 then return false
    else throw ("zfs list " ++ dataset ++ "@" ++ name ++ ": " ++ e.text)

def getVolsize (dataset : String) : Tool Int := do
  outcome ("zfs get volsize " ++ dataset) (← perform (Cmd.getVolsize dataset))

def getVolblocksize (dataset : String) : Tool Int := do
  outcome ("zfs get volblocksize " ++ dataset) (← perform (Cmd.getVolblocksize dataset))

def getCreation (dataset name : String) : Tool Int := do
  outcome ("zfs get creation " ++ dataset ++ "@" ++ name) (← perform (Cmd.getCreation dataset name))

def setVolsize (dataset : String) (size : Int) : Tool Unit := do
  outcome ("zfs set volsize=" ++ itoa size ++ " " ++ dataset) (← perform (Cmd.setVolsize dataset size))

def setUserProp (dataset prop value : String) : Tool Unit := do
  outcome ("zfs set " ++ prop ++ "=" ++ value ++ " " ++ dataset)
    (← perform (Cmd.setProp dataset prop value))

/-- An unset property reads as empty. -/
def getUserProp (dataset prop : String) : Tool String := do
  let out ← outcome ("zfs get " ++ prop ++ " " ++ dataset) (← perform (Cmd.getProp dataset prop))
  return if trimSpace out = "-" then "" else trimSpace out

def snapshot (dataset name : String) : Tool Unit := do
  outcome ("zfs snapshot " ++ dataset ++ "@" ++ name) (← perform (Cmd.snapshot dataset name))

def destroySnapshot (dataset name : String) : Tool Unit := do
  outcome ("zfs destroy " ++ dataset ++ "@" ++ name) (← perform (Cmd.destroySnapshot dataset name))

/-- An independent copy of a snapshot; the snapshot that comes with it is dropped. -/
def cloneIndependent (source snap dest : String) : Tool Unit := do
  outcome ("zfs send|recv " ++ source ++ "@" ++ snap ++ " -> " ++ dest)
    (← perform (Cmd.sendRecv source snap dest))
  onError (fun e => "dropping received snapshot on clone: " ++ e) (destroySnapshot dest snap)

/-- A size in a listing: zero if it is no number, the nearest `int64` if it is too large. -/
def parseSize (s : String) : Int := max (-2 ^ 63) (min (2 ^ 63 - 1) ((decimal s).getD 0))

/-- A row with too few fields is skipped. -/
def zvolRow : List String → Option (String × Int)
  | name :: size :: _ => some (name, parseSize size)
  | _ => none

def snapshotRow : List String → Option SnapshotEntry
  | name :: size :: created :: _ => some ⟨name, parseSize size, parseSize created⟩
  | _ => none

/-- The rows of a listing; one that exits 1 reads as empty. -/
def listing {α : Type} (cmd : Cmd) (what : String) (parse : cmd.Out → List α) :
    Tool (List α) := do
  match ← perform cmd with
  | .ok out => return parse out
  | .error e => if isExit e 1 then return [] else throw (what ++ ": " ++ e.text)

def listZvols (parent : String) : Tool (List (String × Int)) :=
  listing (.listVolumes parent) ("zfs list -t volume " ++ parent) (rows zvolRow)

def listSnapshots (target : String) : Tool (List SnapshotEntry) :=
  listing (.listSnapshots target) ("zfs list -t snapshot " ++ target) (rows snapshotRow)

def poolFree (pool : String) : Tool Int := do
  outcome ("zpool get free " ++ pool) (← perform (Cmd.poolFree pool))

def poolAvailable (pool : String) : Tool Int := do
  outcome ("zfs get available " ++ pool) (← perform (Cmd.available pool))

def poolSize (pool : String) : Tool Int := do
  outcome ("zpool get size " ++ pool) (← perform (Cmd.poolSize pool))

/-- Whether the pool is imported here, and whether it is ONLINE. -/
def poolStatus (pool : String) : Tool (Bool × Bool) := do
  match ← perform (Cmd.poolHealth pool) with
  | .ok health => return (true, trimSpace health = "ONLINE")
  | .error e =>
    if isExit e 1 then return (false, false)
    else throw ("zpool list health " ++ pool ++ ": " ++ e.text)

end NomadCsi.Zfs
