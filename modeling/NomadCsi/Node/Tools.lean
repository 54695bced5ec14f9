import NomadCsi.Node.Host

/-!
# The command wrappers of the node

`iscsi.Connector`, `multipath.Manager`, `mountutil.Mounter` and the one `zfs.ZFS` call of a
node as programs over the host's commands. An error is its text.
-/

namespace NomadCsi.Node

open Lib Lib.Go Driver

abbrev Tool := ExceptT String (Prog Cmd Cmd.Reply)

/-! ### iscsi.Connector -/

def discover (portal : String) : Tool Unit := do
  outcome ("iscsi discovery against " ++ portal) (← perform (Cmd.discover portal))

/-- A session that is already there is no error. -/
def login (portal iqn : String) : Tool Unit := do
  match ← perform (Cmd.login portal iqn) with
  | .ok _ => return ()
  | .error e =>
    if isExit e 15 then return ()
    else throw ("iscsi login to " ++ iqn ++ " via " ++ portal ++ ": " ++ e.text)

def logout (portal iqn : String) : Tool Unit := do
  match ← perform (Cmd.logout portal iqn) with
  | .ok _ => return ()
  | .error e =>
    if isExit e 15 then return ()
    else throw ("iscsi logout of " ++ iqn ++ " via " ++ portal ++ ": " ++ e.text)

def rescan (portal iqn : String) : Tool Unit := do
  outcome ("iscsi rescan of " ++ iqn) (← perform (Cmd.rescan portal iqn))

def listSessions : Tool (List Session) := do
  match ← perform Cmd.sessionList with
  | .ok l => return l
  | .error e => if isExit e 21 then return [] else throw ("iscsi session list: " ++ e.text)

/-! ### multipath.Manager -/

/-- The WWID of the map a path device belongs to; empty if it is in none. -/
def wwidOf (paths : List (String × String)) (device : String) : String :=
  ((paths.find? (·.1 = base device)).map (·.2)).getD ""

def mapWWID (device : String) : Tool String := do
  let paths ← outcome "multipathd show paths" (← perform Cmd.showPaths)
  return wwidOf paths device

def members (wwid : String) : Tool (List String) := do
  let paths ← outcome "multipathd show paths" (← perform Cmd.showPaths)
  return (paths.filter (·.2 = wwid)).map (·.1)

def flush (wwid : String) : Tool Unit := do
  outcome ("flushing multipath map " ++ wwid) (← perform (Cmd.flush wwid))

/-! ### mountutil.Mounter -/

def listMounts : Tool (List Mount) := do
  match ← perform Cmd.findmnt with
  | .ok l => return l
  | .error e => if isExit e 1 then return [] else throw ("findmnt list: " ++ e.text)

/-- The mount that serves the path is mounted at the path itself. -/
def isMounted (target : String) : Tool Bool := do
  match ← perform (Cmd.findmntTarget target) with
  | .ok t => return trimSpace t = target
  | .error e => if isExit e 1 then return false else throw ("findmnt " ++ target ++ ": " ++ e.text)

def sourceDevice (path : String) : Tool String := do
  let out ← outcome ("findmnt source of " ++ path) (← perform (Cmd.findmntSource path))
  if trimSpace out = "" then throw ("no source device for " ++ path) else return trimSpace out

def detectFilesystem (device : String) : Tool String := do
  match ← perform (Cmd.blkid device) with
  | .ok t => return trimSpace t
  | .error e => if isExit e 2 then return "" else throw ("blkid " ++ device ++ ": " ++ e.text)

/-- Run mkfs for a supported filesystem. -/
def format (device fsType : String) : Tool Bool := do
  if fsType = "ext4" ∨ fsType = "xfs" then
    outcome ("formatting " ++ device ++ " as " ++ fsType) (← perform (Cmd.mkfs fsType device))
    return true
  else throw ("unsupported filesystem " ++ quote fsType ++ " (want ext4|xfs)")

/-- Format an empty device; a device that carries another filesystem is refused. -/
def formatIfEmpty (device fsType : String) : Tool Bool := do
  let existing ← detectFilesystem device
  if existing ≠ "" then
    if existing = fsType then return false
    else throw ("device " ++ device ++ " already carries filesystem " ++ quote existing ++
      ", refusing to format as " ++ quote fsType)
  else format device fsType

def mountUnlessMounted (device target fsType : String) (flags : List String) : Tool Unit := do
  if ← isMounted target then return ()
  else
    outcome ("mounting " ++ device ++ " at " ++ target)
      (← perform (Cmd.mount fsType flags device target))

/-- Mount at a target that is created if needed; a mountpoint is left alone. -/
def mount (device target fsType : String) (flags : List String) : Tool Unit := do
  outcome ("creating mount target " ++ target) (← perform (Cmd.mkdir target))
  mountUnlessMounted device target fsType flags

def bindUnlessMounted (source target : String) : Tool Unit := do
  if ← isMounted target then return ()
  else
    outcome ("bind-mounting " ++ source ++ " at " ++ target) (← perform (Cmd.bind source target))

def remountReadonly (target : String) (readonly : Bool) : Tool Unit := do
  if readonly then
    outcome ("remounting " ++ target ++ " read-only") (← perform (Cmd.remountReadonly target))
  else return ()

/-- Bind a directory or, for block volumes, a device node. -/
def bindMount (source target : String) (isDir readonly : Bool) : Tool Unit := do
  outcome ((if isDir then "creating bind target dir " else "creating bind target file ") ++ target)
    (← perform (Cmd.mkdir target))
  bindUnlessMounted source target
  remountReadonly target readonly

/-- A failed umount is forgiven when the target turns out not to be mounted. -/
def umountOr (target : String) : Except ExecError Unit → Tool Unit
  | .ok _ => return ()
  | .error e => do
    match ← attempt (isMounted target) with
    | .ok false => return ()
    | _ => throw ("unmounting " ++ target ++ ": " ++ e.text)

def unmount (target : String) : Tool Unit := do
  if ← isMounted target then umountOr target (← perform (Cmd.umount target))
  else return ()

/-- Grow the filesystem: ext4 by its device, xfs by its mountpoint. -/
def resize (device mountpoint fsType : String) : Tool Unit := do
  if fsType = "ext4" then
    outcome ("resize2fs " ++ device) (← perform (Cmd.resize2fs device))
  else if fsType = "xfs" then
    outcome ("xfs_growfs " ++ mountpoint) (← perform (Cmd.xfsGrowfs mountpoint))
  else throw ("unsupported filesystem " ++ quote fsType ++ " for resize (want ext4|xfs)")

/-! ### zfs.ZFS -/

/-- Whether the pool is imported here, and whether it is ONLINE. -/
def poolStatus (pool : String) : Tool (Bool × Bool) := do
  match ← perform (Cmd.poolHealth pool) with
  | .ok health => return (true, trimSpace health = "ONLINE")
  | .error e =>
    if isExit e 1 then return (false, false)
    else throw ("zpool list health " ++ pool ++ ": " ++ e.text)

end NomadCsi.Node
