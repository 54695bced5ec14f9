import NomadCsi.Driver.Types
import NomadCsi.Zfs.Store

/-!
# Local volume parameters and ids

The backend's configuration, the per-volume settings resolved from a request
(`config.LocalConfig`, `local/params.go`), and the ids a volume and a snapshot carry
(`local/externalid.go`): the owning node and the full dataset.
-/

namespace NomadCsi.Local

open Lib.Go Driver

structure PoolConfig where
  name : String
  parentDataset : String := ""
  reservePercent : Option Int := none
deriving DecidableEq, Repr

/-- The settings of `local { }` the modelled functions read. -/
structure Config where
  pools : List PoolConfig
  defaultPool : String
  defaultVolblocksize : String
  reservePercent : Int
deriving DecidableEq, Repr

namespace Config

def poolByName (cfg : Config) (name : String) : Option PoolConfig :=
  cfg.pools.find? (·.name = name)

def poolNames (cfg : Config) : List String := cfg.pools.map (·.name)

/-- The reserve percent of a pool: its own if set, else the global one. -/
def reserveFor (cfg : Config) (name : String) : Int :=
  ((cfg.poolByName name).bind (·.reservePercent)).getD cfg.reservePercent

end Config

/-- The names of the pools, checked one after the other against those seen before. -/
def checkPools (seen : List String) : List PoolConfig → Except Error (List String)
  | [] => .ok seen
  | p :: ps =>
    if p.name = "" ∨ '/' ∈ p.name.toList then
      .error (invalidArgument ("local pool name " ++ quote p.name ++
        " must be a bare zpool name (no '/')"))
    else if p.name ∈ seen then .error (invalidArgument ("duplicate local pool " ++ quote p.name))
    else checkPools (p.name :: seen) ps

/-- What a backend requires of its configuration at startup. -/
def validatePools (cfg : Config) : Except Error Unit :=
  if cfg.pools = [] then .error (invalidArgument "local requires at least one 'pool' block")
  else do
    let seen ← checkPools [] cfg.pools
    if cfg.defaultPool = "" then .error (invalidArgument "local.default_pool is required")
    else if cfg.defaultPool ∉ seen then
      .error (invalidArgument ("local.default_pool " ++ quote cfg.defaultPool ++
        " is not one of the configured pools [" ++ join cfg.poolNames " " ++ "]"))
    else .ok ()

/-! ### Parameters -/

def hostAuto : String := "auto"

structure VolumeParams where
  fsType : String
  block : Bool
  volblocksize : String
  /-- `auto` or a node name. -/
  host : String
  pool : String
deriving DecidableEq, Repr

/-- The filesystem, empty for a block volume. -/
def resolveFsType (p : StrMap) (caps : List VolumeCapability) : Except Error (String × Bool) :=
  if caps.head?.any (·.accessType = .block) then .ok ("", true)
  else if chosenFsType p caps = "ext4" ∨ chosenFsType p caps = "xfs" then
    .ok (chosenFsType p caps, false)
  else .error (invalidArgument
    ("unsupported fsType " ++ quote (chosenFsType p caps) ++ " (want ext4|xfs)"))

def strParam (p : StrMap) (key dflt : String) : String :=
  if p.get key ≠ "" then p.get key else dflt

/-- The multiplier of a size's unit letter. -/
def unitOf (c : Char) : Int :=
  if c = 'K' ∨ c = 'k' then 2 ^ 10
  else if c = 'M' ∨ c = 'm' then 2 ^ 20
  else if c = 'G' ∨ c = 'g' then 2 ^ 30
  else if c = 'T' ∨ c = 't' then 2 ^ 40
  else 1

/-- A size such as `16K` or a plain byte count, in binary units. -/
def parseSizeBytes (s : String) : Option Int :=
  let cs := (trimSpace s).toList
  match cs.getLast? with
  | none => none
  | some last =>
    let num := if unitOf last ≠ 1 then cs.dropLast else cs
    match atoi (trimSpace (String.ofList num)) with
    | some n => if n ≤ 0 then none else some (wrap64 (n * unitOf last))
    | none => none

def invalidVolblocksize (s : String) : Error :=
  invalidArgument ("invalid volblocksize " ++ quote s ++ ": invalid size")

def resolveVolblocksize (cfg : Config) (p : StrMap) : Except Error String :=
  let v := strParam p "volblocksize"
    (if cfg.defaultVolblocksize = "" then "16K" else cfg.defaultVolblocksize)
  if (parseSizeBytes v).isNone then .error (invalidVolblocksize v) else .ok v

/-- A bare pool name from the allowlist. -/
def resolvePool (cfg : Config) (p : StrMap) : Except Error String :=
  let v := strParam p "pool" cfg.defaultPool
  if '/' ∈ v.toList then
    .error (invalidArgument ("parameters.pool " ++ quote v ++
      " must be a bare zpool name (no '/')"))
  else if (cfg.poolByName v).isNone then
    .error (invalidArgument ("parameters.pool " ++ quote v ++
      " is not an allowed pool (configured: [" ++ join cfg.poolNames " " ++ "])"))
  else .ok v

def resolveParams (cfg : Config) (p : StrMap) (caps : List VolumeCapability) :
    Except Error VolumeParams := do
  let (fsType, block) ← resolveFsType p caps
  let volblocksize ← resolveVolblocksize cfg p
  let pool ← resolvePool cfg p
  return { fsType, block, volblocksize, host := strParam p "host" hostAuto, pool }

/-- The end of a request whose handler panics on a zero divisor. -/
def dividePanic : Error := ⟨.unknown, "runtime error: integer divide by zero", none⟩

/-- The required bytes as a whole number of blocks, within the limit. -/
def roundUpToBlock (cr : CapacityRange) (volblocksize : String) : Except Error Int :=
  let req := cr.requiredBytes
  if req ≤ 0 then .error (invalidArgument "capacity required_bytes must be > 0")
  else match parseSizeBytes volblocksize with
    | none => .error (invalidVolblocksize volblocksize)
    | some block =>
      match quot64 (wrap64 (wrap64 (req + block) - 1)) block with
      | none => .error dividePanic
      | some q =>
        let rounded := wrap64 (q * block)
        if cr.limitBytes > 0 ∧ rounded > cr.limitBytes then
          .error (outOfRange ("required " ++ itoa req ++ " rounds up to " ++ itoa rounded ++
            " which exceeds limit " ++ itoa cr.limitBytes))
        else .ok rounded

/-! ### Ids -/

def topologyKey : String := "io.honesthosting.csi.topology/node"

structure ExternalID where
  node : String
  dataset : String
deriving DecidableEq, Repr

def ExternalID.toString (e : ExternalID) : String := "local/v1" ++ "/" ++ e.node ++ "/" ++ e.dataset

/-- `<pool>/<...>/<vol>`: no empty segment at either end, none inside, no `..`. -/
def validDataset (ds : String) : Bool :=
  ds ≠ "" && contains ds "/" && !hasPrefix ds "/" && !hasSuffix ds "/" && !contains ds "//" &&
    !contains ds ".."

/-- The parts of an id: prefix, version, node, and the rest with its own slashes. -/
def idParts (id : String) : Option (String × String × String × List String) :=
  match split id '/' with
  | p0 :: p1 :: p2 :: p3 :: rest => some (p0, p1, p2, p3 :: rest)
  | _ => none

def malformedVolumeID (id : String) : Error :=
  invalidArgument ("malformed local volume id " ++ quote id)

def parseExternalID (volumeID : String) : Except Error ExternalID :=
  match idParts volumeID with
  | none => .error (malformedVolumeID volumeID)
  | some (p0, p1, node, rest) =>
    if p0 ≠ "local" ∨ p1 ≠ "v1" ∨ node = "" ∨ ¬ validDataset (join rest "/") then
      .error (malformedVolumeID volumeID)
    else .ok ⟨node, join rest "/"⟩

structure SnapshotID where
  node : String
  dataset : String
  snapName : String
deriving DecidableEq, Repr

def SnapshotID.toString (s : SnapshotID) : String :=
  "locals/v1" ++ "/" ++ s.node ++ "/" ++ s.dataset ++ "/" ++ s.snapName

def malformedSnapshotID (id : String) : Error :=
  invalidArgument ("malformed local snapshot id " ++ quote id)

/-- The snapshot name is the last segment. -/
def parseSnapshotID (id : String) : Except Error SnapshotID :=
  match idParts id with
  | none => .error (malformedSnapshotID id)
  | some (p0, p1, node, rest) =>
    let ds := join rest.dropLast "/"
    let snap := (rest.getLast?).getD ""
    if p0 ≠ "locals" ∨ p1 ≠ "v1" ∨ node = "" ∨ rest.dropLast = [] ∨ snap = "" ∨
        ¬ validDataset ds then
      .error (malformedSnapshotID id)
    else .ok ⟨node, ds, snap⟩

def nameChar (c : Char) : Bool :=
  ('A' ≤ c && c ≤ 'Z') || ('a' ≤ c && c ≤ 'z') || ('0' ≤ c && c ≤ '9') || c = '_' || c = '-' ||
    c = '.' || c = ':'

/-- A CSI name as a dataset component: other characters become `-`, at most 200 of them. -/
def sanitizeName (name : String) : String :=
  String.ofList ((name.toList.map fun c => if nameChar c then c else '-').take 200)

end NomadCsi.Local
