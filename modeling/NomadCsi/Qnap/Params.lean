import NomadCsi.Driver.Types

/-!
# QNAP volume parameters

The backend's configuration and the per-volume settings resolved from a request
(`config.QNAPConfig`, `qnap/params.go`).
-/

namespace NomadCsi.Qnap

open Lib.Go Driver

/-- The settings of `qnap { }` the modelled functions read. -/
structure Config where
  portal : String
  portals : List String
  defaultPoolID : Int
  interfaces : List String
  defaultSectorSize : Int
deriving DecidableEq, Repr

/-- The effective portals: `portals` if set, otherwise the single `portal`; trimmed, blank
entries dropped. -/
def Config.portalList (q : Config) : List String :=
  let raw := if q.portals.length = 0 ∧ q.portal ≠ "" then [q.portal] else q.portals
  (raw.map trimSpace).filter (· ≠ "")

def giB : Int := 2 ^ 30

def absDiff (a b : Int) : Int := if a > b then wrap64 (a - b) else wrap64 (b - a)

structure VolumeParams where
  fsType : String := ""
  block : Bool := false
  sectorSize : Int
  poolID : Int
  thin : Bool
  targetIndex : Option Int := none
deriving DecidableEq, Repr

/-- The access type and filesystem, from the first capability and `fsType`. -/
def resolveFsType (p : StrMap) (caps : List VolumeCapability) (vp : VolumeParams) :
    Except Error VolumeParams :=
  if caps.head?.any (·.accessType = .block) then .ok { vp with block := true }
  else if chosenFsType p caps = "ext4" ∨ chosenFsType p caps = "xfs" then
    .ok { vp with fsType := chosenFsType p caps }
  else .error (invalidArgument
    ("unsupported fsType " ++ quote (chosenFsType p caps) ++ " (want ext4|xfs)"))

def intParam (p : StrMap) (key : String) (dflt : Int) : Except Error Int :=
  if p.get key = "" then .ok dflt
  else match atoi (p.get key) with
    | some n => .ok n
    | none => .error (invalidArgument ("invalid " ++ key ++ " " ++ quote (p.get key)))

def resolveSectorSize (cfg : Config) (p : StrMap) (dflt : Int) : Except Error Int := do
  let n ← intParam p "sectorSize"
    (if cfg.defaultSectorSize ≠ 0 then cfg.defaultSectorSize else dflt)
  if n = 512 ∨ n = 4096 then .ok n
  else .error (invalidArgument ("unsupported sectorSize " ++ itoa n ++
    " (want 512 or 4096; 4096 is Windows-only)"))

def resolvePool (p : StrMap) (dflt : Int) : Except Error Int := do
  let n ← intParam p "pool" dflt
  if n ≤ 0 then
    .error (invalidArgument "pool is required (set parameters.pool or qnap.default_pool_id)")
  else .ok n

def resolveThin (p : StrMap) (dflt : Bool) : Except Error Bool :=
  if p.get "thin" = "" then .ok dflt
  else match parseBool (p.get "thin") with
    | some b => .ok b
    | none => .error (invalidArgument
        ("invalid thin " ++ quote (p.get "thin") ++ " (want true|false)"))

/-- Shared targets are gated off: a request that names one is rejected. -/
def rejectTargetIndex (p : StrMap) : Except Error Unit :=
  if p.get "targetIndex" = "" then .ok ()
  else .error (invalidArgument ("shared-target (1:N) mapping via parameters.targetIndex is not " ++
    "supported in this release; omit it to get a dedicated 1:1 target"))

/-- Merge the request's parameters with the controller's defaults and validate them. -/
def resolveParams (cfg : Config) (p : StrMap) (caps : List VolumeCapability) :
    Except Error VolumeParams := do
  let vp ← resolveFsType p caps { sectorSize := 512, poolID := cfg.defaultPoolID, thin := true }
  let sectorSize ← resolveSectorSize cfg p vp.sectorSize
  let poolID ← resolvePool p vp.poolID
  let thin ← resolveThin p vp.thin
  rejectTargetIndex p
  return { vp with sectorSize, poolID, thin }

/-- A capacity range as a whole number of GiB; anything else is rejected. -/
def sizeGiBExact (cr : CapacityRange) : Except Error Int :=
  let req := cr.requiredBytes
  if req ≤ 0 then .error (invalidArgument "capacity required_bytes must be > 0")
  else if req.tmod giB ≠ 0 then
    .error (invalidArgument ("qnap provisions in whole GiB; " ++ itoa req ++
      " bytes is not a multiple of 1 GiB (use capacity_min = \"NGiB\")"))
  else if cr.limitBytes > 0 ∧ req > cr.limitBytes then
    .error (outOfRange ("required_bytes " ++ itoa req ++ " exceeds limit_bytes " ++
      itoa cr.limitBytes))
  else .ok (req.tdiv giB)

def lunNameChar (c : Char) : Bool :=
  ('A' ≤ c && c ≤ 'Z') || ('a' ≤ c && c ≤ 'z') || ('0' ≤ c && c ≤ '9') || c = '_' || c = '-'

/-- A volume name as a LUN name: other characters become `-`, at most 64 of them. -/
def sanitizeLUNName (name : String) : String :=
  String.ofList ((name.toList.map fun c => if lunNameChar c then c else '-').take 64)

theorem resolveFsType_targetIndex {p : StrMap} {caps : List VolumeCapability}
    {vp vp' : VolumeParams} (h : resolveFsType p caps vp = .ok vp') :
    vp'.targetIndex = vp.targetIndex := by
  unfold resolveFsType at h
  split_ifs at h
  all_goals rw [← Except.ok.inj h]

/-- The parameters never name a shared target: every volume gets a target of its own. -/
theorem resolveParams_targetIndex {cfg : Config} {p : StrMap} {caps : List VolumeCapability}
    {vp : VolumeParams} (h : resolveParams cfg p caps = .ok vp) : vp.targetIndex = none := by
  simp only [resolveParams, bind_ok] at h
  obtain ⟨vp', hfs, sector, -, pool, -, thin, -, -, -, h⟩ := h
  rw [← Except.ok.inj h]
  exact resolveFsType_targetIndex hfs

end NomadCsi.Qnap
