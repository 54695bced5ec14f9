import NomadCsi.Qnap.Controller

/-!
# The node's view of the appliance

`sanIdentityCache` (`qnap/sancache.go`) resolves a volume's target IQN, or the id of a
volume behind a host session, from the appliance's own lists. The lists are fetched under
the node's session manager and kept for a short time; on any error the lookup gives up.
The mutex spans a whole lookup, so the cache is passed in and out; `now` is the clock when
the age of the cache is checked, `later` when it has been filled.
-/

namespace NomadCsi.Qnap

open Lib Lib.Go Driver

def sanIdentityCacheTTL : Int := 30 * 10 ^ 9

structure SanIdentityCache where
  loaded : Int
  /-- By target index; nil until the first hydration. -/
  tgts : Option (Map Int Target)
  luns : Map Int LUN
  byIQN : Map String Target

namespace SanIdentityCache

def empty : SanIdentityCache := ⟨0, none, ∅, ∅⟩

def build (tgts : List Target) (luns : List LUN) (now : Int) : SanIdentityCache where
  loaded := now
  tgts := some (tgts.foldl (fun m t => m.insert t.index t) ∅)
  luns := luns.foldl (fun m l => m.insert l.index l) ∅
  byIQN := tgts.foldl (fun m t => if t.iqn ≠ "" then m.insert t.iqn t else m) ∅

/-- No hydration is due at time `now`. -/
def isWarm (k : SanIdentityCache) (now : Int) : Bool :=
  k.tgts.isSome && timeSub now k.loaded ≤ sanIdentityCacheTTL

/-- The IQN of the id's target, if the LUN of the id still has its name. -/
def iqnFor (k : SanIdentityCache) (eid : ExternalID) : Option String :=
  match k.luns.lookup eid.lunIndex, (k.tgts.getD ∅).lookup eid.targetIndex with
  | some lun, some tgt => if lun.name ≠ eid.lunName then none else some tgt.iqn
  | _, _ => none

/-- The LUN a target maps at a SCSI LUN number; the only one of a 1:1 target. -/
def lunAt (tgt : Target) (lunNumber : Int) : Option Int :=
  match tgt.luns with
  | [i] => some i
  | is => if 0 ≤ lunNumber then is[lunNumber.toNat]? else none

/-- The id of the volume behind a host session. -/
def idFor (k : SanIdentityCache) (iqn : String) (lunNumber : Int) : Option String :=
  (k.byIQN.lookup iqn).bind fun tgt => (lunAt tgt lunNumber).bind fun lunIndex =>
    (k.luns.lookup lunIndex).map fun lun =>
      ExternalID.toString ⟨lunIndex, tgt.index, tgt.aliasName = lun.name, lun.name⟩

end SanIdentityCache

def hydrate (later : Int) : Op SanIdentityCache := do
  let sess ← smGet
  let tgts ← san sess .listTargets
  let luns ← san sess .listLUNs
  return .build tgts luns later

/-- Look something up in a cache that is hydrated first if it has to be; on an error nothing is
found. -/
def resolveWith (k : SanIdentityCache) (now later : Int) (find : SanIdentityCache → Option String) :
    Op (Option String × SanIdentityCache) := do
  if k.isWarm now then return (find k, k)
  else match ← attempt (hydrate later) with
    | .error _ => return (none, k)
    | .ok k => return (find k, k)

def resolveIQN (k : SanIdentityCache) (now later : Int) (eid : ExternalID) :
    Op (Option String × SanIdentityCache) :=
  resolveWith k now later (·.iqnFor eid)

def resolveExternalID (k : SanIdentityCache) (now later : Int) (iqn : String) (lunNumber : Int) :
    Op (Option String × SanIdentityCache) :=
  resolveWith k now later (·.idFor iqn lunNumber)

end NomadCsi.Qnap
