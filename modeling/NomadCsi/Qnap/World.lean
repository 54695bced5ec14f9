import NomadCsi.Lib.Prog
import NomadCsi.Qnap.Cache

/-!
# The controller's world and its session manager

The controller's operations are programs over `Call`: the session manager's `get` and
`reset`, client calls under a session, and the critical sections of the LUN cache. A
`World` holds what these calls read and write; `act` answers a call in it. Every client
call may fail, with or without having taken effect, and the appliance may drop all
sessions before any call (`Choice`).

`smDo` is `sessionManager.do`: it runs a closure under a session and once more, after a
fresh login, when it failed with an authentication error.
-/

namespace NomadCsi.Qnap

open Lib Lib.Go Driver

/-- An error of the controller: one of the client's, or a classified driver error. -/
inductive Err where
  | san (e : SanError)
  | driver (e : Error)
deriving DecidableEq, Repr

def Err.text : Err → String
  | .san e => e.text
  | .driver e => e.text

/-- The session is no longer valid and a new login is warranted. -/
def isAuthError : Err → Bool
  | .san ⟨.sessionInvalid, _⟩ => true
  | .san ⟨.api _ httpStatus, _⟩ => httpStatus = 401 || httpStatus = 403
  | .san ⟨.transport, _⟩ => false
  | .driver _ => false

def mapQNAPError (op : String) (err : Err) : Err :=
  if isAuthError err then
    .driver (unavailable (op ++ ": qnap session/auth error: " ++ err.text))
  else match err with
    | .san ⟨.api code _, text⟩ =>
      if code = -22 ∨ code = -17 then .driver (alreadyExists (op ++ ": " ++ text))
      else if code = -34 then
        .driver (failedPrecondition (op ++ ": resource busy: " ++ text))
      else .driver (internal (op ++ ": " ++ text))
    | e => .driver (internal (op ++ ": " ++ e.text))

@[simp] theorem isAuthError_mapQNAPError (op : String) (e : Err) :
    isAuthError (mapQNAPError op e) = false := by
  unfold mapQNAPError
  split
  · rfl
  · split
    · split_ifs <;> rfl
    · rfl

inductive Call where
  | get
  | reset
  | san (sess : Int) (c : SanCall)
  | cacheFresh
  | cacheInstall (luns : List LUN) (targets : List Target)
  | cacheLookup (name : String)
  | cacheTarget (lunIndex : Int)
  | cacheAll
  | cacheAdd (lun : LUN) (target : Target)
  | cacheRemove (lunIndex : Int)
deriving DecidableEq, Repr

def Call.client : Call → Option (Int × SanCall)
  | .san sess c => some (sess, c)
  | _ => none

@[reducible] def Call.Reply : Call → Type
  | .get => Except SanError Int
  | .san _ c => Except SanError c.Val
  | .cacheFresh => Bool
  | .cacheLookup _ => Option LUN
  | .cacheTarget _ => Option Target
  | .cacheAll => List LUN
  | .reset | .cacheInstall _ _ | .cacheAdd _ _ | .cacheRemove _ => Unit

/-- `sess` is the session manager's cached session, `accepted` the sessions the appliance
still honours. -/
structure World where
  san : San
  accepted : List Int
  sess : Option Int
  cache : LunCache
  now : Int

/-- The open part of an answer: a fault of the call, the appliance's own choices, the clock,
the order of a map iteration. -/
structure Choice where
  /-- The appliance drops every session before the call. -/
  expire : Bool := false
  fail : Bool := false
  /-- The call fails after it took effect. -/
  lost : Bool := false
  /-- The error of a failed, refused or rejected call. -/
  error : SanError := ⟨.transport, ""⟩
  san : SanChoice := {}
  tick : Nat := 0
  pick : Nat := 0

/-- The appliance's sessions as a call finds them. -/
def afterExpiry (w : World) (ch : Choice) : World :=
  { w with accepted := if ch.expire then [] else w.accepted }

/-- A call under `sess` reaches the appliance. -/
def Served (w : World) (sess : Int) (ch : Choice) : Prop :=
  sess ∈ (afterExpiry w ch).accepted ∧ ch.fail = false

instance (w : World) (sess : Int) (ch : Choice) : Decidable (Served w sess ch) :=
  inferInstanceAs (Decidable (_ ∧ _))

/-- Answer a client call: refused without an accepted session. -/
def sanAct (w : World) (sess : Int) (c : SanCall) (ch : Choice) : Except SanError c.Val × World :=
  if sess ∉ (afterExpiry w ch).accepted then
    (.error ⟨.sessionInvalid, ch.error.text⟩, afterExpiry w ch)
  else if ch.fail then (.error ch.error, afterExpiry w ch)
  else match w.san.serve c ch.san with
    | none => (.error ch.error, afterExpiry w ch)
    | some (v, san) =>
      (if ch.lost then .error ch.error else .ok v, { afterExpiry w ch with san })

/-- `sessionManager.get`: the cached session, or a login. -/
def getAct (w : World) (ch : Choice) : Except SanError Int × World :=
  match w.sess with
  | some s => (.ok s, w)
  | none =>
    if ch.fail then (.error ch.error, w)
    else (.ok ch.san.index, { w with
      sess := some ch.san.index
      accepted := ch.san.index :: w.accepted })

/-- Answer a call, the clock standing still. -/
def answer (w : World) (c : Call) (ch : Choice) : c.Reply × World :=
  match c with
  | .get => getAct w ch
  | .reset => ((), { w with sess := none })
  | .san sess c => sanAct w sess c ch
  | .cacheFresh => (w.cache.isFresh w.now, w)
  | .cacheInstall luns targets => ((), { w with cache := .install luns targets w.now })
  | .cacheLookup name => (w.cache.lookupByName name, w)
  | .cacheTarget i => (w.cache.targetForLUN i, w)
  | .cacheAll => (w.cache.all, w)
  | .cacheAdd lun target => ((), { w with cache := w.cache.addLUN lun target })
  | .cacheRemove i => ((), { w with cache := w.cache.removeLUN i ch.pick })

def act (w : World) (c : Call) (ch : Choice) : c.Reply × World :=
  let (r, w) := answer w c ch
  (r, { w with now := w.now + ch.tick })

theorem act_san (w : World) (sess : Int) (c : SanCall) (ch : Choice) :
    act w (.san sess c) ch = ((sanAct w sess c ch).1,
      { (sanAct w sess c ch).2 with now := (sanAct w sess c ch).2.now + ch.tick }) := rfl

abbrev Op := ExceptT Err (Prog Call Call.Reply)

def san (sess : Int) (c : SanCall) : Op c.Val :=
  ExceptT.mk (Prog.call (.san sess c) fun r => .ret (r.mapError .san))

/-- `sm.get`. -/
def smGet : Op Int := ExceptT.mk (Prog.call .get fun r => .ret (r.mapError .san))

def check {α : Type} (r : Except Error α) : Op α := ExceptT.mk (.ret (r.mapError .driver))

@[simp] theorem check_ok_bind {α β : Type} (a : α) (f : α → Op β) :
    (check (.ok a) >>= f) = f a := rfl

def fail {α : Type} (e : Error) : Op α := throw (.driver e)

/-- `sessionManager.do`. -/
def smDo {α : Type} (fn : Int → Op α) : Op α := do
  let sess ← smGet
  match ← attempt (fn sess) with
  | .ok a => return a
  | .error e =>
    if isAuthError e then
      perform Call.reset
      let sess ← smGet
      fn sess
    else throw e

/-- An appliance with the given LUNs (index, name) of 1 GiB, targets (index, alias) and mappings,
a live session and an empty cache. -/
def World.of (luns targets : List (Int × String)) (maps : List (Int × Int)) : World where
  san :=
    { luns := luns.foldl (fun m l => m.insert l.1 ⟨l.2, giB⟩) ∅
      targets := targets.foldl (fun m t => m.insert t.1 ⟨t.2, t.2⟩) ∅
      maps := maps
      snaps := []
      pools := ∅ }
  accepted := [1]
  sess := some 1
  cache := .empty
  now := 0

end NomadCsi.Qnap
