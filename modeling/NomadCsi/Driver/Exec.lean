import NomadCsi.Lib.Prog

/-!
# Running host commands

The error of a command (`internal/exec`): its exit code and the text the driver reports.
-/

namespace NomadCsi.Driver

open Lib

structure ExecError where
  exitCode : Int
  text : String
deriving DecidableEq, Repr

def isExit (e : ExecError) (code : Int) : Bool := e.exitCode = code

/-- The output of a command, or its error after `msg`. -/
def outcome {C : Type} {R : C → Type} {α : Type} (msg : String) :
    Except ExecError α → ExceptT String (Prog C R) α
  | .ok a => return a
  | .error e => throw (msg ++ ": " ++ e.text)

theorem calls_outcome {C : Type} {R : C → Type} {α : Type} {K : C → Prop} (msg : String)
    (r : Except ExecError α) : (outcome msg r : ExceptT String (Prog C R) α).run.Calls K := by
  cases r with
  | ok a => trivial
  | error e => trivial

theorem calls_ite_throw {C : Type} {R : C → Type} {α : Type} {K : C → Prop} {p : Prop} [Decidable p]
    (x : α) (e : String) :
    (if p then pure x else throw e : ExceptT String (Prog C R) α).run.Calls K := by
  split
  · trivial
  · trivial

theorem calls_reply {C : Type} {R : C → Type} {α β : Type} {K : C → Prop}
    {x : ExceptT String (Prog C R) (Except ExecError β)}
    {k : Except ExecError β → ExceptT String (Prog C R) α} (hx : x.run.Calls K)
    (hok : ∀ b, (k (.ok b)).run.Calls K) (herr : ∀ e, (k (.error e)).run.Calls K) :
    (x >>= k).run.Calls K := by
  refine calls_run_bind hx fun r => ?_
  cases r with
  | ok b => exact hok b
  | error e => exact herr e

end NomadCsi.Driver
