import Packrat.Error
import Packrat.Token.Definition

/-! Rules and their bodies. A body can be run against input or recorded as part of a
grammar. -/
namespace Packrat

inductive Body where
  | consume (token : String) (goal : Goal)
  | inOrder (parts : List Body)
  | call (name rule : String)
  | firstOf (branches : List Body)
  | many (body : Body)
  | some (body : Body)
  | optional (body : Body)
  | notAhead (token : String) (goal : Goal)
  | sameLine
  | mismatch
  | raise (error : ParseError)
  | whenRecording (recorded parsed : Body)
  | attempt (body : Body)
  deriving Repr, Inhabited

abbrev Rules := List (String × Body)

def Rules.body (rules : Rules) (name : String) : Body :=
  match List.lookup name rules with
  | some body => body
  | none => .mismatch

mutual

def Body.callCount : Body → Nat
  | .call _ _ => 1
  | .inOrder parts => Body.callCountAll parts
  | .firstOf branches => Body.callCountAll branches
  | .many body => body.callCount
  | .some body => body.callCount
  | .optional body => body.callCount
  | .whenRecording recorded parsed => recorded.callCount + parsed.callCount
  | .attempt body => body.callCount
  | .consume _ _ => 0
  | .notAhead _ _ => 0
  | .sameLine => 0
  | .mismatch => 0
  | .raise _ => 0

def Body.callCountAll : List Body → Nat
  | [] => 0
  | b :: rest => b.callCount + Body.callCountAll rest

end

def Rules.callCount (rules : Rules) : Nat := Body.callCountAll (rules.map (·.2))

inductive Verdict where
  | ok
  | mismatch
  | fatal (error : ParseError)
  deriving DecidableEq, Repr, Inhabited

end Packrat
