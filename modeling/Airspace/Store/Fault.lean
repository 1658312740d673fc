import Airspace.Store.Syntax

/-!
# Faults of statements

A statement that fails carries a fault: the kind of failure, which fixes the
engine's result code, and its message. The text of a fault is the general
text of its result code, then its own message after a colon when that says
more.
-/

namespace Airspace.Store

/-- Why a statement failed. -/
inductive Fault where
  /-- An error in the statement itself: a name, a function, a misuse. -/
  | logic (message : String)
  /-- A broken constraint, with its extended result code. -/
  | constraint (code : Nat) (message : String)
  /-- A value that is not an integer where a row id is needed. -/
  | mismatch
  /-- No row id is left. -/
  | full
  /-- `RAISE` with its message. -/
  | raised (kind : RaiseKind) (message : String)
  /-- `RAISE(IGNORE)`: the row that fired the trigger is skipped. -/
  | ignored

/-- The result code of a fault. -/
def Fault.code : Fault → Nat
  | .logic _ => 1
  | .constraint c _ => c
  | .mismatch => 20
  | .full => 13
  | .raised _ _ => 1811
  | .ignored => 1811

/-- The engine's text for a fault: the text of its result code, and its own
message after a colon when that differs. -/
def Fault.text (f : Fault) : String :=
  let (general, message) : String × String := match f with
    | .logic m => ("SQL logic error", m)
    | .constraint _ m => ("constraint failed", m)
    | .mismatch => ("datatype mismatch", "datatype mismatch")
    | .full => ("database or disk is full", "database or disk is full")
    | .raised _ m => ("constraint failed", m)
    | .ignored => ("constraint failed", "constraint failed")
  if general == message then general else general ++ ": " ++ message

end Airspace.Store
