import ScriptLib.Value.Basic

/-!
# Errors

An error is the cause of a failed call, a message written from it, and the frames of the
intrinsic calls it passed through, innermost first. Functions of the value layer fail
with no frame; the function table adds the name of the function it called.
-/

namespace ScriptLib

/-- A size ceiling that a call would pass. -/
inductive Limit where
  | shuffleLength (limit actual : Nat)
  | separatorLength (limit actual : Nat)
  | rangeLength (limit : Nat)
  deriving DecidableEq, Repr

/-- The text of a passed ceiling. -/
def Limit.message : Limit → String
  | .shuffleLength limit actual => s!"cannot shuffle {actual} entries (max {limit})"
  | .separatorLength limit actual => s!"separator of {actual} characters is too long (max {limit})"
  | .rangeLength limit => s!"range would produce more than {limit} values"

/-- Why a call failed. -/
inductive Cause where
  /-- An argument of the wrong kind. -/
  | typeMismatch (expected actual : Kind)
  /-- A number outside its inclusive bounds, named by what it describes. -/
  | indexOutOfRange (desc : String) (index min max : Double)
  /-- An argument of the right kind with an unusable value. -/
  | invalidArgument (function message : String)
  /-- Too many arguments for a parameter list. -/
  | arityMismatch (function : String) (expected actual : Nat)
  | limitExceeded (limit : Limit)
  | unknownFunction (name : String)
  /-- A suspending function called where nothing may suspend. -/
  | wouldSuspend (name : String)
  | internal (message : String)
  /-- The host itself gave up, so the request as a whole has no other answer. -/
  | panic (message : String)
  deriving Repr

namespace Cause

/-- The message of a cause. -/
def message : Cause → String
  | .typeMismatch e a => s!"type mismatch: expected {e.name}, got {a.name}"
  | .indexOutOfRange desc i lo hi =>
    s!"Index Error: {desc} ({Number.diagnostic i}) out of range ({Number.diagnostic lo} to {Number.diagnostic hi})"
  | .invalidArgument f m => s!"{f}: {m}"
  | .arityMismatch f e a => s!"{f}: expected {e} arguments, got {a}"
  | .limitExceeded l => s!"limit exceeded: {l.message}"
  | .unknownFunction n => s!"unknown function: {n}"
  | .wouldSuspend n => s!"{n} suspends and must be awaited"
  | .internal m => s!"internal error: {m}"
  | .panic m => m

/-- The name of the kind of a cause. -/
def kindName : Cause → String
  | .typeMismatch .. => "TypeMismatch"
  | .indexOutOfRange .. => "IndexOutOfRange"
  | .invalidArgument .. => "InvalidArgument"
  | .arityMismatch .. => "ArityMismatch"
  | .limitExceeded .. => "LimitExceeded"
  | .unknownFunction .. => "UnknownFunction"
  | .wouldSuspend .. => "WouldSuspend"
  | .internal .. => "Internal"
  | .panic .. => "Panic"

end Cause

/-- A failure: its cause and the frames it passed, innermost first. -/
structure Error where
  cause : Cause
  stack : List String := []
  deriving Repr

namespace Error

/-- The error with one more frame on the outside. -/
def pushFrame (e : Error) (frame : String) : Error :=
  { e with stack := e.stack ++ [frame] }

/-- The message of an error. -/
def message (e : Error) : String := e.cause.message

end Error

end ScriptLib
