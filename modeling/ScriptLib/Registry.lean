import ScriptLib.Intrinsic.General
import ScriptLib.Intrinsic.Order
import ScriptLib.Intrinsic.Math
import ScriptLib.Intrinsic.Text

/-!
# The function table

Every standard function with its parameters, and the three method tables that expose
some of them on lists, maps and texts with the receiver bound to `self`.

Binding matches a call's arguments to a parameter list: the positional arguments fill the
first parameters (more than there are parameters is an arity mismatch), then each named
argument, in order, fills the parameter of its name (an unknown name, or a parameter
already filled, is an error), and last each parameter left empty takes its default (a
required one is an error).

A call of the table fails for an unknown name; otherwise it binds and runs the function,
and any error gets the function's name as a frame. A call that must not suspend refuses
`wait` and `yield` before binding.
-/

namespace ScriptLib

/-- The default of a parameter. -/
inductive ParamDefault where
  | required
  | nil
  | number (x : Double)
  | text (s : String)
  deriving Repr, Inhabited

/-- The value a default supplies; none for a required parameter. -/
def ParamDefault.value? : ParamDefault → Option Value
  | .required => none
  | .nil => some .nil
  | .number x => some (.num x)
  | .text s => some (.str s)

/-- A declared parameter. -/
structure Param where
  name : String
  default : ParamDefault
  deriving Repr, Inhabited

/-- A standard function. -/
structure Builtin where
  name : String
  params : List Param
  /-- whether a call may suspend the script -/
  suspends : Bool
  run : List Value → Act Value

/-- The bad argument error of a function. -/
def badArgument (function message : String) : Error :=
  ⟨.invalidArgument function message, []⟩

/-- Fills parameter slots with named arguments, in order. -/
def fillNamed (function : String) (params : List Param) :
    List (Option Value) → List (String × Value) → Except Error (List (Option Value))
  | slots, [] => .ok slots
  | slots, (name, v) :: rest =>
    match params.findIdx? (·.name == name) with
    | none => .error (badArgument function s!"unknown argument '{name}'")
    | some i =>
      if (slots.getD i none).isSome then
        .error (badArgument function s!"argument '{name}' given twice")
      else fillNamed function params (slots.set i (some v)) rest

/-- Binds positional and named arguments to a parameter list, defaults filled in. -/
def bind (function : String) (params : List Param) (positional : List Value)
    (named : List (String × Value)) : Except Error (List Value) := do
  if positional.length > params.length then
    throw ⟨.arityMismatch function params.length positional.length, []⟩
  let slots := positional.map some ++ List.replicate (params.length - positional.length) none
  let slots ← fillNamed function params slots named
  (slots.zip params).mapM fun (slot, p) =>
    match slot with
    | some v => .ok v
    | none =>
      match p.default.value? with
      | some v => .ok v
      | none => .error (badArgument function s!"missing required argument '{p.name}'")

namespace Registry

open Intrinsic

/-- A required parameter. -/
def req (name : String) : Param := ⟨name, .required⟩

/-- A parameter defaulting to nil. -/
def opt (name : String) : Param := ⟨name, .nil⟩

/-- A parameter defaulting to a whole number. -/
def num (name : String) (n : Nat) : Param := ⟨name, .number (Number.ofInt n)⟩

/-- A parameter defaulting to a text. -/
def text (name : String) (s : String) : Param := ⟨name, .text s⟩

/-- A function that runs to completion. -/
def sync (name : String) (params : List Param) (run : List Value → Act Value) : Builtin :=
  ⟨name, params, false, run⟩

/-- The receiver parameter. -/
def self : Param := req "self"

/-- The single numeric parameter of the one-number functions. -/
def value0 : Param := num "value" 0

/-- The standard functions, in declaration order. -/
def standard : List Builtin :=
  [ sync "print" [text "value" ""] print,
    ⟨"wait", [num "delay" 1], true, wait⟩,
    ⟨"yield", [], true, yieldTurn⟩,
    sync "char" [num "code" 65] char,
    sync "code" [req "value"] code,
    sync "str" [req "value"] str,
    sync "val" [req "value"] val,
    sync "hash" [req "value", num "recursionDepth" 16] hash,
    sync "range" [num "from" 0, num "to" 0, opt "step"] range,
    sync "rnd" [opt "seed"] rnd,
    sync "abs" [value0] (unary Number.abs),
    sync "acos" [value0] (unary Number.acos),
    sync "asin" [value0] (unary Number.asin),
    sync "atan" [value0] (unary Number.atan),
    sync "tan" [value0] (unary Number.tan),
    sync "ceil" [value0] (unary Number.ceil),
    sync "cos" [value0] (unary Number.cos),
    sync "floor" [value0] (unary Number.floor),
    sync "sin" [value0] (unary Number.sin),
    sync "sign" [value0] (unary signum),
    sync "sqrt" [value0] (unary Number.sqrt),
    sync "log" [value0, num "base" 10] log,
    sync "round" [value0, num "decimalPlaces" 0] round,
    sync "pi" [] (fun _ => pure (.num pi)),
    sync "bitwise" [req "operator", req "numA", opt "numB"] bitwise,
    sync "hasIndex" [self, req "index"] hasIndex,
    sync "indexOf" [self, req "value", opt "after"] indexOf,
    sync "lastIndexOf" [self, req "value", opt "before"] lastIndexOf,
    sync "indexes" [self] indexes,
    sync "values" [self] values,
    sync "len" [self] len,
    sync "slice" [self, num "from" 0, num "to" 0] slice,
    sync "insert" [self, req "index", req "value"] insert,
    sync "sort" [self, opt "key", num "asc" 1] sort,
    sync "sum" [self] sum,
    sync "shuffle" [self] shuffle,
    sync "pop" [self] pop,
    sync "pull" [self] pull,
    sync "push" [self, req "value"] push,
    sync "remove" [self, req "key"] remove,
    sync "reverse" [self] reverse,
    sync "join" [self, text "separator" " "] join,
    sync "replace" [self, req "old", req "new", opt "maxCount", opt "regexOptions"] replace,
    sync "lower" [self] lower,
    sync "upper" [self] upper,
    sync "split" [self, text "delimiter" " ", opt "regexOptions"] split,
    sync "trim" [self] trim,
    sync "to_int" [self] toInt ]

/-- The methods of lists. -/
def listMethods : List String :=
  ["hasIndex", "indexes", "indexOf", "lastIndexOf", "len", "pop", "pull", "push", "insert",
   "shuffle", "sort", "sum", "remove", "values", "reverse", "join", "replace", "slice"]

/-- The methods of maps. -/
def mapMethods : List String :=
  ["hasIndex", "indexes", "indexOf", "lastIndexOf", "len", "pop", "pull", "push", "shuffle",
   "sum", "remove", "values", "replace"]

/-- The methods of texts. -/
def stringMethods : List String :=
  ["hasIndex", "indexes", "indexOf", "lastIndexOf", "code", "len", "lower", "upper", "val",
   "remove", "values", "split", "replace", "trim", "to_int", "insert", "slice"]

/-- The method names of a receiver's kind, if the kind has methods. -/
def methodsOf : Value → Option (List String)
  | .list _ => some listMethods
  | .map _ => some mapMethods
  | .str _ => some stringMethods
  | _ => none

/-- The standard function of a name. -/
def lookup (name : String) : Option Builtin :=
  standard.find? (·.name == name)

/-- The names of the standard functions, sorted. -/
def names : List String :=
  (standard.map (·.name)).mergeSort (fun a b => decide (a ≤ b))

/-- Runs an action, giving its error a frame. -/
def framed {α : Type} (frame : String) (a : Act α) : Act α :=
  tryCatch a fun e => throw (e.pushFrame frame)

/-- Binds and runs a function. -/
def invoke (f : Builtin) (positional : List Value) (named : List (String × Value)) :
    Act Value := do
  let bound ← Act.ofResult (bind f.name f.params positional named)
  f.run bound

/-- Calls a standard function, suspending ones included. -/
def call (name : String) (positional : List Value) (named : List (String × Value)) :
    Act Value :=
  framed name <|
    match lookup name with
    | none => Act.fail (.unknownFunction name)
    | some f => invoke f positional named

/-- Calls a standard function that must not suspend. -/
def callSync (name : String) (positional : List Value) (named : List (String × Value)) :
    Act Value :=
  framed name <|
    match lookup name with
    | none => Act.fail (.unknownFunction name)
    | some f => if f.suspends then Act.fail (.wouldSuspend f.name) else invoke f positional named

/-- Calls a method of a receiver, which is passed as `self`. -/
def callMethod (receiver : Value) (name : String) (positional : List Value)
    (named : List (String × Value)) : Act Value :=
  framed name <|
    let found := (methodsOf receiver).bind fun ms =>
      if ms.contains name then lookup name else none
    match found with
    | none => Act.fail (.unknownFunction s!"{receiver.kind.name}.{name}")
    | some f =>
      if f.suspends then Act.fail (.wouldSuspend f.name)
      else invoke f (receiver :: positional) named

end Registry

end ScriptLib
