import ScriptLib.Number.Text

/-!
# Script values

A script value is nil, a number (a double), a text, a boolean, or a handle to a list or a
map. Numbers, texts and booleans are plain data; lists and maps are shared: a handle names
a container of a `Heap`, and every copy of the handle sees its changes. Equality of
handles is identity of containers.

`Kind` describes what a value is, or a family of kinds that an argument may have; its
names are those that error messages use.
-/

namespace ScriptLib

/-- The name of a list or a map in a heap. -/
abbrev Handle := Nat

/-- A script value. -/
inductive Value where
  | nil
  | num (x : Double)
  | str (s : String)
  | bool (b : Bool)
  | list (h : Handle)
  | map (h : Handle)
  deriving Inhabited, Repr

/-- What a value is, or a family of kinds that an argument accepts. -/
inductive Kind where
  | nil
  | number
  | string
  | boolean
  | list
  | map
  /-- a list or a text -/
  | sequence
  /-- a list, a map or a text -/
  | collection
  | any
  deriving DecidableEq, Repr, Inhabited

namespace Kind

/-- The name of a kind in messages. -/
def name : Kind → String
  | .nil => "nil"
  | .number => "number"
  | .string => "string"
  | .boolean => "boolean"
  | .list => "list"
  | .map => "map"
  | .sequence => "list or string"
  | .collection => "list, map or string"
  | .any => "any"

/-- Whether a value of kind `actual` meets the description `expected`. -/
def accepts (expected actual : Kind) : Bool :=
  match expected with
  | .any => true
  | .sequence => actual == .list || actual == .string
  | .collection => actual == .list || actual == .map || actual == .string
  | k => k == actual

end Kind

namespace Value

/-- The kind of a value. -/
def kind : Value → Kind
  | .nil => .nil
  | .num _ => .number
  | .str _ => .string
  | .bool _ => .boolean
  | .list _ => .list
  | .map _ => .map

/-- Whether a value is nil. -/
def isNil : Value → Bool
  | .nil => true
  | _ => false

/-- The text of a value that is not a container; containers need a heap. -/
def scalarText : Value → String
  | .nil => "null"
  | .num x => Number.format x
  | .bool b => if b then "true" else "false"
  | .str s => s
  | .list _ => ""
  | .map _ => ""

/-- The number of a value that is a number, without conversion. -/
def asNum? : Value → Option Double
  | .num x => some x
  | _ => none

/-- The text of a value that is a text. -/
def asStr? : Value → Option String
  | .str s => some s
  | _ => none

end Value

end ScriptLib
