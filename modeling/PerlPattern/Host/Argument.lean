import PerlPattern.Decimal.Shortest

/-! # Arguments of host functions

A database passes each function a list of arguments. An argument carries its
value, whether it is a constant of the query, and the length that the database
reports for it. A missing value differs from an empty string, and the literal
`NULL` of a query from a column that has no value on some row.
-/

namespace PerlPattern.Host

inductive ArgumentKind where
  | string
  | int
  | real
  deriving Repr, DecidableEq

inductive Value where
  /-- No value, of a declared kind. -/
  | null (kind : ArgumentKind)
  /-- The literal `NULL` written in the query. -/
  | nullLiteral
  | bytes (b : ByteArray)
  | int (n : Int)
  | real (x : Float)

namespace Value

def kind : Value → ArgumentKind
  | .null kind => kind
  | .nullLiteral => .string
  | .bytes _ => .string
  | .int _ => .int
  | .real _ => .real

def isNull : Value → Bool
  | .null _ | .nullLiteral => true
  | _ => false

def isNullLiteral : Value → Bool
  | .nullLiteral => true
  | _ => false

/-- The value as bytes; numbers are written in decimal. -/
def toBytes? : Value → Option ByteArray
  | .null _ | .nullLiteral => none
  | .bytes b => some b
  | .int n => some (toString n).toUTF8
  | .real x => some (Decimal.shortestText x).toUTF8

def toInt? : Value → Option Int
  | .int n => some n
  | _ => none

/-- The length reported for a value unless another one is given. -/
def defaultLength : Value → Nat
  | .null _ | .nullLiteral => 0
  | .bytes b => b.size
  | .int _ => 21
  | .real _ => 24

end Value

structure Argument where
  value : Value
  isConstant : Bool := false
  length : Nat := value.defaultLength

namespace Argument

/-- An argument that varies from row to row, unless it is the literal `NULL`. -/
def ofValue (v : Value) : Argument := { value := v, isConstant := v.isNullLiteral }

def constant (a : Argument) : Argument := { a with isConstant := true }

def withLength (a : Argument) (length : Nat) : Argument := { a with length }

end Argument

abbrev Arguments := List Argument

namespace Arguments

def kind? (args : Arguments) (index : Nat) : Option ArgumentKind := (args[index]?).map (·.value.kind)

def isNullLiteral (args : Arguments) (index : Nat) : Bool :=
  (args[index]?).any (·.value.isNullLiteral)

def isConstant (args : Arguments) (index : Nat) : Bool := (args[index]?).any (·.isConstant)

/-- The bytes of an argument; `none` if it is absent or has no value. -/
def bytes? (args : Arguments) (index : Nat) : Option ByteArray :=
  (args[index]?).bind (·.value.toBytes?)

/-- The integer of an argument; `none` unless it is one. -/
def int? (args : Arguments) (index : Nat) : Option Int := (args[index]?).bind (·.value.toInt?)

/-- The reported length of an argument; `0` if it is absent. -/
def reportedLength (args : Arguments) (index : Nat) : Nat := ((args[index]?).map (·.length)).getD 0

end Arguments

end PerlPattern.Host
