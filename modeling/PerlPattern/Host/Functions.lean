import PerlPattern.Host.Call

/-! # The host functions

Capture, position, match test, validity check and information. Replacement
has a module of its own.
-/

namespace PerlPattern.Host

namespace Capture

def name : String := "PREG_CAPTURE"

def init (args : Arguments) (settings : Settings) : Except InitError GroupFunction :=
  GroupFunction.init name args settings

def call (f : GroupFunction) (args : Arguments) : Answer ByteArray :=
  groupQuery name f.session f.nullHandling args fun q =>
    (Query.capture q.pattern.matcher () q.subject q.group q.occurrence).1

end Capture

namespace Position

def name : String := "PREG_POSITION"

/-- The largest position that can be returned. -/
def maxPosition : Nat := Nat.pow 2 63 - 1

def init (args : Arguments) (settings : Settings) : Except InitError GroupFunction :=
  GroupFunction.init name args settings

/-- The position of a group of a match, counted from 1. -/
def call (f : GroupFunction) (args : Arguments) : Answer Nat :=
  groupQuery name f.session f.nullHandling args fun q =>
    (Query.position q.pattern.matcher () q.subject q.group q.occurrence).1.map fun pos =>
      pos.map (min · maxPosition)

end Position

structure Rlike where
  session : Session

namespace Rlike

def name : String := "preg_rlike"

def init (args : Arguments) (settings : Settings) : Except InitError Rlike :=
  if args.length ≠ 2 then .error (.wrongArgumentCount name "two arguments")
  else (initSession args settings.nullHandling settings.session).map Rlike.mk

/-- 1 if there is a match, else 0. A missing or empty subject has none, whatever the pattern. -/
def call (f : Rlike) (args : Arguments) : Answer Nat :=
  match (args.bytes? 1).filter (·.size ≠ 0) with
  | none => .value 0
  | some subject =>
    match f.session.patternFor (args.bytes? 0) with
    | .error e => compileFailed name e
    | .ok pattern =>
      match (Query.isMatch pattern.matcher () subject).1 with
      | .ok found => .value found.toNat
      | .error e => .failed name e.message

end Rlike

/-- Checks patterns; the answer for a constant one is kept. -/
structure Check where
  constant : Option Nat

namespace Check

def name : String := "preg_check"

/-- 1 if the first argument is a valid pattern, else 0. -/
def answer (args : Arguments) : Nat :=
  match (args.bytes? 0).filter (·.size ≠ 0) with
  | none => 0
  | some raw => (CompiledPattern.check raw).toNat

def init (args : Arguments) : Except InitError Check :=
  if args.length ≠ 1 then .error (.wrongArgumentCount name "one argument")
  else .ok ⟨if args.isConstant 0 then some (answer args) else none⟩

def call (f : Check) (args : Arguments) : Answer Nat := .value (f.constant.getD (answer args))

end Check

namespace Info

def name : String := "lib_mysqludf_preg_info"

def packageString : String := "preg-udf 0.3.0"

def init (args : Arguments) : Except InitError Unit :=
  if args.isEmpty then .ok () else .error (.noArgumentsAccepted name)

def call : Answer String := .value packageString

end Info

/-! ## Verbosity -/

/-- The levels of the log, by the number that selects them. -/
def logLevel : Nat → String
  | 0 => "Off"
  | 1 => "Error"
  | 2 => "Warn"
  | 3 => "Info"
  | 4 => "Debug"
  | _ => "Trace"

end PerlPattern.Host
