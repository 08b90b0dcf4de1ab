import PerlPattern.Host.Argument
import PerlPattern.Host.Settings

/-! # Starting and calling host functions

Every function checks its arguments once per query and then answers row by
row. The functions on patterns share how a session is started and how a group
of a match is asked for.
-/

namespace PerlPattern.Host

/-- Why a function cannot be started. -/
inductive InitError where
  | tooFewArguments (function : String) (min : Nat)
  | wrongArgumentCount (function : String) (expected : String)
  | noArgumentsAccepted (function : String)
  | limitNotInteger
  | occurrenceNotInteger (function : String)
  /-- The pattern was the literal `NULL` under legacy handling. -/
  | nullPattern
  | pattern (error : PatternError)
  deriving Repr, DecidableEq

def InitError.message : InitError → String
  | .tooFewArguments function min => function ++ s!": requires at least {min} arguments"
  | .wrongArgumentCount function expected => function ++ ": needs exactly " ++ expected
  | .noArgumentsAccepted function => function ++ ": does not accept arguments"
  | .limitNotInteger => "PREG_REPLACE: 4th argument (limit) must be a number"
  | .occurrenceNotInteger function =>
    function ++ ": optional occurence argument must be an integer"
  | .nullPattern => "NULL pattern"
  | .pattern error => error.message

/-- The answer for one row. -/
inductive Answer (α : Type) where
  | value (a : α)
  | null
  /-- The database raises an error for the row. -/
  | error (message : String)
  deriving Repr, DecidableEq

namespace Answer

variable {α : Type}

def failed (function message : String) : Answer α := .error (function ++ ": " ++ message)

def ofOption : Option α → Answer α
  | some a => .value a
  | none => .null

end Answer

/-- Starts the session of a function. A constant pattern in the first place is compiled now. -/
def initSession (args : Arguments) (nullHandling : NullHandling) (options : SessionOptions) :
    Except InitError Session :=
  if args.isNullLiteral 0 ∧ nullHandling = .legacy then .error .nullPattern
  else
    let constant := if args.isConstant 0 then args.bytes? 0 else none
    match Session.init constant options with
    | .ok session => .ok session
    | .error e => .error (.pattern e)

def compileFailed {α : Type} (function : String) (e : PatternError) : Answer α :=
  .failed function ("compile failed: " ++ e.message)

/-- The group that an argument names: an integer by its index, anything else by its text. An absent
argument is the whole match; `none` if it can name no group. -/
def groupRef? : Option Argument → Option GroupRef
  | none => some (.index 0)
  | some arg =>
    match arg.value with
    | .null _ | .nullLiteral => none
    | .int n => if 0 ≤ n then some (.index n.toNat) else none
    | value => (value.toBytes?.bind String.fromUTF8?).map .name

/-- A match of a pattern in a subject that a row asks about. -/
structure GroupQuery where
  pattern : CompiledPattern
  subject : ByteArray
  group : GroupRef
  occurrence : Nat

/-- Reads the row `(pattern, subject [, group [, occurrence]])` and answers it. -/
def groupQuery {α : Type} (function : String) (session : Session) (nullHandling : NullHandling)
    (args : Arguments) (ask : GroupQuery → Result (Option α)) : Answer α :=
  if nullHandling = .modern ∧ (args.isNullLiteral 0 ∨ args.isNullLiteral 1 ∨ args.isNullLiteral 2)
  then .null
  else
    match session.patternFor (args.bytes? 0) with
    | .error e => compileFailed function e
    | .ok pattern =>
      match args.bytes? 1, groupRef? args[2]? with
      | some subject, some group =>
        let occurrence := ((args.int? 3).map Int.toNat).getD 1
        match ask { pattern, subject, group, occurrence } with
        | .ok found => .ofOption found
        | .error e => .failed function e.message
      | _, _ => .null

/-- A function that asks about a group of a match. -/
structure GroupFunction where
  session : Session
  nullHandling : NullHandling

/-- Starts a function that asks about a group: two arguments at least, and an integer in the fourth
place if there is any. -/
def GroupFunction.init (function : String) (args : Arguments) (settings : Settings) :
    Except InitError GroupFunction :=
  if args.length < 2 then .error (.tooFewArguments function 2)
  else if (args.kind? 3).any (· ≠ ArgumentKind.int) then .error (.occurrenceNotInteger function)
  else
    (initSession args settings.nullHandling settings.session).map fun session =>
      { session, nullHandling := settings.nullHandling }

end PerlPattern.Host
