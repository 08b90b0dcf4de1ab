import PerlPattern.Host.Call

/-! # Replacement as a host function

`(pattern, replacement, subject [, limit])`. A missing or negative limit
replaces every match. One buffer serves all rows of a query.
-/

namespace PerlPattern.Host

structure Replace where
  session : Session
  nullHandling : NullHandling

structure Replaced where
  bytes : ByteArray
  count : Nat

namespace Replace

def name : String := "PREG_REPLACE"

/-- The options of a session that replaces. With a known largest length, the longest result that
references could build is estimated from the reported lengths; an estimate beyond what can be
returned is none. -/
def options (args : Arguments) (o : SessionOptions) : SessionOptions :=
  let replacement := args.reportedLength 1
  let subject := args.reportedLength 2
  if o.maxLength.any (0 < ·) ∧ 0 < replacement ∧ 0 < subject then
    let estimate := OutputBuffer.wordMul (OutputBuffer.wordMul replacement subject) replacement
    { o with maxLength := if estimate ≤ SessionOptions.maxResultLength then some estimate else none }
  else o

def init (args : Arguments) (settings : Settings) : Except InitError Replace :=
  if args.length < 3 then .error (.tooFewArguments name 3)
  else if (args.kind? 3).any (· ≠ ArgumentKind.int) then .error .limitNotInteger
  else
    (initSession args settings.nullHandling (options args settings.session)).map fun session =>
      { session, nullHandling := settings.nullHandling }

/-- The largest limit; a greater one is none. -/
def maxLimit : Nat := Nat.pow 2 32 - 1

def limit? (args : Arguments) : Option Nat :=
  match args.int? 3 with
  | some n => if 0 ≤ n ∧ n ≤ maxLimit then some n.toNat else none
  | none => none

def faultMessage : PassFault → String
  | .error e => e.message
  | .outOfRange => "match outside the subject"
  | .stalled => "matches without progress"

/-- Answers one row, and gives the state for the next one. Under modern handling a literal `NULL` as
replacement gives `NULL` wherever it changes the subject. -/
def call (f : Replace) (args : Arguments) : Answer Replaced × Replace :=
  let modern := f.nullHandling = .modern
  if modern ∧ (args.isNullLiteral 2 ∨ args.isNullLiteral 0) then (.null, f)
  else
    let replacement := (args.bytes? 1).getD .empty
    let subject := (args.bytes? 2).getD .empty
    let (result, session) :=
      f.session.replace (args.bytes? 0) subject (Template.parse replacement) (limit? args)
    let f := { f with session }
    match result with
    | .ok report =>
      let bytes := session.output
      if modern ∧ args.isNullLiteral 1 ∧ bytes.data ≠ subject.data then (.null, f)
      else (.value { bytes, count := report.replacements }, f)
    | .error fault => (.failed name (faultMessage fault), f)

end Replace

end PerlPattern.Host
