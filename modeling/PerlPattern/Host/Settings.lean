import PerlPattern.Session
import PerlPattern.Text.Quoted

/-! # Settings of host functions

The settings are built in steps, or read from named variables, each of which
affects its own field only. Values are trimmed of white space before they are
read; a value that cannot be read is reported as it was given.
-/

namespace PerlPattern.Host

/-- How the literal `NULL` is treated. -/
inductive NullHandling where
  /-- A literal `NULL` as pattern, replacement or subject gives `NULL`. -/
  | modern
  /-- A literal `NULL` as pattern is an error at the start; as replacement it is empty. -/
  | legacy
  deriving Repr, DecidableEq, Inhabited

namespace NullHandling

def text : NullHandling → String
  | .modern => "modern"
  | .legacy => "legacy"

/-- Reads a name without regard to the case of ASCII letters. -/
def ofText? (s : String) : Option NullHandling :=
  let key := String.ofList (s.toList.map Char.toLower)
  if key = "modern" then some .modern else if key = "legacy" then some .legacy else none

def unknownMessage : String := "Matching variant not found"

end NullHandling

structure Settings where
  session : SessionOptions := {}
  nullHandling : NullHandling := .modern
  deriving Repr, DecidableEq, Inhabited

/-- A variable with a value that cannot be read. -/
structure SettingsError where
  name : String
  value : String
  deriving Repr, DecidableEq

def SettingsError.message (e : SettingsError) : String :=
  "invalid value " ++ Quoted.quote e.value ++ " for " ++ e.name

namespace Settings

def withNullHandling (s : Settings) (h : NullHandling) : Settings := { s with nullHandling := h }

def withLimits (s : Settings) (limits : MatchLimits) : Settings :=
  { s with session := { s.session with limits } }

/-- Derives the limit on nesting from a stack budget; the match limit stays. -/
def withStackBudget (s : Settings) (available : Option Nat) : Settings :=
  s.withLimits
    ((MatchLimits.ofStackBudget available).withMatchLimit s.session.limits.matchLimit)

def withMaxLength (s : Settings) (maxLength : Option Nat) : Settings :=
  { s with session := { s.session with maxLength } }

def nullHandlingVar : String := "PREG_NULL_HANDLING"

def stackBudgetVar : String := "PREG_STACK_BUDGET"

def matchLimitVar : String := "PREG_MATCH_LIMIT"

def trim (text : String) : String :=
  String.ofList
    (((text.toList.dropWhile Unicode.isWhiteSpace).reverse.dropWhile Unicode.isWhiteSpace).reverse)

/-- The largest number that a variable may hold. -/
def maxNumber : Nat := Nat.pow 2 64 - 1

/-- Reads a number: decimal digits, with a plus sign or without. -/
def number? (text : String) : Option Nat :=
  let digits := match text.toList with
    | '+' :: rest => rest
    | cs => cs
  if digits.isEmpty ∨ !digits.all Char.isDigit then none
  else
    let value := digits.foldl (fun n d => n * 10 + (d.toNat - '0'.toNat)) 0
    if value ≤ maxNumber then some value else none

def readVar {α : Type} (name : String) (read? : String → Option α) (value : String) :
    Except SettingsError α :=
  match read? (trim value) with
  | some a => .ok a
  | none => .error ⟨name, value⟩

/-- A match limit of at least 1. -/
def positive? (text : String) : Option Nat := (number? text).filter (0 < ·)

/-- Applies `change` to the value of a variable, if the variable is set. -/
def applyVar {α : Type} (lookup : String → Option String) (name : String)
    (read? : String → Option α) (change : Settings → α → Settings) (s : Settings) :
    Except SettingsError Settings :=
  match lookup name with
  | none => .ok s
  | some value => (readVar name read? value).map (change s)

/-- Reads the settings from variables; of several faults the first in this order is reported. -/
def ofVars (lookup : String → Option String) : Except SettingsError Settings := do
  let s ← applyVar lookup nullHandlingVar NullHandling.ofText? withNullHandling {}
  let s ← applyVar lookup stackBudgetVar number? (fun s n => s.withStackBudget (some n)) s
  applyVar lookup matchLimitVar positive?
    (fun s n => s.withLimits (s.session.limits.withMatchLimit n)) s

end Settings

end PerlPattern.Host
