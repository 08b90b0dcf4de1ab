import PerlPattern.Modifier
import PerlPattern.Error

/-! # Delimited patterns

A pattern is written with its body between delimiters and modifiers after it,
such as `/abc/i`. Bracket delimiters nest; a backslash takes the byte after it
along, so that an escaped delimiter does not end the body. The body is kept as
it is written.
-/

namespace PerlPattern

structure PatternSpec where
  /-- The bytes between the delimiters, escapes included. -/
  body : ByteArray
  modifiers : Modifiers
  /-- Was the `S` modifier given, which asks for a trial search? -/
  study : Bool
  body_ne : body.size ≠ 0

namespace PatternSpec

/-- A pattern from its parts; the body must not be empty. -/
def make (body : ByteArray) (modifiers : Modifiers) (study : Bool) : Result PatternSpec :=
  if h : body.size = 0 then .error .emptyPattern else .ok ⟨body, modifiers, study, h⟩

end PatternSpec

namespace Delimited

/-- The bytes skipped before the opening delimiter. -/
def isBlank (b : UInt8) : Bool := b == 0x20 || (0x09 ≤ b && b ≤ 0x0D)

def isAlphanumeric (b : UInt8) : Bool :=
  (0x30 ≤ b && b ≤ 0x39) || (0x41 ≤ b && b ≤ 0x5A) || (0x61 ≤ b && b ≤ 0x7A)

def backslash : UInt8 := 0x5C

/-- Can a byte open a pattern? -/
def isDelimiter (b : UInt8) : Bool := !isAlphanumeric b && b != backslash

/-- The delimiter that closes what `opener` opens: the partner of a bracket, else the same byte. -/
def closerOf (opener : UInt8) : UInt8 :=
  if opener = 0x28 then 0x29
  else if opener = 0x5B then 0x5D
  else if opener = 0x7B then 0x7D
  else if opener = 0x3C then 0x3E
  else opener

/-- Splits what follows an opening delimiter at the closing one, with `depth + 1` delimiters open. -/
def splitBody (opener closer : UInt8) (depth : Nat) : List UInt8 → Option (List UInt8 × List UInt8)
  | [] => none
  | b :: rest =>
    if b = backslash then
      match rest with
      | [] => none
      | escaped :: rest =>
        (splitBody opener closer depth rest).map fun (body, tail) => (b :: escaped :: body, tail)
    else if b = closer then
      match depth with
      | 0 => some ([], rest)
      | depth + 1 => (splitBody opener closer depth rest).map fun (body, tail) => (b :: body, tail)
    else
      (splitBody opener closer (if b = opener then depth + 1 else depth) rest).map
        fun (body, tail) => (b :: body, tail)

/-- Modifiers and the study mark; blanks and line feeds between them are skipped. -/
def readModifiers (modifiers : Modifiers) (study : Bool) : List UInt8 → Result (Modifiers × Bool)
  | [] => .ok (modifiers, study)
  | b :: rest =>
    if b = 0x53 then readModifiers modifiers true rest
    else if b = 0x20 ∨ b = 0x0A then readModifiers modifiers study rest
    else
      match Modifier.ofByte? b with
      | some m => readModifiers (modifiers.insert m) study rest
      | none => .error (.unknownModifier b)

def parseBytes (raw : List UInt8) : Result PatternSpec :=
  match raw.dropWhile isBlank with
  | [] => .error .emptyPattern
  | opener :: rest =>
    if !isDelimiter opener then .error .badDelimiter
    else
      match splitBody opener (closerOf opener) 0 rest with
      | none => .error (.unterminated (closerOf opener))
      | some (body, tail) =>
        match readModifiers ∅ false tail with
        | .error e => .error e
        | .ok (modifiers, study) => PatternSpec.make ⟨body.toArray⟩ modifiers study

def parse (raw : ByteArray) : Result PatternSpec := parseBytes raw.data.toList

end Delimited

end PerlPattern
