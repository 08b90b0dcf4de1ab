/-! # UTF-8 in byte strings

A byte string need not be well-formed text. This module reads one character at
a position, finds the first malformed place, and judges the width of a
character by its first byte alone, as the advancement over empty matches does.
-/

namespace PerlPattern.Utf8

def isContinuation (b : UInt8) : Bool := 0x80 ≤ b && b ≤ 0xBF

/-- How many bytes a character takes, judged by its first byte; stray bytes take one. -/
def widthOfLead (lead : UInt8) : Nat :=
  if 0xC0 ≤ lead ∧ lead ≤ 0xDF then 2
  else if 0xE0 ≤ lead ∧ lead ≤ 0xEF then 3
  else if 0xF0 ≤ lead ∧ lead ≤ 0xF7 then 4
  else 1

/-- The width of the character that starts at `pos`, cut off at the end; `0` at or past the end. -/
def charWidthAt (bytes : ByteArray) (pos : Nat) : Nat :=
  match bytes[pos]? with
  | none => 0
  | some lead => min (widthOfLead lead) (bytes.size - pos)

/-- Does a character of well-formed text start or end at `pos`? -/
def isBoundary (bytes : ByteArray) (pos : Nat) : Bool :=
  pos == bytes.size || (bytes[pos]?).any fun b => !isContinuation b

/-- What stands at a position: a character of some width, or a malformed sequence. The length of
a malformed sequence is unknown when the text ends inside it. -/
inductive Reading where
  | char (width : Nat)
  | malformed (length : Option Nat)
  deriving Repr, DecidableEq

/-- The values that the second byte of a sequence may take, by its first byte. -/
def secondRange (lead : UInt8) : UInt8 × UInt8 :=
  if lead = 0xE0 then (0xA0, 0xBF)
  else if lead = 0xED then (0x80, 0x9F)
  else if lead = 0xF0 then (0x90, 0xBF)
  else if lead = 0xF4 then (0x80, 0x8F)
  else (0x80, 0xBF)

def width? (lead : UInt8) : Option Nat :=
  if lead < 0x80 then some 1
  else if 0xC2 ≤ lead ∧ lead ≤ 0xDF then some 2
  else if 0xE0 ≤ lead ∧ lead ≤ 0xEF then some 3
  else if 0xF0 ≤ lead ∧ lead ≤ 0xF4 then some 4
  else none

/-- Reads the `have`-th byte onwards of a sequence of `width` bytes at `pos`. -/
def readTail (bytes : ByteArray) (pos width seen : Nat) (lo hi : UInt8) : Nat → Reading
  | 0 => .char width
  | missing + 1 =>
    match bytes[pos + seen]? with
    | none => .malformed none
    | some b =>
      if lo ≤ b ∧ b ≤ hi then readTail bytes pos width (seen + 1) 0x80 0xBF missing
      else .malformed (some seen)

def readAt (bytes : ByteArray) (pos : Nat) : Reading :=
  match bytes[pos]? with
  | none => .malformed none
  | some lead =>
    match width? lead with
    | none => .malformed (some 1)
    | some width =>
      let (lo, hi) := secondRange lead
      readTail bytes pos width 1 lo hi (width - 1)

/-- The first malformed place of a text: the length of the well-formed part before it, and the
length of the malformed sequence. -/
structure Fault where
  validUpTo : Nat
  length : Option Nat
  deriving Repr, DecidableEq

/-- Looks for a fault from `pos`; `fuel` bounds the number of characters. -/
def faultFrom (bytes : ByteArray) : Nat → Nat → Option Fault
  | 0, _ => none
  | fuel + 1, pos =>
    if pos < bytes.size then
      match readAt bytes pos with
      | .char width => faultFrom bytes fuel (pos + width)
      | .malformed length => some ⟨pos, length⟩
    else none

def fault? (bytes : ByteArray) : Option Fault := faultFrom bytes (bytes.size + 1) 0

/-- Decodes from `pos`, with one replacement character for each malformed sequence. -/
def decodeLossyFrom (bytes : ByteArray) : Nat → Nat → List Char
  | 0, _ => []
  | fuel + 1, pos =>
    if pos < bytes.size then
      match readAt bytes pos with
      | .char width =>
        (bytes.utf8DecodeChar? pos).getD '\ufffd' :: decodeLossyFrom bytes fuel (pos + width)
      | .malformed (some length) => '\ufffd' :: decodeLossyFrom bytes fuel (pos + length)
      | .malformed none => ['\ufffd']
    else []

def decodeLossy (bytes : ByteArray) : String :=
  String.ofList (decodeLossyFrom bytes (bytes.size + 1) 0)

/-- The character before `pos`, read from the nearest byte at most four back that can start one. -/
def charBefore? (bytes : ByteArray) (pos : Nat) : Option Char :=
  if pos = 0 then none else go (pos - 1) 3
where
  go (start : Nat) : Nat → Option Char
    | 0 => within start
    | back + 1 =>
      if start = 0 ∨ !(bytes[start]?).any isContinuation then within start else go (start - 1) back
  within (start : Nat) : Option Char :=
    match bytes.utf8DecodeChar? start with
    | some c => if start + c.utf8Size ≤ pos then some c else none
    | none => none

end PerlPattern.Utf8
