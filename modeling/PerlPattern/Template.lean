import PerlPattern.Buffer

/-! # Replacement templates

A template is read once into tokens: spans of it that are copied as they are,
and references to capture groups. A reference is written `$N`, `${N}`, `\N` or
`\{N}`. A backslash or a dollar sign right after a plain backslash takes its
place, so that `\\` stands for a backslash and `\$` for a dollar sign.
-/

namespace PerlPattern

inductive TemplateToken where
  /-- Bytes copied from the template. -/
  | literal (span : Span)
  /-- The bytes of a group. -/
  | backref (group : Nat)
  deriving Repr, DecidableEq

namespace Template

def backslash : UInt8 := 0x5C

def dollar : UInt8 := 0x24

def isSigil (b : UInt8) : Bool := b == backslash || b == dollar

def isDigit (b : UInt8) : Bool := 0x30 ≤ b && b ≤ 0x39

/-- The largest group number; greater ones are cut down to it. -/
def maxGroup : Nat := Nat.pow 2 64 - 1

def decimalValue (digits : List UInt8) : Nat :=
  digits.foldl (fun n d => n * 10 + (d.toNat - 0x30)) 0

def readDigits? (l : List UInt8) : Option (Nat × Nat) :=
  let digits := l.takeWhile isDigit
  if digits.isEmpty then none else some (min (decimalValue digits) maxGroup, digits.length)

/-- Reads what follows the sign of a reference: the group, and the number of bytes taken. -/
def readBackref? (l : List UInt8) : Option (Nat × Nat) :=
  match l with
  | [] => none
  | b :: rest =>
    if b = 0x7B then
      match readDigits? rest with
      | none => none
      | some (group, count) =>
        if rest[count]? = some 0x7D then some (group, count + 2) else none
    else readDigits? l

/-- The token of a literal part, if there is anything in it. -/
def literalToken (start stop : Nat) : List TemplateToken :=
  if start < stop then [.literal ⟨start, stop⟩] else []

/-- Reads tokens from `pos` on; a literal part is open since `from_`, and `escaping` says that a
backslash that is not part of a reference stands right before. -/
def tokensFrom (pos from_ : Nat) (escaping : Bool) (l : List UInt8) : List TemplateToken :=
  match l with
  | [] => literalToken from_ pos
  | b :: rest =>
    if isSigil b then
      if escaping then literalToken from_ (pos - 1) ++ tokensFrom (pos + 1) pos false rest
      else
        match readBackref? rest with
        | some (group, count) =>
          literalToken from_ pos ++ .backref group ::
            tokensFrom (pos + 1 + count) (pos + 1 + count) false (rest.drop count)
        | none => tokensFrom (pos + 1) from_ (b == backslash) rest
    else tokensFrom (pos + 1) from_ false rest
termination_by l.length
decreasing_by
  all_goals
    simp only [List.length_cons, List.length_drop]
    omega

end Template

structure Template where
  raw : ByteArray
  tokens : List TemplateToken

namespace Template

def parse (raw : ByteArray) : Template := ⟨raw, tokensFrom 0 0 false raw.data.toList⟩

def hasBackrefs (t : Template) : Bool :=
  t.tokens.any fun
    | .backref _ => true
    | .literal _ => false

/-- The bytes of a group: nothing if it lies past the match count, was not recorded, or does not
lie within the subject. -/
def groupBytes (subject : ByteArray) (offsets : MatchOffsets) (matchCount group : Nat) :
    ByteArray :=
  if group < matchCount then
    ((offsets.group group).bind fun span => span.slice? subject).getD .empty
  else .empty

def tokenSize (subject : ByteArray) (offsets : MatchOffsets) (matchCount : Nat) :
    TemplateToken → Nat
  | .literal span => span.width
  | .backref group => (groupBytes subject offsets matchCount group).size

def tokenBytes (t : Template) (subject : ByteArray) (offsets : MatchOffsets) (matchCount : Nat) :
    TemplateToken → ByteArray
  | .literal span => t.raw.extract span.start span.stop
  | .backref group => groupBytes subject offsets matchCount group

/-- The length of the expansion for one match. -/
def expandedSize (t : Template) (subject : ByteArray) (offsets : MatchOffsets)
    (matchCount : Nat) : Nat :=
  t.tokens.foldr (fun token size => tokenSize subject offsets matchCount token + size) 0

/-- Appends the expansion for one match, token by token. -/
def expandInto (t : Template) (out : OutputBuffer) (subject : ByteArray)
    (offsets : MatchOffsets) (matchCount : Nat) : OutputBuffer :=
  t.tokens.foldl (fun out token => out.extend (t.tokenBytes subject offsets matchCount token)) out

end Template

end PerlPattern
