import PerlPattern.Linear.Reader
import PerlPattern.Unicode.CaseFold
import PerlPattern.Unicode.Property

/-! # The meaning of a regular expression

Interpreting a syntax tree settles its flags: every class becomes a set of
bytes or of characters, every anchor an assertion, every quantifier greedy or
lazy. What cannot be said under the flags in force is refused: a character
class that needs more than a byte without the Unicode flag, an unknown
property, or, over text, anything that could match part of a character.
-/

namespace PerlPattern.Linear

inductive Expr where
  | empty
  | look (l : Look)
  /-- One byte. -/
  | byte (set : CodeSet)
  /-- One well-formed character. -/
  | char (set : CodeSet)
  | quantified (child : Expr) (min : Nat) (max : Option Nat) (greedy : Bool)
  | capture (index : Nat) (child : Expr)
  | concat (parts : List Expr)
  | alternation (branches : List Expr)
  deriving Inhabited

namespace Expr

mutual

/-- Can the expression match nothing but the empty string? -/
def isEmptyOnly : Expr → Bool
  | .empty | .look _ => true
  | .byte _ | .char _ => false
  | .quantified child _ max _ => max == some 0 || child.isEmptyOnly
  | .capture _ child => child.isEmptyOnly
  | .concat parts => allEmptyOnly parts
  | .alternation branches => allEmptyOnly branches

def allEmptyOnly : List Expr → Bool
  | [] => true
  | e :: rest => e.isEmptyOnly && allEmptyOnly rest

end

mutual

/-- Does every match consume something? -/
def consumes : Expr → Bool
  | .empty | .look _ => false
  | .byte _ | .char _ => true
  | .quantified child min _ _ => min != 0 && child.consumes
  | .capture _ child => child.consumes
  | .concat parts => anyConsumes parts
  | .alternation branches => allConsume branches

def anyConsumes : List Expr → Bool
  | [] => false
  | e :: rest => e.consumes || anyConsumes rest

def allConsume : List Expr → Bool
  | [] => true
  | e :: rest => e.consumes && allConsume rest

end

mutual

/-- The number of states that the expression needs, counting each copy of a repeated part. -/
def stateCount : Expr → Nat
  | .empty => 1
  | .look _ | .byte _ => 1
  | .char set => 1 + (set.intervals.foldl (fun n p => if p.2 < 0x80 then n else n + 1) 0) / 2
  | .quantified child min max _ => child.stateCount * (max.getD (min + 1)) + 2
  | .capture _ child => child.stateCount + 2
  | .concat parts => sumStateCount parts
  | .alternation branches => sumStateCount branches + 2

def sumStateCount : List Expr → Nat
  | [] => 0
  | e :: rest => e.stateCount + sumStateCount rest

end

mutual

/-- One more than the highest capture index that occurs. -/
def captureBound : Expr → Nat
  | .quantified child _ _ _ => child.captureBound
  | .capture index child => max (index + 1) child.captureBound
  | .concat parts => captureBoundOf parts
  | .alternation branches => captureBoundOf branches
  | _ => 1

def captureBoundOf : List Expr → Nat
  | [] => 1
  | e :: rest => max e.captureBound (captureBoundOf rest)

end

/-- Repeats an expression. Repeating what only matches the empty string once is enough, and no
repetition at all leaves nothing, captures included. -/
def repeated (child : Expr) (min : Nat) (max : Option Nat) (greedy : Bool) : Expr :=
  let (min, max) :=
    if child.isEmptyOnly then (Nat.min min 1, some ((max.map (Nat.min · 1)).getD 1)) else (min, max)
  if max = some 0 then .empty
  else if min = 1 ∧ max = some 1 then child
  else .quantified child min max greedy

end Expr

/-- The flags in force at a place of a pattern. -/
structure Flags where
  caseless : Bool := false
  multiLine : Bool := false
  dotMatchesAll : Bool := false
  swapGreed : Bool := false
  unicode : Bool := true
  crlf : Bool := false
  /-- Is the subject known to be text, so that no match may split a character? -/
  overText : Bool := false
  deriving Repr, Inhabited

namespace Flags

def change (f : Flags) (c : FlagChange) : Flags :=
  match c.flag with
  | .caseless => { f with caseless := c.on }
  | .multiLine => { f with multiLine := c.on }
  | .dotMatchesAll => { f with dotMatchesAll := c.on }
  | .swapGreed => { f with swapGreed := c.on }
  | .unicode => { f with unicode := c.on }
  | .crlf => { f with crlf := c.on }
  | .extended => f

def changeAll (f : Flags) (changes : List FlagChange) : Flags := changes.foldl change f

/-- The largest member that a class can have. -/
def top (f : Flags) : Nat := if f.unicode then 0x10FFFF else 0xFF

def fold (f : Flags) (set : CodeSet) : CodeSet :=
  if !f.caseless then set
  else if f.unicode then Unicode.CaseFold.close set
  else Unicode.CaseFold.closeAscii set

/-- Case folding comes before negation. -/
def foldAndNegate (f : Flags) (negated : Bool) (set : CodeSet) : CodeSet :=
  if negated then (f.fold set).complement f.top else f.fold set

/-- The expression of one class; over text, a set of bytes must be ASCII. -/
def oneOf (f : Flags) (set : CodeSet) : Option Expr :=
  if f.unicode then some (.char set)
  else if f.overText ∧ set.intervals.any (0x7F < ·.2) then none
  else some (.byte set)

end Flags

def AsciiClass.set : AsciiClass → CodeSet
  | .alnum => .ofTable "30-39 41-5A 61-7A"
  | .alpha => .ofTable "41-5A 61-7A"
  | .ascii => .ofTable "0-7F"
  | .blank => .ofTable "9 20"
  | .cntrl => .ofTable "0-1F 7F"
  | .digit => .ofTable "30-39"
  | .graph => .ofTable "21-7E"
  | .lower => .ofTable "61-7A"
  | .print => .ofTable "20-7E"
  | .punct => .ofTable "21-2F 3A-40 5B-60 7B-7E"
  | .space => .ofTable "9-D 20"
  | .upper => .ofTable "41-5A"
  | .word => .ofTable "30-39 41-5A 5F 61-7A"
  | .xdigit => .ofTable "30-39 41-46 61-66"

def PerlClass.set (cls : PerlClass) (unicode : Bool) : CodeSet :=
  match cls, unicode with
  | .digit, true => Unicode.decimal
  | .space, true => Unicode.whiteSpace
  | .word, true => Unicode.word
  | .digit, false => AsciiClass.digit.set
  | .space, false => AsciiClass.space.set
  | .word, false => AsciiClass.word.set

/-- Splits at the first place where `mark` stands. -/
def splitAtMark (mark : List Char) (before : List Char) : List Char → Option (String × String)
  | [] => none
  | c :: rest =>
    if mark.isPrefixOf (c :: rest) then
      some (String.ofList before.reverse, String.ofList ((c :: rest).drop mark.length))
    else splitAtMark mark (c :: before) rest

/-- The set of a property query, and whether the query itself says "not". -/
def propertySet? (query : List Char) : Option (CodeSet × Bool) :=
  match splitAtMark ['!', '='] [] query with
  | some (name, value) => (Unicode.Property.valued? name value).map (·, true)
  | none =>
    match (splitAtMark [':'] [] query).orElse fun _ => splitAtMark ['='] [] query with
    | some (name, value) => (Unicode.Property.valued? name value).map (·, false)
    | none => (Unicode.Property.named? (String.ofList query)).map (·, false)

namespace Flags

def property? (f : Flags) (query : List Char) (negated : Bool) : Option CodeSet := do
  if !f.unicode then failure
  let (set, inverted) ← propertySet? query
  return f.foldAndNegate (negated != inverted) set

def perl (f : Flags) (cls : PerlClass) (negated : Bool) : CodeSet :=
  if negated then (cls.set f.unicode).complement f.top else cls.set f.unicode

/-- The member that a literal adds to a class; without the Unicode flag it must be one byte. -/
def member? (f : Flags) (l : Literal) : Option Nat :=
  if f.unicode ∨ l.char.toNat < 0x80 ∨ (l.isByte ∧ l.char.toNat < 0x100) then some l.char.toNat
  else none

mutual

def itemSet? (f : Flags) : ClassItem → Option CodeSet
  | .empty => some {}
  | .literal l => (f.member? l).map .single
  | .range a b => do return .interval (← f.member? a) (← f.member? b)
  | .ascii cls negated => some (f.foldAndNegate negated cls.set)
  | .perl cls negated => some (f.perl cls negated)
  | .property query negated => f.property? query negated
  | .bracketed negated set => do return f.foldAndNegate negated (← classSet? f set)
  | .union items => unionSet? f items

def unionSet? (f : Flags) : List ClassItem → Option CodeSet
  | [] => some {}
  | i :: rest => do return (← itemSet? f i).union (← unionSet? f rest)

def classSet? (f : Flags) : ClassSet → Option CodeSet
  | .item i => itemSet? f i
  | .binary op lhs rhs => do
    let l := f.fold (← classSet? f lhs)
    let r := f.fold (← classSet? f rhs)
    return match op with
      | .intersection => l.inter f.top r
      | .difference => l.diff f.top r
      | .symmetricDifference => l.symmDiff f.top r

end

/-- A literal stands for itself, its case variants, or, as `\xHH`, a byte beyond ASCII. -/
def literal? (f : Flags) (l : Literal) : Option Expr :=
  let n := l.char.toNat
  if f.unicode then
    some (.char (if f.caseless then .ofList ((Unicode.CaseFold.variants n).map fun v => (v, v)) else .single n))
  else if n < 0x80 then some (.byte (f.fold (.single n)))
  else if l.isByte then if f.overText then none else some (.byte (.single n))
  else some (.char (.single n))

def dot (f : Flags) : CodeSet :=
  if f.dotMatchesAll then .interval 0 f.top
  else if f.crlf then CodeSet.complement f.top (.ofTable "A D")
  else CodeSet.complement f.top (.single 0x0A)

def anchor (f : Flags) : Anchor → Look
  | .caret => if f.multiLine then if f.crlf then .lineStartCrlf else .lineStart else .textStart
  | .dollar => if f.multiLine then if f.crlf then .lineEndCrlf else .lineEnd else .textEnd
  | .textStart => .textStart
  | .textEnd => .textEnd
  | .word edge => .word edge f.unicode

end Flags

mutual

/-- Interprets a tree under the flags before it; the second result is the flags after it. -/
def Syntax.interpret? (f : Flags) : Syntax → Option (Expr × Flags)
  | .empty => some (.empty, f)
  | .flags changes => some (.empty, f.changeAll changes)
  | .literal l => (f.literal? l).map (·, f)
  | .dot => (f.oneOf f.dot).map (·, f)
  | .anchor a => some (.look (f.anchor a), f)
  | .perl cls negated => (f.oneOf (f.perl cls negated)).map (·, f)
  | .property query negated => do return (.char (← f.property? query negated), f)
  | .bracketed negated set => do
    return (← f.oneOf (f.foldAndNegate negated (← f.classSet? set)), f)
  | .quantified child min max greedy => do
    let (e, after) ← child.interpret? f
    return (e.repeated min max (greedy != after.swapGreed), after)
  | .group (.capture index) child => do
    return (.capture index (← child.interpret? f).1, f)
  | .group (.flags changes) child => do
    return ((← child.interpret? (f.changeAll changes)).1, f)
  | .alternation branches => do
    let (es, after) ← interpretAll? f branches
    return (.alternation es, after)
  | .concat parts => do
    let (es, after) ← interpretAll? f parts
    return (.concat es, after)

/-- Interprets parts from left to right; flags set in one hold in the next. -/
def interpretAll? (f : Flags) : List Syntax → Option (List Expr × Flags)
  | [] => some ([], f)
  | s :: rest => do
    let (e, after) ← s.interpret? f
    let (es, last) ← interpretAll? after rest
    return (e :: es, last)

end

end PerlPattern.Linear
