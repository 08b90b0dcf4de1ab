import PerlPattern.Look

/-! # Regular expressions as written

The syntax tree of a regular expression without look-around groups and back
references. Flags stand where they are written; what they mean for the parts
after them is settled when the tree is interpreted.
-/

namespace PerlPattern.Linear

/-- A character of a pattern. `isByte` marks `\xHH`, which can stand for a single byte. -/
structure Literal where
  char : Char
  isByte : Bool := false
  deriving Repr, DecidableEq, Inhabited

/-- The letter flags of a group or of a lone `(?…)`. -/
inductive Flag where
  | caseless
  | multiLine
  | dotMatchesAll
  | swapGreed
  | unicode
  | crlf
  | extended
  deriving Repr, DecidableEq

/-- A flag to set or, after the hyphen, to clear. -/
structure FlagChange where
  flag : Flag
  on : Bool
  deriving Repr, DecidableEq

/-- Classes written with one letter. -/
inductive PerlClass where
  | digit
  | space
  | word
  deriving Repr, DecidableEq

/-- Classes written `[:name:]`. -/
inductive AsciiClass where
  | alnum | alpha | ascii | blank | cntrl | digit | graph | lower | print | punct
  | space | upper | word | xdigit
  deriving Repr, DecidableEq

inductive SetOp where
  | intersection
  | difference
  | symmetricDifference
  deriving Repr, DecidableEq

mutual

/-- One item of a bracketed class. -/
inductive ClassItem where
  | empty
  | literal (l : Literal)
  | range (first last : Literal)
  | ascii (cls : AsciiClass) (negated : Bool)
  | perl (cls : PerlClass) (negated : Bool)
  | property (query : List Char) (negated : Bool)
  | bracketed (negated : Bool) (set : ClassSet)
  | union (items : List ClassItem)

/-- The inside of a bracketed class; operators bind equally and to the left. -/
inductive ClassSet where
  | item (i : ClassItem)
  | binary (op : SetOp) (lhs rhs : ClassSet)

end

/-- The kinds of assertion that syntax can name before flags are known. -/
inductive Anchor where
  | caret
  | dollar
  | textStart
  | textEnd
  | word (edge : WordEdge)
  deriving Repr, DecidableEq

inductive GroupKind where
  | capture (index : Nat)
  | flags (changes : List FlagChange)
  deriving Repr, DecidableEq

inductive Syntax where
  | empty
  | flags (changes : List FlagChange)
  | literal (l : Literal)
  | dot
  | anchor (a : Anchor)
  | perl (cls : PerlClass) (negated : Bool)
  | property (query : List Char) (negated : Bool)
  | bracketed (negated : Bool) (set : ClassSet)
  | quantified (child : Syntax) (min : Nat) (max : Option Nat) (greedy : Bool)
  | group (kind : GroupKind) (child : Syntax)
  | alternation (branches : List Syntax)
  | concat (parts : List Syntax)

/-! ## Nesting

Every class, quantifier, group, alternation and sequence is one level, and so
are a nested class, a union of items and an operator inside a class.
-/

mutual

def ClassItem.nesting : ClassItem → Nat
  | .bracketed _ set => set.nesting + 1
  | .union items => nestingOfItems items + 1
  | _ => 0

def ClassSet.nesting : ClassSet → Nat
  | .item i => i.nesting
  | .binary _ lhs rhs => max lhs.nesting rhs.nesting + 1

def nestingOfItems : List ClassItem → Nat
  | [] => 0
  | i :: rest => max i.nesting (nestingOfItems rest)

end

mutual

def Syntax.nesting : Syntax → Nat
  | .bracketed _ set => set.nesting + 1
  | .quantified child _ _ _ => child.nesting + 1
  | .group _ child => child.nesting + 1
  | .alternation branches => nestingOfParts branches + 1
  | .concat parts => nestingOfParts parts + 1
  | _ => 0

def nestingOfParts : List Syntax → Nat
  | [] => 0
  | s :: rest => max s.nesting (nestingOfParts rest)

end

/-- A sequence of parts; one part stands for itself. -/
def Syntax.ofParts : List Syntax → Syntax
  | [] => .empty
  | [s] => s
  | parts => .concat parts

/-- Branches of an alternation; one branch stands for itself. -/
def Syntax.ofBranches : List Syntax → Syntax
  | [] => .empty
  | [s] => s
  | branches => .alternation branches

def ClassSet.ofItems : List ClassItem → ClassSet
  | [] => .item .empty
  | [i] => .item i
  | items => .item (.union items)

end PerlPattern.Linear
