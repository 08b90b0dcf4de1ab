import PerlPattern.Look

/-! # Patterns for backtracking search

The tree of a pattern that may hold look-around groups, back references,
atomic groups and conditionals. Parts that need none of these are kept close
to their text, so that a run of them can be searched in linear time.
-/

namespace PerlPattern.Backtrack

inductive LookAround where
  | ahead
  | notAhead
  | behind
  | notBehind
  deriving Repr, DecidableEq

def LookAround.isBehind : LookAround → Bool
  | .behind | .notBehind => true
  | _ => false

def LookAround.isNegative : LookAround → Bool
  | .notAhead | .notBehind => true
  | _ => false

inductive Tree where
  | empty
  | any (newline : Bool)
  | look (l : Look)
  | literal (c : Char) (caseless : Bool)
  | concat (parts : List Tree)
  | alternation (branches : List Tree)
  | group (child : Tree)
  | around (kind : LookAround) (child : Tree)
  | quantified (child : Tree) (min : Nat) (max : Option Nat) (greedy : Bool)
  /-- One character, matched by the linear-time pattern `text`. -/
  | delegate (text : String) (caseless : Bool)
  | backref (group : Nat)
  | atomic (child : Tree)
  /-- Moves the start of the match to here. -/
  | keepOut
  /-- Holds where the search started. -/
  | searchStart
  /-- Holds if a group has matched. -/
  | groupMatched (group : Nat)
  | conditional (condition yes no : Tree)
  deriving Inhabited

namespace Tree

def isEmpty : Tree → Bool
  | .empty => true
  | _ => false

/-- Assertions, look-around groups and nothing at all cannot be repeated. -/
def isQuantifiable : Tree → Bool
  | .empty | .look _ | .around _ _ => false
  | _ => true

/-- An assertion on words is left to the backtracking search. -/
def isWordLook : Look → Bool
  | .word _ _ => true
  | _ => false

end Tree

/-- A pattern as read: the tree, the groups that something refers to, and the index of each
group name. -/
structure Reading where
  tree : Tree
  referenced : List Nat
  names : List (String × Nat)

/-- What is wrong with the text of a pattern. -/
inductive TextFault where
  | unexpectedText
  | expectedCloseParen
  | expectedTrueBranch
  | unclosedParen
  | tooDeep
  | trailingBackslash
  | invalidEscape (escape : String)
  | unclosedUnicodeName
  | invalidHex
  | invalidCodePoint
  | invalidClass
  | unknownFlag (text : String)
  | nonUnicode
  | invalidBackref
  | notQuantifiable
  | invalidGroupName
  | unknownGroupName (name : String)
  deriving Repr, DecidableEq

/-- What is wrong with a pattern whose text is well formed. -/
inductive TreeFault where
  | linearUnreadable
  | linearTooLarge
  | lookBehindNotConstant
  | invalidBackref
  | numberedWithNames
  deriving Repr, DecidableEq

inductive Fault where
  | text (position : Nat) (fault : TextFault)
  | tree (fault : TreeFault)
  deriving Repr, DecidableEq

def TextFault.message : TextFault → String
  | .unexpectedText => "General parsing error: end of string not reached"
  | .expectedCloseParen => "General parsing error: expected close paren"
  | .expectedTrueBranch =>
    "General parsing error: expected conditional to be a backreference or at least an " ++
      "expression for when the condition is true"
  | .unclosedParen => "Opening parenthesis without closing parenthesis"
  | .tooDeep => "Pattern too deeply nested"
  | .trailingBackslash => "Backslash without following character"
  | .invalidEscape escape => "Invalid escape: " ++ escape
  | .unclosedUnicodeName => "Unicode escape not closed"
  | .invalidHex => "Invalid hex escape"
  | .invalidCodePoint => "Invalid codepoint for hex or unicode escape"
  | .invalidClass => "Invalid character class"
  | .unknownFlag text => "Unknown group flag: " ++ text
  | .nonUnicode => "Disabling Unicode not supported"
  | .invalidBackref => "Invalid back reference"
  | .notQuantifiable => "Target of repeat operator is invalid"
  | .invalidGroupName => "Could not parse group name"
  | .unknownGroupName name => "Invalid group name in back reference: " ++ name

def TreeFault.message : TreeFault → String
  | .linearUnreadable => "Regex error: error parsing pattern 0"
  | .linearTooLarge => "Regex error: error building NFA"
  | .lookBehindNotConstant => "Look-behind assertion without constant size"
  | .invalidBackref => "Invalid back reference"
  | .numberedWithNames =>
    "Numbered backref/call not allowed because named group was used, use a named backref instead"

namespace Fault

def message : Fault → String
  | .text position fault => s!"Parsing error at position {position}: " ++ fault.message
  | .tree fault => "Error compiling regex: " ++ fault.message

/-- Where the fault lies, if it lies in the text. -/
def position? : Fault → Option Nat
  | .text position _ => some position
  | .tree _ => none

/-- Moves the position of a fault back over `width` bytes put in front of the pattern. -/
def rebase (width : Nat) : Fault → Fault
  | .text position fault => .text (position - width) fault
  | .tree fault => .tree fault

end Fault

end PerlPattern.Backtrack
