import PerlPattern.Backtrack.Reader

/-! # Writing a tree as a linear-time pattern

A tree without difficult parts is written as a pattern of the linear-time
language. Groups without capture go where precedence needs them: around an
alternation within a sequence, and around anything longer than one element
before a quantifier.
-/

namespace PerlPattern.Backtrack.Tree

def looseGroup (wrap : Bool) (text : List Char) : List Char :=
  if wrap then "(?:".toList ++ text ++ [')'] else text

def caselessGroup (caseless : Bool) (text : List Char) : List Char :=
  if caseless then "(?i:".toList ++ text ++ [')'] else text

def lookText : Look → List Char
  | .textStart => ['^']
  | .textEnd => ['$']
  | .lineStart => "(?m:^)".toList
  | .lineEnd => "(?m:$)".toList
  | _ => []

def boundsText (min : Nat) (max : Option Nat) : List Char :=
  let inBraces (text : List Char) : List Char := Char.ofNat 0x7B :: text ++ [Char.ofNat 0x7D]
  match min, max with
  | 0, some 1 => ['?']
  | 0, none => ['*']
  | 1, none => ['+']
  | min, none => inBraces ((toString min).toList ++ [','])
  | min, some max =>
    if min = max then inBraces (toString min).toList
    else inBraces ((toString min).toList ++ ',' :: (toString max).toList)

mutual

/-- The text of a tree, fit to stand where operators of `precedence` are applied: 0 for none, 1 for
a branch, 2 for a part of a sequence, 3 before a quantifier. -/
def linearText (precedence : Nat) : Tree → List Char
  | .any newline => if newline then "(?s:.)".toList else ['.']
  | .literal c caseless => caselessGroup caseless (Reader.quoted c)
  | .look l => lookText l
  | .concat parts => looseGroup (1 < precedence) (partsText parts)
  | .alternation branches => looseGroup (0 < precedence) (branchesText branches)
  | .group child => '(' :: child.linearText 0 ++ [')']
  | .quantified child min max greedy =>
    looseGroup (2 < precedence)
      (child.linearText 3 ++ boundsText min max ++ if greedy then [] else ['?'])
  | .delegate text caseless => caselessGroup caseless text.toList
  | _ => []

def partsText : List Tree → List Char
  | [] => []
  | t :: rest => t.linearText 2 ++ partsText rest

def branchesText : List Tree → List Char
  | [] => []
  | [t] => t.linearText 1
  | t :: rest => t.linearText 1 ++ '|' :: branchesText rest

end

end PerlPattern.Backtrack.Tree
