import PerlPattern.Backtrack.Tree

/-! # Sizes and difficulty

A part of a pattern has a least size in characters and may have a constant
one; both decide where look-behind is allowed and which runs of parts can be
searched in linear time. A part is difficult when it needs backtracking
search: look-around, references and groups referred to, atomic groups,
assertions on words, and whatever holds one of these.
-/

namespace PerlPattern.Backtrack.Tree

mutual

/-- The number of capture groups in a tree. -/
def groupCount : Tree → Nat
  | .group child => child.groupCount + 1
  | .around _ child => child.groupCount
  | .quantified child _ _ _ => child.groupCount
  | .atomic child => child.groupCount
  | .conditional condition yes no => condition.groupCount + yes.groupCount + no.groupCount
  | .concat parts => groupCountOf parts
  | .alternation branches => groupCountOf branches
  | _ => 0

def groupCountOf : List Tree → Nat
  | [] => 0
  | t :: rest => t.groupCount + groupCountOf rest

end

mutual

/-- The least number of characters that a match takes. -/
def minSize : Tree → Nat
  | .any _ | .literal _ _ | .delegate _ _ => 1
  | .group child => child.minSize
  | .quantified child min _ _ => child.minSize * min
  | .atomic child => child.minSize
  | .conditional condition yes no => condition.minSize + Nat.min yes.minSize no.minSize
  | .concat parts => sumMinSize parts
  | .alternation branches => leastMinSize branches
  | _ => 0

def sumMinSize : List Tree → Nat
  | [] => 0
  | t :: rest => t.minSize + sumMinSize rest

def leastMinSize : List Tree → Nat
  | [] => 0
  | [t] => t.minSize
  | t :: rest => Nat.min t.minSize (leastMinSize rest)

end

mutual

/-- Does every match take the same number of characters? -/
def isConstSize : Tree → Bool
  | .backref _ => false
  | .group child => child.isConstSize
  | .quantified child min max _ => child.isConstSize && max == some min
  | .atomic child => child.isConstSize
  | .conditional condition yes no =>
    condition.isConstSize && yes.isConstSize && no.isConstSize &&
      condition.minSize + yes.minSize == no.minSize
  | .concat parts => allConstSize parts
  | .alternation branches => branchesConstSize branches
  | _ => true

def allConstSize : List Tree → Bool
  | [] => true
  | t :: rest => t.isConstSize && allConstSize rest

/-- All branches take the size of the first one. -/
def branchesConstSize : List Tree → Bool
  | [] => true
  | t :: rest => t.isConstSize && allOfSize t.minSize rest

def allOfSize (n : Nat) : List Tree → Bool
  | [] => true
  | t :: rest => t.isConstSize && t.minSize == n && allOfSize n rest

end

mutual

/-- Does a tree need backtracking search? Its first group has the index `first`, and `referenced`
lists the groups that something refers to. -/
def isHard (referenced : List Nat) (first : Nat) : Tree → Bool
  | .look l => isWordLook l
  | .group child => referenced.contains first || child.isHard referenced (first + 1)
  | .quantified child _ _ _ => child.isHard referenced first
  | .concat parts => anyHard referenced first parts
  | .alternation branches => anyHard referenced first branches
  | .empty | .any _ | .literal _ _ | .delegate _ _ => false
  | .around _ _ | .backref _ | .atomic _ | .keepOut | .searchStart | .groupMatched _
  | .conditional _ _ _ => true

def anyHard (referenced : List Nat) (first : Nat) : List Tree → Bool
  | [] => false
  | t :: rest => t.isHard referenced first || anyHard referenced (first + t.groupCount) rest

end

mutual

/-- Does every reference name a group that was opened before it? Groups below `first` have been. -/
def refersBack (first : Nat) : Tree → Bool
  | .backref g | .groupMatched g => g < first
  | .group child => child.refersBack (first + 1)
  | .around _ child => child.refersBack first
  | .quantified child _ _ _ => child.refersBack first
  | .atomic child => child.refersBack first
  | .conditional condition yes no =>
    condition.refersBack first && yes.refersBack (first + condition.groupCount) &&
      no.refersBack (first + condition.groupCount + yes.groupCount)
  | .concat parts => allReferBack first parts
  | .alternation branches => allReferBack first branches
  | _ => true

def allReferBack (first : Nat) : List Tree → Bool
  | [] => true
  | t :: rest => t.refersBack first && allReferBack (first + t.groupCount) rest

end

mutual

/-- The text that a tree matches literally, if it is a case-sensitive literal. -/
def literalText? : Tree → Option (List Char)
  | .literal c false => some [c]
  | .concat parts => literalTextOf? parts
  | _ => none

def literalTextOf? : List Tree → Option (List Char)
  | [] => some []
  | t :: rest => do return (← t.literalText?) ++ (← literalTextOf? rest)

end

end PerlPattern.Backtrack.Tree
