import PerlPattern.Span
import PerlPattern.Error
import PerlPattern.Limits

/-! # Match offsets

The groups of a match are kept in a flat array of slots. The first two thirds
hold a start and an end for each group; the last third is workspace that
nothing here writes. The number of slots alone says how many groups fit.
-/

namespace PerlPattern

structure MatchOffsets where
  slots : Array (Option Nat)
  deriving Repr, DecidableEq

namespace MatchOffsets

def slotSize : Nat := 16

/-- Room for a number of groups, at least one. -/
def ofGroupCapacity (groups : Nat) : Result MatchOffsets :=
  let count := 3 * max groups 1
  if maxAllocation < slotSize * count then .error .outOfMemory
  else .ok ⟨Array.replicate count none⟩

/-- Room for the whole match and so many capture groups. -/
def ofCaptureCount (captures : Nat) : Result MatchOffsets := ofGroupCapacity (captures + 1)

def size (o : MatchOffsets) : Nat := o.slots.size

def groupCapacity (o : MatchOffsets) : Nat := o.slots.size / 3

def clear (o : MatchOffsets) : MatchOffsets := ⟨Array.replicate o.slots.size none⟩

/-- Records a group; one that does not fit is ignored. -/
def setGroup (o : MatchOffsets) (group : Nat) (span : Span) : MatchOffsets :=
  if group < o.groupCapacity then
    ⟨(o.slots.setIfInBounds (2 * group) (some span.start)).setIfInBounds (2 * group + 1)
      (some span.stop)⟩
  else o

def group (o : MatchOffsets) (group : Nat) : Option Span :=
  if group < o.groupCapacity then
    match o.slots[2 * group]?, o.slots[2 * group + 1]? with
    | some (some start), some (some stop) => some ⟨start, stop⟩
    | _, _ => none
  else none

def groups (o : MatchOffsets) : Groups := (List.range o.groupCapacity).map o.group

end MatchOffsets

end PerlPattern
