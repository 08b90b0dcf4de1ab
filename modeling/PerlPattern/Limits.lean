/-! # Resource limits

Two limits are put on every compiled pattern: how often a search may go back,
and how deep groups may be nested. The second is derived from the stack that
is available to matching, of which a part is held back. Memory is limited by
what a process can address.
-/

namespace PerlPattern

/-- The largest number of bytes that one request for memory can be granted. -/
def maxAllocation : Nat := Nat.pow 2 47 - 1

structure MatchLimits where
  matchLimit : Nat
  recursionLimit : Nat
  deriving Repr, DecidableEq

namespace MatchLimits

def defaultMatchLimit : Nat := 100000

/-- Stack bytes held back. -/
def stackReserve : Nat := 4096

/-- Stack bytes for one level of nesting. -/
def frameSize : Nat := 1000

def defaultThreadStack : Nat := 256 * 1024

/-- The limits for a number of stack bytes; three quarters of a thread's stack if none is given. -/
def ofStackBudget (available : Option Nat) : MatchLimits where
  matchLimit := defaultMatchLimit
  recursionLimit := max 1 ((available.getD (defaultThreadStack / 4 * 3) - stackReserve) / frameSize)

instance : Inhabited MatchLimits := ⟨ofStackBudget none⟩

def withMatchLimit (l : MatchLimits) (n : Nat) : MatchLimits := { l with matchLimit := n }

def withRecursionLimit (l : MatchLimits) (n : Nat) : MatchLimits := { l with recursionLimit := n }

end MatchLimits

end PerlPattern
