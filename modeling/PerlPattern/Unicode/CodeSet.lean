/-! # Sets of code points

A set of natural numbers (code points, or byte values) is kept as ordered,
disjoint, closed intervals. The Boolean operations rebuild that normal form,
so membership is a binary search.
-/

namespace PerlPattern

/-- A finite union of closed intervals, in increasing order. -/
structure CodeSet where
  intervals : Array (Nat × Nat) := #[]
  deriving Repr, DecidableEq, Inhabited

namespace CodeSet

/-- Joins an interval to the last one when they touch or overlap. -/
def pushInterval (acc : Array (Nat × Nat)) (lo hi : Nat) : Array (Nat × Nat) :=
  match acc.back? with
  | some (a, b) => if lo ≤ b + 1 then acc.pop.push (a, max b hi) else acc.push (lo, hi)
  | none => acc.push (lo, hi)

/-- The set of a list of intervals that is ordered by lower end. -/
def ofOrdered (l : List (Nat × Nat)) : CodeSet :=
  ⟨l.foldl (fun acc p => pushInterval acc p.1 p.2) #[]⟩

def ofList (l : List (Nat × Nat)) : CodeSet :=
  ofOrdered (l.mergeSort fun p q => p.1 ≤ q.1)

def interval (lo hi : Nat) : CodeSet := ⟨#[(lo, hi)]⟩

def single (n : Nat) : CodeSet := interval n n

def isEmpty (s : CodeSet) : Bool := s.intervals.isEmpty

def union (s t : CodeSet) : CodeSet :=
  ofOrdered (s.intervals.toList.merge t.intervals.toList fun p q => p.1 ≤ q.1)

/-- The numbers up to `top` outside an ordered list of intervals that starts at or above `next`. -/
def gaps (top : Nat) (next : Nat) : List (Nat × Nat) → List (Nat × Nat)
  | [] => if next ≤ top then [(next, top)] else []
  | (lo, hi) :: rest =>
    if next < lo then (next, lo - 1) :: gaps top (hi + 1) rest else gaps top (hi + 1) rest

/-- The complement within `0 … top`. -/
def complement (top : Nat) (s : CodeSet) : CodeSet :=
  ⟨(gaps top 0 s.intervals.toList).toArray⟩

def inter (top : Nat) (s t : CodeSet) : CodeSet :=
  ((s.complement top).union (t.complement top)).complement top

def diff (top : Nat) (s t : CodeSet) : CodeSet := s.inter top (t.complement top)

def symmDiff (top : Nat) (s t : CodeSet) : CodeSet := (s.diff top t).union (t.diff top s)

/-- Binary search between two interval indexes; `fuel` bounds the number of halvings. -/
def containsBetween (s : Array (Nat × Nat)) (n : Nat) : Nat → Nat → Nat → Bool
  | 0, _, _ => false
  | fuel + 1, low, high =>
    if low < high then
      let mid := (low + high) / 2
      match s[mid]? with
      | none => false
      | some (lo, hi) =>
        if n < lo then containsBetween s n fuel low mid
        else if hi < n then containsBetween s n fuel (mid + 1) high
        else true
    else false

def contains (s : CodeSet) (n : Nat) : Bool :=
  containsBetween s.intervals n (s.intervals.size + 1) 0 s.intervals.size

/-! ## Tables in text form

A table is written as intervals `41-5A` or single numbers `5F`, in hexadecimal,
with blanks between them, in increasing order.
-/

def hexDigit? (c : Char) : Option Nat :=
  if '0' ≤ c ∧ c ≤ '9' then some (c.toNat - '0'.toNat)
  else if 'A' ≤ c ∧ c ≤ 'F' then some (c.toNat - 'A'.toNat + 10)
  else if 'a' ≤ c ∧ c ≤ 'f' then some (c.toNat - 'a'.toNat + 10)
  else none

/-- Reads a table, given the lower end already read and the digits so far. -/
def readTable (acc : Array (Nat × Nat)) (lower value : Option Nat) : List Char → Array (Nat × Nat)
  | [] => finish acc lower value
  | c :: rest =>
    match hexDigit? c with
    | some d => readTable acc lower (some (value.getD 0 * 16 + d)) rest
    | none =>
      if c = '-' then readTable acc value none rest
      else readTable (finish acc lower value) none none rest
where
  finish (acc : Array (Nat × Nat)) (lower value : Option Nat) : Array (Nat × Nat) :=
    match lower, value with
    | some lo, some hi => acc.push (lo, hi)
    | none, some n => acc.push (n, n)
    | _, none => acc

def ofTable (text : String) : CodeSet := ⟨readTable #[] none none text.toList⟩

end CodeSet

end PerlPattern
