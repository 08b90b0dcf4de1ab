import PerlPattern.Unicode.Classes
import Mathlib.Data.List.Basic

/-! # Membership in sets of code points

The intervals of a set are in order, so a binary search finds the one that holds
a number, if there is one.
-/

namespace PerlPattern

namespace CodeSet

/-- The intervals are in order, none is empty, and none meets the next one. -/
structure Ordered (s : CodeSet) : Prop where
  filled : ∀ p ∈ s.intervals.toList, p.1 ≤ p.2
  apart : s.intervals.toList.Pairwise fun p q => p.2 < q.1

variable {s : CodeSet}

theorem Ordered.lt_of_lt (h : s.Ordered) {i j : Nat} {p q : Nat × Nat} (hBefore : i < j)
    (hFirst : s.intervals[i]? = some p) (hSecond : s.intervals[j]? = some q) : p.2 < q.1 := by
  obtain ⟨hLeft, rfl⟩ := Array.getElem?_eq_some_iff.mp hFirst
  obtain ⟨hRight, rfl⟩ := Array.getElem?_eq_some_iff.mp hSecond
  exact List.pairwise_iff_getElem.mp h.apart i j hLeft hRight hBefore

theorem Ordered.le (h : s.Ordered) {i : Nat} {p : Nat × Nat} (hSome : s.intervals[i]? = some p) :
    p.1 ≤ p.2 := by
  obtain ⟨hInside, rfl⟩ := Array.getElem?_eq_some_iff.mp hSome
  exact h.filled _ (Array.getElem_mem_toList hInside)

theorem Ordered.index_lt (h : s.Ordered) {n i j : Nat} {p q : Nat × Nat}
    (hHere : s.intervals[i]? = some p) (hThere : s.intervals[j]? = some q) (hFirst : p.1 ≤ n)
    (hLess : n < q.1) : i < j := by
  by_contra hNot
  obtain hSame | hAfter := Nat.eq_or_lt_of_not_lt hNot
  · subst hSame
    cases hHere.symm.trans hThere
    omega
  · have hApart := h.lt_of_lt hAfter hThere hHere
    have hFilled := h.le hThere
    omega

theorem Ordered.lt_index (h : s.Ordered) {n i j : Nat} {p q : Nat × Nat}
    (hHere : s.intervals[i]? = some p) (hThere : s.intervals[j]? = some q) (hLast : n ≤ p.2)
    (hGreater : q.2 < n) : j < i := by
  by_contra hNot
  obtain hSame | hBefore := Nat.eq_or_lt_of_not_lt hNot
  · subst hSame
    cases hHere.symm.trans hThere
    omega
  · have hApart := h.lt_of_lt hBefore hHere hThere
    have hFilled := h.le hThere
    omega

/-- With fuel for every interval between the two indexes, the search finds the one with `n`. -/
theorem Ordered.containsBetween_iff (h : s.Ordered) (n : Nat) {fuel low high : Nat}
    (hHigh : high ≤ s.intervals.size) (hFuel : high ≤ low + fuel) :
    containsBetween s.intervals n fuel low high = true ↔
      ∃ i p, low ≤ i ∧ i < high ∧ s.intervals[i]? = some p ∧ p.1 ≤ n ∧ n ≤ p.2 := by
  fun_induction containsBetween s.intervals n fuel low high with
  | case1 low high =>
    constructor
    · nofun
    · rintro ⟨i, p, hLow, hBelow, -⟩
      omega
  | case2 fuel low high hSome mid hNone =>
    have hMid : mid < s.intervals.size := by omega
    cases (Array.getElem?_eq_getElem hMid).symm.trans hNone
  | case3 fuel low high hSome mid lo hi hAt hLess ih =>
    rw [ih (by omega) (by omega)]
    constructor
    · rintro ⟨i, p, hLow, hBelow, hHolds⟩
      exact ⟨i, p, hLow, by omega, hHolds⟩
    · rintro ⟨i, p, hLow, -, hThere, hFirst, hLast⟩
      exact ⟨i, p, hLow, h.index_lt hThere hAt hFirst hLess, hThere, hFirst, hLast⟩
  | case4 fuel low high hSome mid lo hi hAt hNotLess hGreater ih =>
    rw [ih hHigh (by omega)]
    constructor
    · rintro ⟨i, p, hLow, hBelow, hHolds⟩
      exact ⟨i, p, by omega, hBelow, hHolds⟩
    · rintro ⟨i, p, -, hBelow, hThere, hFirst, hLast⟩
      exact ⟨i, p, h.lt_index hThere hAt hLast hGreater, hBelow, hThere, hFirst, hLast⟩
  | case5 fuel low high hSome mid lo hi hAt hNotLess hNotGreater =>
    exact iff_of_true rfl ⟨mid, (lo, hi), by omega, by omega, hAt, Nat.not_lt.mp hNotLess,
      Nat.not_lt.mp hNotGreater⟩
  | case6 fuel low high hNothing =>
    constructor
    · nofun
    · rintro ⟨i, p, hLow, hBelow, -⟩
      omega

theorem Ordered.contains_iff (h : s.Ordered) {n : Nat} :
    s.contains n = true ↔ ∃ p ∈ s.intervals, p.1 ≤ n ∧ n ≤ p.2 := by
  unfold contains
  rw [h.containsBetween_iff n (Nat.le_refl _) (by omega)]
  constructor
  · rintro ⟨i, p, -, -, hThere, hHolds⟩
    exact ⟨p, Array.mem_of_getElem? hThere, hHolds⟩
  · rintro ⟨p, hMember, hHolds⟩
    obtain ⟨i, hThere⟩ := Array.getElem?_of_mem hMember
    exact ⟨i, p, Nat.zero_le i, (Array.getElem?_eq_some_iff.mp hThere).1, hThere, hHolds⟩

end CodeSet

namespace Unicode

/-- The 25 code points of white space. -/
def WhiteSpace (c : Char) : Prop :=
  (0x9 ≤ c.toNat ∧ c.toNat ≤ 0xD) ∨ (0x2000 ≤ c.toNat ∧ c.toNat ≤ 0x200A) ∨
    c.toNat ∈ [0x20, 0x85, 0xA0, 0x1680, 0x2028, 0x2029, 0x202F, 0x205F, 0x3000]

theorem isWhiteSpace_iff {c : Char} : isWhiteSpace c = true ↔ WhiteSpace c := by
  have hTable : whiteSpace.intervals = #[(0x9, 0xD), (0x20, 0x20), (0x85, 0x85), (0xA0, 0xA0),
      (0x1680, 0x1680), (0x2000, 0x200A), (0x2028, 0x2029), (0x202F, 0x202F), (0x205F, 0x205F),
      (0x3000, 0x3000)] := by decide +kernel
  have hOrdered : whiteSpace.Ordered := by
    refine ⟨?_, ?_⟩
    · rw [hTable]
      decide
    · rw [hTable]
      decide
  unfold isWhiteSpace WhiteSpace
  rw [hOrdered.contains_iff, hTable]
  simp
  omega

end Unicode

end PerlPattern
