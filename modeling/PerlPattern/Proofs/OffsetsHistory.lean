import Mathlib.Data.List.Induction
import PerlPattern.Proofs.MatchOffsets

/-! # What match offsets hold

Whatever groups are set and cleared, match offsets hold for each group that fits
the span last set for it since all were last cleared. How many groups fit never
changes, and the slots behind them stay empty.
-/

namespace PerlPattern.MatchOffsets

inductive Operation where
  | set (group : Nat) (span : Span)
  | clear
  deriving Repr, DecidableEq

def after (o : MatchOffsets) : Operation → MatchOffsets
  | .set group span => o.setGroup group span
  | .clear => o.clear

def afterAll (o : MatchOffsets) (ops : List Operation) : MatchOffsets := ops.foldl after o

/-- A group was set to a span, and neither set again nor cleared after that. -/
def LastSet (ops : List Operation) (group : Nat) (span : Span) : Prop :=
  ∃ earlier later, ops = earlier ++ .set group span :: later ∧
    .clear ∉ later ∧ ∀ other, .set group other ∉ later

/-- The offsets after some operations: what each group holds, and what was never written. -/
structure Records (capacity : Nat) (ops : List Operation) (o : MatchOffsets) : Prop where
  size : o.size = 3 * capacity
  group : ∀ group span, o.group group = some span ↔ group < capacity ∧ LastSet ops group span
  workspace : ∀ slot, 2 * capacity ≤ slot → slot < 3 * capacity → o.slots[slot]? = some none

variable {ops : List Operation} {o : MatchOffsets} {group capacity : Nat} {span : Span}

@[simp] theorem afterAll_concat (o : MatchOffsets) (ops : List Operation) (op : Operation) :
    o.afterAll (ops ++ [op]) = (o.afterAll ops).after op := by
  simp [afterAll]

theorem not_lastSet_nil (group : Nat) (span : Span) : ¬LastSet [] group span := by
  simp [LastSet]

theorem lastSet_concat (ops : List Operation) (op : Operation) : LastSet (ops ++ [op]) group span ↔
    op = .set group span ∨
      op ≠ .clear ∧ (∀ other, op ≠ .set group other) ∧ LastSet ops group span := by
  constructor
  · rintro ⟨earlier, later, hOps, hClear, hSet⟩
    rcases List.eq_nil_or_concat later with rfl | ⟨between, last, rfl⟩
    · obtain ⟨-, hLast⟩ := List.append_inj' hOps rfl
      exact .inl (List.singleton_inj.mp hLast)
    · simp only [List.concat_eq_append] at hOps hClear hSet
      rw [← List.cons_append, ← List.append_assoc] at hOps
      obtain ⟨rfl, hLast⟩ := List.append_inj' hOps rfl
      obtain rfl := List.singleton_inj.mp hLast
      simp only [List.mem_append, List.mem_singleton, not_or] at hClear hSet
      exact .inr ⟨Ne.symm hClear.2, fun other => Ne.symm (hSet other).2,
        earlier, between, rfl, hClear.1, fun other => (hSet other).1⟩
  · rintro (rfl | ⟨hClear, hSet, earlier, later, rfl, hNoClear, hNoSet⟩)
    · exact ⟨ops, [], rfl, List.not_mem_nil, fun _ => List.not_mem_nil⟩
    · refine ⟨earlier, later ++ [op], by simp, ?_, fun other => ?_⟩
      · simpa [hNoClear] using Ne.symm hClear
      · simpa [hNoSet other] using Ne.symm (hSet other)

theorem lastSet_concat_clear : ¬LastSet (ops ++ [.clear]) group span := by
  simp [lastSet_concat]

theorem lastSet_concat_set_self {last : Span} :
    LastSet (ops ++ [.set group last]) group span ↔ last = span := by
  simp [lastSet_concat]

theorem lastSet_concat_set_of_ne {other : Nat} {last : Span} (h : group ≠ other) :
    LastSet (ops ++ [.set other last]) group span ↔ LastSet ops group span := by
  simp [lastSet_concat, Ne.symm h]

theorem Records.groupCapacity (h : Records capacity ops o) : o.groupCapacity = capacity := by
  have hSize : o.slots.size = 3 * capacity := h.size
  rw [MatchOffsets.groupCapacity, hSize, Nat.mul_div_cancel_left capacity (by decide)]

theorem records_clear (h : o.size = 3 * capacity) : Records capacity (ops ++ [.clear]) o.clear where
  size := by rw [size_clear, h]
  group group span := by simp [lastSet_concat_clear]
  workspace slot _ hSlot := by
    have hSize : slot < o.slots.size := Nat.lt_of_lt_of_eq hSlot h.symm
    rw [clear, Array.getElem?_replicate, if_pos hSize]

theorem Records.setGroup (h : Records capacity ops o) (group : Nat) (span : Span) :
    Records capacity (ops ++ [.set group span]) (o.setGroup group span) where
  size := by rw [size_setGroup, h.size]
  group other found := by
    by_cases hSame : other = group
    · subst hSame
      rw [lastSet_concat_set_self]
      rcases Nat.lt_or_ge other capacity with hFits | hBeyond
      · rw [group_setGroup_self span (by rw [h.groupCapacity]; exact hFits)]
        simp [hFits]
      · rw [group_of_le (by rw [groupCapacity_setGroup, h.groupCapacity]; exact hBeyond)]
        simp [Nat.not_lt.mpr hBeyond]
    · rw [group_setGroup_of_ne span hSame, h.group, lastSet_concat_set_of_ne hSame]
  workspace slot hFrom hTo := by
    rw [slots_setGroup_of_le span (by rw [h.groupCapacity]; exact hFrom)]
    exact h.workspace slot hFrom hTo

theorem Records.after (h : Records capacity ops o) (op : Operation) :
    Records capacity (ops ++ [op]) (o.after op) := by
  cases op with
  | set group span => exact h.setGroup group span
  | clear => exact records_clear h.size

theorem records_new {groups : Nat} (h : ofGroupCapacity groups = .ok o) :
    Records (max groups 1) [] o := by
  rw [ofGroupCapacity_eq_ok h]
  constructor
  · exact Array.size_replicate
  · intro group span
    have hEmpty := group_clear ⟨Array.replicate (3 * max groups 1) none⟩ group
    rw [clear, Array.size_replicate] at hEmpty
    simp [hEmpty, not_lastSet_nil]
  · intro slot _ hSlot
    rw [Array.getElem?_replicate, if_pos hSlot]

theorem records_afterAll (h : Records capacity [] o) (ops : List Operation) :
    Records capacity ops (o.afterAll ops) := by
  -- On the last operation: it decides alone what a group holds that it sets or clears.
  induction ops using List.reverseRecOn with
  | nil => exact h
  | append_singleton ops op ih =>
    rw [afterAll_concat]
    exact ih.after op

/-- Match offsets are a map from the groups that fit to the spans last set for them. Setting a group
leaves the others alone, and one that does not fit changes nothing. -/
theorem afterAll_records {groups : Nat} {new : MatchOffsets}
    (hNew : ofGroupCapacity groups = .ok new) (ops : List Operation) :
    let o := new.afterAll ops
    Records (max groups 1) ops o ∧ o.groupCapacity = max groups 1 ∧
      (∀ group span other, other ≠ group → (o.setGroup group span).group other = o.group other) ∧
      ∀ group span, max groups 1 ≤ group → o.setGroup group span = o := by
  intro o
  have hRecords : Records (max groups 1) ops o := records_afterAll (records_new hNew) ops
  have hCapacity := hRecords.groupCapacity
  refine ⟨hRecords, hCapacity, fun group span other hOther => group_setGroup_of_ne span hOther, ?_⟩
  intro group span hBeyond
  exact setGroup_of_le span (Nat.le_trans (Nat.le_of_eq hCapacity) hBeyond)

theorem afterAll_records_reset :
    let new : MatchOffsets := ⟨Array.replicate 6 none⟩
    let ops : List Operation := [.set 0 ⟨2, 5⟩, .set 1 ⟨3, 3⟩, .clear, .set 1 ⟨7, 4⟩, .set 2 ⟨0, 1⟩,
      .set 1 ⟨5, 6⟩]
    let o := new.afterAll ops
    ofGroupCapacity 2 = .ok new ∧
      (Records 2 ops o ∧ o.groupCapacity = 2 ∧
        (∀ group span other, other ≠ group →
          (o.setGroup group span).group other = o.group other) ∧
        ∀ group span, 2 ≤ group → o.setGroup group span = o) ∧
      o.group 0 = none ∧ o.group 1 = some ⟨5, 6⟩ ∧ o.group 2 = none := by
  intro new ops o
  have hNew : ofGroupCapacity 2 = .ok new := rfl
  exact ⟨hNew, afterAll_records hNew ops, by decide⟩

end PerlPattern.MatchOffsets
