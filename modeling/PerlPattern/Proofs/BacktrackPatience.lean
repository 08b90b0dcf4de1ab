import PerlPattern.Backtrack.Machine

/-! # Searching with more patience

How often a search may go back decides whether it answers, and never what. A
machine that may go back more often makes the same steps until the other one
gives up.
-/

namespace PerlPattern.Backtrack

/-- The machine with so much more patience. -/
def Machine.patient (m : Machine) (more : Nat) : Machine :=
  { m with patience := m.patience + more }

def Step.patient (more : Nat) : Step → Step
  | .running m => .running (m.patient more)
  | .matched slots => .matched slots
  | .exhausted => .exhausted
  | .failed fault => .failed fault

namespace Machine

variable (m : Machine) (more : Nat)

theorem choose_patient (pc other : Nat) :
    (m.patient more).choose pc other = (m.choose pc other).patient more := by
  unfold choose patient
  dsimp only
  split <;> rfl

/-- Going back is the one step that patience decides. -/
theorem fail_patient :
    m.fail = .failed .backtrackLimit ∨ (m.patient more).fail = m.fail.patient more := by
  obtain ⟨pc, pos, slots, marks, choices, height, patience⟩ := m
  cases choices with
  | nil => exact .inr rfl
  | cons c rest =>
    cases patience with
    | zero => exact .inl rfl
    | succ patience =>
      refine .inr ?_
      have hMore : patience + 1 + more = patience + more + 1 := by omega
      simp only [fail, patient, Step.patient, hMore]

theorem setSlot_patient (i : Nat) (v : Option Nat) :
    (m.patient more).setSlot i v = (m.setSlot i v).patient more := rfl

theorem recordGroups_patient (first : Nat) (groups : Groups) :
    (m.patient more).recordGroups first groups = (m.recordGroups first groups).patient more := by
  induction groups generalizing m first with
  | nil => rfl
  | cons g rest ih =>
    simp only [recordGroups, setSlot_patient]
    exact ih _ (first + 1)

theorem loop_patient (min : Nat) (max : Option Nat) (greedy : Bool) (counter after : Nat) :
    (m.patient more).loop min max greedy counter after =
      (m.loop min max greedy counter after).patient more := by
  simp only [loop, show (m.patient more).slot = m.slot from rfl, setSlot_patient]
  split
  · rfl
  · split
    · rfl
    · split
      · exact choose_patient _ more _ _
      · exact choose_patient _ more _ _

theorem guardedLoop_patient (min : Nat) (greedy : Bool) (counter last after : Nat) :
    m.guardedLoop min greedy counter last after = .failed .backtrackLimit ∨
      (m.patient more).guardedLoop min greedy counter last after =
        (m.guardedLoop min greedy counter last after).patient more := by
  simp only [guardedLoop, show (m.patient more).slot = m.slot from rfl, setSlot_patient,
    show (m.patient more).pos = m.pos from rfl]
  split
  · exact m.fail_patient more
  · refine .inr ?_
    split
    · rfl
    · split
      · exact choose_patient _ more _ _
      · exact choose_patient _ more _ _

/-- A step gives up, or is the same with more patience. -/
theorem step_patient (code : Array Instruction) (bytes : ByteArray) (start : Nat) :
    m.step code bytes start = .failed .backtrackLimit ∨
      (m.patient more).step code bytes start = (m.step code bytes start).patient more := by
  have hPc : (m.patient more).pc = m.pc := rfl
  have hPos : (m.patient more).pos = m.pos := rfl
  have hSlot : (m.patient more).slot = m.slot := rfl
  have hFail := m.fail_patient more
  unfold step
  rw [hPc, hPos, hSlot]
  cases code[m.pc]? with
  | none => exact .inr rfl
  | some instruction =>
    cases instruction with
    | finish => exact .inr rfl
    | literal text =>
      dsimp only
      split
      · exact .inr rfl
      · exact hFail
    | any newline =>
      dsimp only
      split
      · split
        · exact hFail
        · exact .inr rfl
      · exact hFail
    | look l =>
      dsimp only
      split
      · exact .inr rfl
      · exact hFail
    | split first second => exact .inr (m.choose_patient more first second)
    | jump target => exact .inr rfl
    | save i => exact .inr rfl
    | zero i => exact .inr rfl
    | restore i => exact .inr rfl
    | back count =>
      dsimp only
      split
      · exact .inr rfl
      · exact hFail
    | cutAndFail resume => exact fail_patient _ more
    | beginAtomic => exact .inr rfl
    | endAtomic =>
      obtain ⟨pc, pos, slots, marks, choices, height, patience⟩ := m
      cases marks with
      | nil => exact hFail
      | cons height marks => exact .inr rfl
    | loop min max greedy counter after =>
      exact .inr (m.loop_patient more min max greedy counter after)
    | guardedLoop min greedy counter last after =>
      exact m.guardedLoop_patient more min greedy counter last after
    | backref group =>
      dsimp only
      split
      · split
        · exact .inr rfl
        · exact hFail
      · exact hFail
    | groupMatched group =>
      dsimp only
      split
      · exact .inr rfl
      · exact hFail
    | searchStart =>
      dsimp only
      split
      · exact hFail
      · exact .inr rfl
    | delegate program first =>
      dsimp only
      split
      · rename_i whole groups hFound
        rw [recordGroups_patient]
        exact .inr rfl
      · exact hFail

/-- A run goes back too often, or is the same with more patience. -/
theorem run_patient (code : Array Instruction) (bytes : ByteArray) (start fuel : Nat) :
    run code bytes start fuel m = .error .backtrackLimit ∨
      run code bytes start fuel (m.patient more) = run code bytes start fuel m := by
  induction fuel generalizing m with
  | zero => exact .inr rfl
  | succ fuel ih =>
    unfold run
    obtain hGivesUp | hSame := m.step_patient more code bytes start
    · rw [hGivesUp]
      exact .inl rfl
    · rw [hSame]
      cases m.step code bytes start with
      | running next => exact ih next
      | matched slots => exact .inr rfl
      | exhausted => exact .inr rfl
      | failed fault => exact .inr rfl

end Machine

/-- The limit on going back decides whether a search answers, and never what. -/
theorem Program.search_of_le (p : Program) {limit limit' : Nat} (hLe : limit ≤ limit')
    (bytes : ByteArray) (start : Nat) :
    p.search limit bytes start = .error .backtrackLimit ∨
      p.search limit' bytes start = p.search limit bytes start := by
  obtain ⟨more, rfl⟩ := Nat.exists_eq_add_of_le hLe
  unfold search
  obtain hGivesUp | hSame := Machine.run_patient
    { pc := 0, pos := start, slots := Array.replicate p.slotCount none, marks := [], choices := []
      height := 0, patience := limit } more p.code bytes start stepAllowance
  · rw [hGivesUp]
    exact .inl rfl
  · refine .inr ?_
    rw [← hSame]
    rfl

end PerlPattern.Backtrack
