import PerlPattern.Matcher
import PerlPattern.Proofs.MatchOffsets

/-! # What a matcher may be held to

The promises that results on the match loops rest on, from the weakest to the
strongest. Each is made for one subject and for searches from within it. A
matcher for runs of one byte keeps them all; one that answers by a script need
keep none.
-/

namespace PerlPattern

variable {σ : Type}

theorem Outcome.matchCount?_eq_none_iff {outcome : Outcome} {offsets : MatchOffsets} :
    outcome.matchCount? offsets = none ↔ outcome = .noMatch := by
  cases outcome <;> simp [matchCount?]

theorem Outcome.ne_noMatch {outcome : Outcome} {offsets : MatchOffsets} {count : Nat}
    (h : outcome.matchCount? offsets = some count) : outcome ≠ .noMatch := by
  rintro rfl
  cases h

/-- A count that is reported includes the whole match, unless it is zero. -/
theorem Outcome.one_le_of_ne {outcome : Outcome} {offsets : MatchOffsets} {count : Nat}
    {whole : Span} (hCounts : outcome ≠ .matched 0) (hCount : outcome.matchCount? offsets = some count)
    (hWhole : offsets.group 0 = some whole) : 1 ≤ min count offsets.groupCapacity := by
  have hRoom := MatchOffsets.lt_groupCapacity_of_group hWhole
  cases outcome with
  | matched n =>
    cases hCount
    have hSome : count ≠ 0 := by
      rintro rfl
      exact hCounts rfl
    omega
  | tooManySubstrings =>
    cases hCount
    omega
  | noMatch => cases hCount

namespace Matcher

/-- No count that is reported leaves out the whole match. -/
def CountsWhole (m : Matcher σ) (subject : ByteArray) : Prop :=
  ∀ start mode offsets state, start ≤ subject.size →
    (m.exec subject start mode offsets state).1 ≠ .ok (.matched 0)

/-- Matches lie within the subject, from the search offset on, and keep to the mode of the search;
units end within the subject too. -/
structure Honours (m : Matcher σ) (subject : ByteArray) : Prop where
  whole : ∀ {start mode offsets state outcome after state'}, start ≤ subject.size →
    m.exec subject start mode offsets state = (.ok outcome, after, state') →
    outcome ≠ .noMatch → ∀ whole, after.group 0 = some whole →
    start ≤ whole.start ∧ whole.Within subject.size ∧
      (mode.notEmptyAtStart = true → whole.start = start ∧ whole.start < whole.stop)
  advance : ∀ pos state, pos < subject.size →
    1 ≤ m.advance subject pos state ∧ m.advance subject pos state ≤ subject.size - pos

/-- Searches never fail, and what they answer depends on the subject, the offset and the mode alone.
A match leaves the groups that it recorded, the whole match among them, all of them within the
subject; there is always room for the whole match. -/
structure WellBehaved (m : Matcher σ) (subject : ByteArray) : Prop extends Honours m subject where
  countsWhole : m.CountsWhole subject
  captures : ∃ captures, ∀ state, m.captureCount state = .ok captures
  answers : ∀ start mode offsets state, start ≤ subject.size → ∃ outcome after state',
    m.exec subject start mode offsets state = (.ok outcome, after, state')
  same : ∀ {start mode offsets offsets' state state' outcome outcome' after after' next next'},
    start ≤ subject.size → offsets.size = offsets'.size →
    m.exec subject start mode offsets state = (.ok outcome, after, next) →
    m.exec subject start mode offsets' state' = (.ok outcome', after', next') →
    outcome = outcome' ∧ after.size = after'.size ∧
      (outcome ≠ .noMatch → ∀ group, after.group group = after'.group group)
  sameAdvance : ∀ pos state state', m.advance subject pos state = m.advance subject pos state'
  room : ∀ {start mode offsets state outcome after state'}, start ≤ subject.size →
    1 ≤ offsets.groupCapacity →
    m.exec subject start mode offsets state = (.ok outcome, after, state') →
    1 ≤ after.groupCapacity
  records : ∀ {start mode offsets state outcome after state'}, start ≤ subject.size →
    1 ≤ offsets.groupCapacity →
    m.exec subject start mode offsets state = (.ok outcome, after, state') →
    outcome ≠ .noMatch → ∃ whole, after.group 0 = some whole
  within : ∀ {start mode offsets state outcome after state'}, start ≤ subject.size →
    m.exec subject start mode offsets state = (.ok outcome, after, state') →
    outcome ≠ .noMatch → ∀ group span, after.group group = some span → span.Within subject.size

/-- Answers by a script, whatever is asked of it, and finds nothing after its end. -/
def scripted (captures width : Nat) : Matcher (List (Except EngineError Outcome × List Span)) where
  captureCount _ := .ok captures
  groupIndex? _ _ := none
  exec _ _ _ offsets script :=
    match script with
    | [] => (.ok .noMatch, offsets.clear, [])
    | (answer, spans) :: rest =>
      (answer, spans.zipIdx.foldl (fun offsets (span, group) => offsets.setGroup group span)
        offsets.clear, rest)
  advance _ _ _ := width

def runLength (byte : UInt8) (subject : ByteArray) (start : Nat) : Nat :=
  ((subject.data.toList.drop start).takeWhile (· == byte)).length

/-- Matches the run of a byte at the search offset, which may be empty. -/
def runsOf (byte : UInt8) : Matcher Unit where
  captureCount _ := .ok 0
  groupIndex? _ _ := none
  exec subject start mode offsets _ :=
    if mode.notEmptyAtStart ∧ runLength byte subject start = 0 then
      (.ok .noMatch, offsets.clear, ())
    else
      (.ok (.matched 1),
        offsets.clear.setGroup 0 ⟨start, start + runLength byte subject start⟩, ())
  advance subject pos _ := byteAdvance subject pos

theorem add_runLength_le (byte : UInt8) {subject : ByteArray} {start : Nat}
    (hStart : start ≤ subject.size) : start + runLength byte subject start ≤ subject.size := by
  have hRun : runLength byte subject start ≤ (subject.data.toList.drop start).length :=
    (List.takeWhile_sublist _).length_le
  rw [List.length_drop, Array.length_toList] at hRun
  have hSize : subject.data.size = subject.size := rfl
  omega

theorem runsOf_exec {byte : UInt8} {subject : ByteArray} {start : Nat} {mode : SearchMode}
    {offsets after : MatchOffsets} {state state' : Unit} {outcome : Outcome}
    (h : (runsOf byte).exec subject start mode offsets state = (.ok outcome, after, state')) :
    outcome = .noMatch ∧ after = offsets.clear ∨
      outcome = .matched 1 ∧
        after = offsets.clear.setGroup 0 ⟨start, start + runLength byte subject start⟩ ∧
        (mode.notEmptyAtStart = true → runLength byte subject start ≠ 0) := by
  unfold runsOf at h
  dsimp only at h
  split at h
  · cases h
    exact .inl ⟨rfl, rfl⟩
  · rename_i hRun
    cases h
    exact .inr ⟨rfl, rfl, fun hMode hNone => hRun ⟨hMode, hNone⟩⟩

/-- The run of a byte is the only group that is ever recorded. -/
theorem runsOf_group {byte : UInt8} {subject : ByteArray} {start group : Nat}
    {offsets : MatchOffsets} {span : Span}
    (h : (offsets.clear.setGroup 0 ⟨start, start + runLength byte subject start⟩).group group =
      some span) : span = ⟨start, start + runLength byte subject start⟩ := by
  by_cases hZero : group = 0
  · subst hZero
    have hFits := MatchOffsets.lt_groupCapacity_of_group h
    rw [MatchOffsets.groupCapacity_setGroup] at hFits
    rw [MatchOffsets.group_setGroup_self _ hFits] at h
    exact (Option.some.inj h).symm
  · rw [MatchOffsets.group_setGroup_of_ne _ hZero, MatchOffsets.group_clear] at h
    cases h

theorem runsOf_wellBehaved (byte : UInt8) (subject : ByteArray) :
    (runsOf byte).WellBehaved subject where
  whole := by
    intro start mode offsets state outcome after state' hStart hExec hMatch whole hWhole
    obtain ⟨hNone, _⟩ | ⟨_, rfl, hRun⟩ := runsOf_exec hExec
    · exact absurd hNone hMatch
    · cases runsOf_group hWhole
      refine ⟨Nat.le_refl _, ⟨Nat.le_add_right _ _, add_runLength_le byte hStart⟩, ?_⟩
      intro hMode
      exact ⟨rfl, Nat.lt_add_of_pos_right (Nat.pos_of_ne_zero (hRun hMode))⟩
  advance := by
    intro pos state hPos
    simp only [runsOf, byteAdvance, if_pos hPos]
    omega
  countsWhole := by
    intro start mode offsets state hStart hZero
    unfold runsOf at hZero
    dsimp only at hZero
    split at hZero <;> cases hZero
  captures := ⟨0, fun _ => rfl⟩
  answers := by
    intro start mode offsets state hStart
    unfold runsOf
    dsimp only
    split
    · exact ⟨_, _, _, rfl⟩
    · exact ⟨_, _, _, rfl⟩
  same := by
    intro start mode offsets offsets' state state' outcome outcome' after after' next next' hStart
      hSize hExec hExec'
    unfold runsOf at hExec hExec'
    dsimp only at hExec hExec'
    rw [← MatchOffsets.clear_eq_of_size_eq hSize] at hExec'
    rw [hExec] at hExec'
    cases hExec'
    exact ⟨rfl, rfl, fun _ _ => rfl⟩
  sameAdvance := fun _ _ _ => rfl
  room := by
    intro start mode offsets state outcome after state' hStart hRoom hExec
    obtain ⟨_, rfl⟩ | ⟨_, rfl, _⟩ := runsOf_exec hExec
    · rwa [MatchOffsets.groupCapacity_clear]
    · rwa [MatchOffsets.groupCapacity_setGroup, MatchOffsets.groupCapacity_clear]
  records := by
    intro start mode offsets state outcome after state' hStart hRoom hExec hMatch
    obtain ⟨hNone, _⟩ | ⟨_, rfl, _⟩ := runsOf_exec hExec
    · exact absurd hNone hMatch
    · refine ⟨_, MatchOffsets.group_setGroup_self _ ?_⟩
      rwa [MatchOffsets.groupCapacity_clear]
  within := by
    intro start mode offsets state outcome after state' hStart hExec hMatch group span hGroup
    obtain ⟨hNone, _⟩ | ⟨_, rfl, _⟩ := runsOf_exec hExec
    · exact absurd hNone hMatch
    · cases runsOf_group hGroup
      exact ⟨Nat.le_add_right _ _, add_runLength_le byte hStart⟩

end Matcher

end PerlPattern
