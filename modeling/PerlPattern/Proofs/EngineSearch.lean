import PerlPattern.Compiled
import PerlPattern.Proofs.Contracts

/-! # What engines answer

A match that an engine records counts at least the whole match, so that a
compiled pattern never reports a match without it. What a search under a mode
answers is the answer of the engine, kept only if the mode allows it. Patterns
step over at least one byte, and not past the end.
-/

namespace PerlPattern

namespace Engine

theorem exec_of_beyond (e : Engine) {subject : ByteArray} {start : Nat}
    (hBeyond : subject.size < start) (mode : SearchMode) (offsets : MatchOffsets) :
    e.exec subject start mode offsets = (.error (.ofKind .badOffset), offsets) :=
  if_pos hBeyond

/-- What a search answers is settled before anything is recorded. -/
theorem exec_cases (e : Engine) {subject : ByteArray} {start : Nat} (mode : SearchMode)
    (hStart : start ≤ subject.size) :
    (∃ error, error ≠ EngineError.ofKind .badOffset ∧
      ∀ offsets, e.exec subject start mode offsets = (.error error, offsets.clear)) ∨
    ∃ found, e.search subject start = .ok found ∧
      ∀ offsets, e.exec subject start mode offsets =
        (.ok (record offsets.clear start mode (found.getD [])).1,
          (record offsets.clear start mode (found.getD [])).2) := by
  unfold exec
  simp only [if_neg (Nat.not_lt.mpr hStart)]
  split
  · exact .inl ⟨_, by decide, fun _ => rfl⟩
  · split
    · exact .inl ⟨_, by decide, fun _ => rfl⟩
    · cases e.search subject start with
      | error fault => exact .inl ⟨_, by cases fault <;> decide, fun _ => rfl⟩
      | ok found =>
        cases found with
        | none => exact .inr ⟨none, rfl, fun _ => rfl⟩
        | some groups => exact .inr ⟨some groups, rfl, fun _ => rfl⟩

end Engine

/-- May a match found from an offset on lie at a span? -/
def SearchMode.Allows (mode : SearchMode) (start : Nat) (whole : Span) : Prop :=
  (mode.requiresStart = true → whole.start = start) ∧
    ¬(mode.notEmptyAtStart = true ∧ whole.isEmpty = true)

namespace Engine

theorem record_refused {mode : SearchMode} {start : Nat} {whole : Span}
    (h : ¬mode.Allows start whole) (offsets : MatchOffsets) (captures : Groups) :
    record offsets start mode (some whole :: captures) = (.noMatch, offsets) := by
  have hRefused : (mode.requiresStart = true ∧ whole.start ≠ start) ∨
      (mode.notEmptyAtStart = true ∧ whole.isEmpty = true) := by
    refine Decidable.byContradiction fun hKept => h ⟨fun hMode => ?_, fun hEmpty => hKept (.inr hEmpty)⟩
    exact Decidable.byContradiction fun hOther => hKept (.inl ⟨hMode, hOther⟩)
  unfold record
  exact if_pos hRefused

theorem record_allowed {mode : SearchMode} {start : Nat} {whole : Span}
    (h : mode.Allows start whole) (offsets : MatchOffsets) (captures : Groups) :
    record offsets start mode (some whole :: captures) =
      let recorded := recordCaptures (offsets.setGroup 0 whole) 1 1 false captures
      (if recorded.2.2 then .tooManySubstrings else .matched recorded.2.1, recorded.1) := by
  have hKept : ¬((mode.requiresStart = true ∧ whole.start ≠ start) ∨
      (mode.notEmptyAtStart = true ∧ whole.isEmpty = true)) := by
    rintro (⟨hMode, hOther⟩ | hEmpty)
    · exact hOther (h.1 hMode)
    · exact h.2 hEmpty
  unfold record
  exact if_neg hKept

theorem one_le_recordCaptures {offsets : MatchOffsets} {index count : Nat} {overflow : Bool}
    {groups : Groups} (hCount : 1 ≤ count) :
    1 ≤ (recordCaptures offsets index count overflow groups).2.1 := by
  fun_induction recordCaptures offsets index count overflow groups with
  | case1 => exact hCount
  | case2 offsets index count overflow rest ih => exact ih hCount
  | case3 offsets index count overflow span rest hFits ih => exact ih (Nat.le_add_left 1 index)
  | case4 offsets index count overflow span rest hFits ih => exact ih hCount

theorem record_ne_matched_zero (offsets : MatchOffsets) (start : Nat) (mode : SearchMode)
    (groups : Groups) : (record offsets start mode groups).1 ≠ .matched 0 := by
  rcases groups with _ | ⟨_ | whole, captures⟩
  · exact fun h => nomatch h
  · exact fun h => nomatch h
  · by_cases hAllows : mode.Allows start whole
    · have hCount : 1 ≤ (recordCaptures (offsets.setGroup 0 whole) 1 1 false captures).2.1 :=
        one_le_recordCaptures (Nat.le_refl 1)
      rw [record_allowed hAllows]
      dsimp only
      split
      · exact fun h => nomatch h
      · intro h
        rw [Outcome.matched.inj h] at hCount
        exact absurd hCount (by decide)
    · rw [record_refused hAllows]
      exact fun h => nomatch h

theorem exec_ne_matched_zero (e : Engine) (subject : ByteArray) (start : Nat) (mode : SearchMode)
    (offsets : MatchOffsets) : (e.exec subject start mode offsets).1 ≠ .ok (.matched 0) := by
  obtain hBeyond | hStart := Nat.lt_or_ge subject.size start
  · rw [e.exec_of_beyond hBeyond]
    exact fun h => nomatch h
  · obtain ⟨error, -, hExec⟩ | ⟨found, -, hExec⟩ := e.exec_cases mode hStart
    · rw [hExec]
      exact fun h => nomatch h
    · rw [hExec]
      exact fun h => record_ne_matched_zero _ _ _ _ (Except.ok.inj h)

end Engine

namespace Groups

/-- The span of a group, if the group took part in the match. -/
def span? (groups : Groups) (g : Nat) : Option Span := (groups[g]?).join

theorem span?_of_length_le {groups : Groups} {g : Nat} (h : groups.length ≤ g) :
    groups.span? g = none := by
  rw [span?, List.getElem?_eq_none h]
  rfl

theorem span?_append {groups : Groups} {g : Nat} (h : g < groups.length) (more : Groups) :
    span? (groups ++ more) g = groups.span? g :=
  congrArg Option.join (List.getElem?_append_left h)

theorem span?_concat (groups : Groups) (x : Option Span) (g : Nat) :
    span? (groups ++ [x]) g = if g = groups.length then x else groups.span? g := by
  split
  · rename_i hLast
    rw [hLast, span?, List.getElem?_concat_length]
    rfl
  · rename_i hOther
    obtain hEarlier | hBeyond := Nat.lt_or_gt_of_ne hOther
    · exact span?_append hEarlier [x]
    · rw [span?_of_length_le (Nat.le_of_lt hBeyond),
        span?_of_length_le (by simpa using Nat.succ_le_of_lt hBeyond)]

theorem lt_length_of_span? {groups : Groups} {g : Nat} (h : (groups.span? g).isSome) :
    g < groups.length := by
  refine Nat.lt_of_not_le fun hBeyond => ?_
  rw [span?_of_length_le hBeyond] at h
  cases h

end Groups

namespace MatchOffsets

/-- The groups of a match, as far as there is room for them. -/
def Holds (o : MatchOffsets) (groups : Groups) : Prop :=
  ∀ g < o.groupCapacity, o.group g = (groups[g]?).join

/-- A count leaves out no group that is recorded. -/
def CountedBy (o : MatchOffsets) (count : Nat) : Prop :=
  ∀ g span, o.group g = some span → g < count

theorem holds_clear (o : MatchOffsets) : o.clear.Holds [] := by
  intro g _
  rw [group_clear]
  rfl

theorem countedBy_clear (o : MatchOffsets) (count : Nat) : o.clear.CountedBy count := by
  intro g span hGroup
  rw [group_clear] at hGroup
  cases hGroup

theorem countedBy_groupCapacity (o : MatchOffsets) : o.CountedBy o.groupCapacity :=
  fun _ _ hGroup => lt_groupCapacity_of_group hGroup

variable {o : MatchOffsets} {groups : Groups}

theorem Holds.full (h : o.Holds groups) (hFull : o.groupCapacity ≤ groups.length)
    (more : Groups) : o.Holds (groups ++ more) := by
  intro g hFits
  exact (h g hFits).trans (Groups.span?_append (Nat.lt_of_lt_of_le hFits hFull) more).symm

theorem Holds.skip (h : o.Holds groups) : o.Holds (groups ++ [none]) := by
  intro g hFits
  refine (h g hFits).trans (Eq.trans ?_ (Groups.span?_concat groups none g).symm)
  split
  · rename_i hLast
    exact Groups.span?_of_length_le (Nat.le_of_eq hLast.symm)
  · rfl

theorem Holds.setGroup (h : o.Holds groups) (span : Span) :
    (o.setGroup groups.length span).Holds (groups ++ [some span]) := by
  intro g hFits
  rw [groupCapacity_setGroup] at hFits
  refine Eq.trans ?_ (Groups.span?_concat groups (some span) g).symm
  split
  · rename_i hLast
    rw [← hLast, group_setGroup_self span hFits]
  · rename_i hOther
    rw [group_setGroup_of_ne span hOther]
    exact h g hFits

theorem CountedBy.setGroup {count group : Nat} (h : o.CountedBy count) (hCount : count ≤ group)
    (span : Span) : (o.setGroup group span).CountedBy (group + 1) := by
  intro g other hGroup
  by_cases hSame : g = group
  · omega
  · rw [group_setGroup_of_ne span hSame] at hGroup
    exact Nat.lt_succ_of_lt (Nat.lt_of_lt_of_le (h g other hGroup) hCount)

end MatchOffsets

namespace Utf8

theorem one_le_widthOfLead (lead : UInt8) : 1 ≤ widthOfLead lead := by
  unfold widthOfLead
  split
  · decide
  · split
    · decide
    · split <;> decide

theorem charWidthAt_bounds {bytes : ByteArray} {pos : Nat} (h : pos < bytes.size) :
    1 ≤ charWidthAt bytes pos ∧ charWidthAt bytes pos ≤ bytes.size - pos := by
  have hWidth := one_le_widthOfLead bytes[pos]
  rw [charWidthAt, getElem?_pos bytes pos h]
  dsimp only
  omega

end Utf8

namespace Engine

theorem groupCapacity_recordCaptures (offsets : MatchOffsets) (index count : Nat)
    (overflow : Bool) (captures : Groups) :
    (recordCaptures offsets index count overflow captures).1.groupCapacity =
      offsets.groupCapacity := by
  fun_induction recordCaptures offsets index count overflow captures with
  | case1 => rfl
  | case2 offsets index count overflow rest ih => exact ih
  | case3 offsets index count overflow span rest hFits ih =>
    exact ih.trans (offsets.groupCapacity_setGroup index span)
  | case4 offsets index count overflow span rest hFits ih => exact ih

theorem holds_recordCaptures {offsets : MatchOffsets} {index : Nat} {groups : Groups}
    (count : Nat) (overflow : Bool) (captures : Groups) (hIndex : groups.length = index)
    (hHolds : offsets.Holds groups) :
    (recordCaptures offsets index count overflow captures).1.Holds (groups ++ captures) := by
  -- The groups passed so far grow by one at each capture, also by one that is not recorded.
  fun_induction recordCaptures offsets index count overflow captures generalizing groups with
  | case1 => rwa [List.append_nil]
  | case2 offsets index count overflow rest ih =>
    rw [List.append_cons]
    exact ih (by rw [List.length_append, hIndex]; rfl) hHolds.skip
  | case3 offsets index count overflow span rest hFits ih =>
    rw [List.append_cons]
    subst hIndex
    exact ih (by rw [List.length_append]; rfl) (hHolds.setGroup span)
  | case4 offsets index count overflow span rest hFits ih =>
    rw [List.append_cons]
    exact ih (by rw [List.length_append, hIndex]; rfl) (hHolds.full (by omega) _)

theorem countedBy_recordCaptures {offsets : MatchOffsets} {index count : Nat} (overflow : Bool)
    (captures : Groups) (hCount : count ≤ index) (hCounted : offsets.CountedBy count) :
    (recordCaptures offsets index count overflow captures).1.CountedBy
      (recordCaptures offsets index count overflow captures).2.1 := by
  fun_induction recordCaptures offsets index count overflow captures with
  | case1 => exact hCounted
  | case2 offsets index count overflow rest ih => exact ih (Nat.le_succ_of_le hCount) hCounted
  | case3 offsets index count overflow span rest hFits ih =>
    exact ih (Nat.le_refl _) (hCounted.setGroup hCount span)
  | case4 offsets index count overflow span rest hFits ih =>
    exact ih (Nat.le_succ_of_le hCount) hCounted

/-- The spans of the groups that a search reports. -/
def reported (e : Engine) (subject : ByteArray) (start : Nat) : List Span :=
  match e.search subject start with
  | .ok (some groups) => groups.filterMap id
  | _ => []

theorem mem_reported {e : Engine} {subject : ByteArray} {start : Nat} {groups : Groups}
    (hSearch : e.search subject start = .ok (some groups)) {span : Span} :
    span ∈ e.reported subject start ↔ some span ∈ groups := by
  unfold reported
  rw [hSearch]
  simp

/-- What a search under a mode answers, and what it leaves in the offsets. -/
inductive Answers (e : Engine) (subject : ByteArray) (start : Nat) (mode : SearchMode) :
    Outcome → MatchOffsets → Prop
  | nothing (offsets : MatchOffsets) (found : Option Groups)
      (hSearch : e.search subject start = .ok found)
      (hNone : ∀ whole captures, found = some (some whole :: captures) →
        ¬mode.Allows start whole) :
      Answers e subject start mode .noMatch offsets
  | recorded (outcome : Outcome) (offsets : MatchOffsets) (count : Nat) (whole : Span)
      (captures : Groups) (hSearch : e.search subject start = .ok (some (some whole :: captures)))
      (hAllows : mode.Allows start whole) (hCount : outcome.matchCount? offsets = some count)
      (hHolds : offsets.Holds (some whole :: captures)) (hCounted : offsets.CountedBy count) :
      Answers e subject start mode outcome offsets

/-- The whole match is recorded and counted, if there is room for it. -/
theorem Answers.whole {e : Engine} {subject : ByteArray} {start count : Nat} {mode : SearchMode}
    {outcome : Outcome} {offsets : MatchOffsets} (h : e.Answers subject start mode outcome offsets)
    (hCount : outcome.matchCount? offsets = some count) (hRoom : 0 < offsets.groupCapacity) :
    ∃ whole, offsets.group 0 = some whole ∧ whole ∈ e.reported subject start ∧ 0 < count := by
  cases h with
  | nothing => cases hCount
  | recorded _ _ count' whole captures hSearch _ hCount' hHolds hCounted =>
    cases hCount.symm.trans hCount'
    have hGroup : offsets.group 0 = some whole := hHolds 0 hRoom
    exact ⟨whole, hGroup, (mem_reported hSearch).mpr List.mem_cons_self, hCounted 0 whole hGroup⟩

theorem record_answers {e : Engine} {subject : ByteArray} {start : Nat} {groups : Groups}
    (hSearch : e.search subject start = .ok (some groups)) (offsets : MatchOffsets)
    (mode : SearchMode) :
    (record offsets.clear start mode groups).2.groupCapacity = offsets.groupCapacity ∧
      e.Answers subject start mode (record offsets.clear start mode groups).1
        (record offsets.clear start mode groups).2 := by
  rcases groups with _ | ⟨_ | whole, captures⟩
  · refine ⟨offsets.groupCapacity_clear, .nothing _ _ hSearch ?_⟩
    rintro _ _ ⟨⟩
  · refine ⟨offsets.groupCapacity_clear, .nothing _ _ hSearch ?_⟩
    rintro _ _ ⟨⟩
  · by_cases hAllows : mode.Allows start whole
    · have hHolds := holds_recordCaptures 1 false captures rfl
        (offsets.holds_clear.setGroup whole)
      have hCounted := countedBy_recordCaptures false captures (Nat.le_refl _)
        ((offsets.countedBy_clear 0).setGroup (Nat.le_refl 0) whole)
      have hCapacity : (recordCaptures (offsets.clear.setGroup 0 whole) 1 1 false
          captures).1.groupCapacity = offsets.groupCapacity := by
        rw [groupCapacity_recordCaptures, MatchOffsets.groupCapacity_setGroup,
          MatchOffsets.groupCapacity_clear]
      rw [record_allowed hAllows]
      refine ⟨hCapacity, ?_⟩
      dsimp only
      split
      · exact .recorded _ _ _ _ _ hSearch hAllows rfl hHolds (MatchOffsets.countedBy_groupCapacity _)
      · exact .recorded _ _ _ _ _ hSearch hAllows rfl hHolds hCounted
    · rw [record_refused hAllows]
      refine ⟨offsets.groupCapacity_clear, .nothing _ _ hSearch ?_⟩
      rintro _ _ ⟨⟩
      exact hAllows

theorem exec_answers {e : Engine} {subject : ByteArray} {start : Nat} {mode : SearchMode}
    {offsets after : MatchOffsets} {outcome : Outcome}
    (h : e.exec subject start mode offsets = (.ok outcome, after)) :
    after.groupCapacity = offsets.groupCapacity ∧ e.Answers subject start mode outcome after := by
  obtain hBeyond | hStart := Nat.lt_or_ge subject.size start
  · rw [e.exec_of_beyond hBeyond] at h
    cases h
  · obtain ⟨error, -, hExec⟩ | ⟨found, hSearch, hExec⟩ := e.exec_cases mode hStart
    · rw [hExec] at h
      cases h
    · rw [hExec] at h
      cases h
      cases found with
      | none => exact ⟨offsets.groupCapacity_clear, .nothing _ _ hSearch fun _ _ h => nomatch h⟩
      | some groups => exact record_answers hSearch offsets mode

theorem advance_bounds (e : Engine) {subject : ByteArray} {pos : Nat} (h : pos < subject.size) :
    1 ≤ e.advance subject pos ∧ e.advance subject pos ≤ subject.size - pos := by
  unfold advance
  split
  · rw [Matcher.byteAdvance, if_pos h]
    omega
  · exact Utf8.charWidthAt_bounds h

end Engine

namespace CompiledPattern

theorem matcher_countsWhole (p : CompiledPattern) (subject : ByteArray) :
    p.matcher.CountsWhole subject :=
  fun start mode offsets _ _ => p.engine.exec_ne_matched_zero subject start (p.modeOf mode) offsets

theorem answers_of_exec {p : CompiledPattern} {subject : ByteArray} {start : Nat}
    {mode : SearchMode} {offsets after : MatchOffsets} {outcome : Outcome} {state : Unit}
    (h : p.matcher.exec subject start mode offsets () = (.ok outcome, after, state)) :
    after.groupCapacity = offsets.groupCapacity ∧
      p.engine.Answers subject start (p.modeOf mode) outcome after := by
  cases hExec : p.engine.exec subject start (p.modeOf mode) offsets with
  | mk answer after' =>
    have hAll : (answer, after', ()) = (.ok outcome, after, state) := by
      rw [← h]
      unfold matcher
      dsimp only
      rw [hExec]
    cases hAll
    exact Engine.exec_answers hExec

theorem groupCapacity_of_newOffsets {p : CompiledPattern} {offsets : MatchOffsets}
    (h : p.newOffsets = .ok offsets) : offsets.groupCapacity = p.captureCount + 1 :=
  (MatchOffsets.groupCapacity_of_ofGroupCapacity h).trans (Nat.max_eq_left (Nat.le_add_left _ _))

theorem advance_bounds (p : CompiledPattern) {subject : ByteArray} {pos : Nat}
    (h : pos < subject.size) :
    1 ≤ p.advance subject pos ∧ p.advance subject pos ≤ subject.size - pos := by
  unfold advance
  split
  · exact Utf8.charWidthAt_bounds h
  · exact p.engine.advance_bounds h

end CompiledPattern

end PerlPattern
