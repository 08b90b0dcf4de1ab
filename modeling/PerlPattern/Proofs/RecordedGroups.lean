import Mathlib.Order.Bounds.Basic
import PerlPattern.Proofs.EngineSearch
import PerlPattern.Proofs.ShortRuns

/-! # What a search records

A search under a mode leaves nothing of earlier searches in the offsets. It
records the groups of the match that the engine reports, as far as there is
room for them, and counts them up to the highest that took part; a match that
the mode does not allow is none.
-/

namespace PerlPattern

namespace Groups

/-- One more than the highest group that took part. -/
def Bound (groups : Groups) (n : Nat) : Prop :=
  ∃ top, IsGreatest {g | (groups.span? g).isSome} top ∧ n = top + 1

/-- Did a group take part for which there is no room? -/
def Exceeds (groups : Groups) (room : Nat) : Prop := ∃ g, room ≤ g ∧ (groups.span? g).isSome

theorem Bound.skip {groups : Groups} {n : Nat} (h : groups.Bound n) :
    Bound (groups ++ [none]) n := by
  obtain ⟨top, ⟨hTop, hHighest⟩, rfl⟩ := h
  refine ⟨top, ⟨?_, ?_⟩, rfl⟩
  · rw [Set.mem_ofPred_eq, span?_concat, if_neg (Nat.ne_of_lt (lt_length_of_span? hTop))]
    exact hTop
  · intro g hg
    rw [Set.mem_ofPred_eq, span?_concat] at hg
    split at hg
    · cases hg
    · exact hHighest hg

theorem bound_concat (groups : Groups) (span : Span) :
    Bound (groups ++ [some span]) (groups.length + 1) := by
  refine ⟨groups.length, ⟨?_, ?_⟩, rfl⟩
  · simp [span?_concat]
  · intro g hg
    have hInside := lt_length_of_span? hg
    rw [List.length_append, List.length_singleton] at hInside
    exact Nat.le_of_lt_succ hInside

theorem exceeds_concat {groups : Groups} {x : Option Span} {room : Nat} :
    Exceeds (groups ++ [x]) room ↔ groups.Exceeds room ∨ x.isSome ∧ room ≤ groups.length := by
  constructor
  · rintro ⟨g, hRoom, hTook⟩
    rw [span?_concat] at hTook
    split at hTook
    · rename_i hLast
      exact .inr ⟨hTook, hLast ▸ hRoom⟩
    · exact .inl ⟨g, hRoom, hTook⟩
  · rintro (⟨g, hRoom, hTook⟩ | ⟨hTook, hRoom⟩)
    · refine ⟨g, hRoom, ?_⟩
      rwa [span?_concat, if_neg (Nat.ne_of_lt (lt_length_of_span? hTook))]
    · refine ⟨groups.length, hRoom, ?_⟩
      rwa [span?_concat, if_pos rfl]

end Groups

/-- Offsets that have room for every group that took part hold the whole match. -/
theorem MatchOffsets.Holds.all {o : MatchOffsets} {groups : Groups} (h : o.Holds groups)
    (hFits : ¬groups.Exceeds o.groupCapacity) (g : Nat) : o.group g = groups.span? g := by
  obtain hInside | hBeyond := Nat.lt_or_ge g o.groupCapacity
  · exact h g hInside
  · have hUnset : ¬(groups.span? g).isSome := fun hTook => hFits ⟨g, hBeyond, hTook⟩
    rw [MatchOffsets.group, if_neg (Nat.not_lt.mpr hBeyond), Option.not_isSome_iff_eq_none.mp hUnset]

namespace Engine

theorem overflow_recordCaptures {offsets : MatchOffsets} {index : Nat} (count : Nat)
    {overflow : Bool} (captures : Groups) {groups : Groups} (hIndex : groups.length = index)
    (hBefore : overflow = true ↔ groups.Exceeds offsets.groupCapacity) :
    (recordCaptures offsets index count overflow captures).2.2 = true ↔
      Groups.Exceeds (groups ++ captures) offsets.groupCapacity := by
  -- The groups passed so far grow by one at each capture, also by one that is not recorded.
  fun_induction recordCaptures offsets index count overflow captures generalizing groups with
  | case1 => rwa [List.append_nil]
  | case2 offsets index count overflow rest ih =>
    rw [List.append_cons]
    refine ih (by rw [List.length_append, hIndex]; rfl) ?_
    simp [hBefore, Groups.exceeds_concat]
  | case3 offsets index count overflow span rest hFits ih =>
    rw [List.append_cons, ← offsets.groupCapacity_setGroup index span]
    refine ih (by rw [List.length_append, hIndex]; rfl) ?_
    simp [hBefore, Groups.exceeds_concat, hIndex, hFits]
  | case4 offsets index count overflow span rest hFits ih =>
    rw [List.append_cons]
    refine ih (by rw [List.length_append, hIndex]; rfl) ?_
    simp [Groups.exceeds_concat, hIndex, Nat.not_lt.mp hFits]

theorem bound_recordCaptures (offsets : MatchOffsets) {index count : Nat} {overflow : Bool}
    (captures : Groups) {groups : Groups} (hIndex : groups.length = index)
    (hBefore : overflow = false → groups.Bound count) :
    (recordCaptures offsets index count overflow captures).2.2 = false →
      Groups.Bound (groups ++ captures) (recordCaptures offsets index count overflow captures).2.1 := by
  fun_induction recordCaptures offsets index count overflow captures generalizing groups with
  | case1 => rwa [List.append_nil]
  | case2 offsets index count overflow rest ih =>
    rw [List.append_cons]
    exact ih (by rw [List.length_append, hIndex]; rfl) fun hNone => (hBefore hNone).skip
  | case3 offsets index count overflow span rest hFits ih =>
    rw [List.append_cons]
    exact ih (by rw [List.length_append, hIndex]; rfl) fun _ => hIndex ▸ groups.bound_concat span
  | case4 offsets index count overflow span rest hFits ih =>
    rw [List.append_cons]
    refine ih (by rw [List.length_append, hIndex]; rfl) ?_
    rintro ⟨⟩

theorem record_kept {mode : SearchMode} {start : Nat} {whole : Span}
    (h : mode.Allows start whole) {offsets : MatchOffsets} (hRoom : 1 ≤ offsets.groupCapacity)
    (captures : Groups) :
    ∃ outcome after, record offsets.clear start mode (some whole :: captures) = (outcome, after) ∧
      after.groupCapacity = offsets.groupCapacity ∧ after.Holds (some whole :: captures) ∧
      (outcome = .tooManySubstrings ∧
          Groups.Exceeds (some whole :: captures) offsets.groupCapacity ∨
        ∃ n, outcome = .matched n ∧ Groups.Bound (some whole :: captures) n ∧
          ¬Groups.Exceeds (some whole :: captures) offsets.groupCapacity) := by
  have hCapacity : (offsets.clear.setGroup 0 whole).groupCapacity = offsets.groupCapacity := by simp
  have hFits : ¬Groups.Exceeds [some whole] offsets.groupCapacity := by
    rintro ⟨g, hBeyond, hTook⟩
    have hInside := Groups.lt_length_of_span? hTook
    rw [List.length_singleton] at hInside
    omega
  have hNone : false = true ↔
      Groups.Exceeds [some whole] (offsets.clear.setGroup 0 whole).groupCapacity := by
    simp [hCapacity, hFits]
  have hWhole : false = false → Groups.Bound [some whole] 1 := fun _ => Groups.bound_concat [] whole
  have hHolds := holds_recordCaptures 1 false captures rfl (offsets.holds_clear.setGroup whole)
  have hOver := overflow_recordCaptures 1 captures rfl hNone
  have hBound := bound_recordCaptures (offsets.clear.setGroup 0 whole) captures rfl hWhole
  rw [record_allowed h]
  refine ⟨_, _, rfl, (groupCapacity_recordCaptures _ _ _ _ _).trans hCapacity, hHolds, ?_⟩
  rw [hCapacity] at hOver
  cases hFlag : (recordCaptures (offsets.clear.setGroup 0 whole) 1 1 false captures).2.2 with
  | true => exact .inl ⟨rfl, hOver.mp hFlag⟩
  | false =>
    refine .inr ⟨_, rfl, hBound hFlag, ?_⟩
    intro hExceeds
    exact Bool.false_ne_true (hFlag.symm.trans (hOver.mpr hExceeds))

theorem exec_eq_of_size_eq (e : Engine) {subject : ByteArray} {start : Nat} (mode : SearchMode)
    (hStart : start ≤ subject.size) {o o' : MatchOffsets} (hSize : o.size = o'.size) :
    e.exec subject start mode o = e.exec subject start mode o' := by
  unfold exec
  simp only [if_neg (Nat.not_lt.mpr hStart), MatchOffsets.clear_eq_of_size_eq hSize]

/-- What a search under a mode promises of its answer, and of what it leaves in the offsets. -/
structure Contract (e : Engine) (subject : ByteArray) (start : Nat) (mode : SearchMode)
    (offsets : MatchOffsets) (answer : Except EngineError Outcome) (after : MatchOffsets) :
    Prop where
  badOffset_iff : answer = .error (.ofKind .badOffset) ↔ subject.size < start
  untouched : subject.size < start → after = offsets
  /-- Nothing but the match of this very search is left in the offsets. -/
  fresh : start ≤ subject.size → ∀ g span, after.group g = some span →
    (answer = .ok .tooManySubstrings ∨ ∃ n, answer = .ok (.matched n)) ∧
      ∃ groups, e.search subject start = .ok (some groups) ∧ groups.span? g = some span
  forgets : start ≤ subject.size → ∀ other : MatchOffsets, other.size = offsets.size →
    e.exec subject start mode other = (answer, after)
  matched : ∀ n, answer = .ok (.matched n) → 1 ≤ n ∧ n ≤ offsets.groupCapacity ∧
    ∃ groups, e.search subject start = .ok (some groups) ∧ groups.Bound n ∧
      ∀ g, after.group g = groups.span? g
  tooMany : answer = .ok .tooManySubstrings → ∃ groups,
    e.search subject start = .ok (some groups) ∧
      ∀ g < offsets.groupCapacity, after.group g = groups.span? g
  tooMany_iff : answer = .ok .tooManySubstrings ↔ (∃ outcome, answer = .ok outcome) ∧
    ∃ whole captures, e.search subject start = .ok (some (some whole :: captures)) ∧
      mode.Allows start whole ∧ Groups.Exceeds (some whole :: captures) offsets.groupCapacity
  unset : answer = .ok .noMatch → ∀ g, after.group g = none
  noMatch_iff : (∃ outcome, answer = .ok outcome) → (answer = .ok .noMatch ↔
    e.search subject start = .ok none ∨
      ∃ whole captures, e.search subject start = .ok (some (some whole :: captures)) ∧
        ¬mode.Allows start whole)
  /-- The room for groups and what was recorded before decide neither on errors nor on matches. -/
  steady : ∀ other : MatchOffsets,
    (∀ error, (e.exec subject start mode other).1 = .error error ↔ answer = .error error) ∧
      ((e.exec subject start mode other).1 = .ok .noMatch ↔ answer = .ok .noMatch)

variable {e : Engine} {subject : ByteArray} {start : Nat} {mode : SearchMode}
  {offsets : MatchOffsets}

theorem contract_of_beyond (hBeyond : subject.size < start) (offsets : MatchOffsets) :
    e.Contract subject start mode offsets (.error (.ofKind .badOffset)) offsets where
  badOffset_iff := iff_of_true rfl hBeyond
  untouched _ := rfl
  fresh hStart := absurd hBeyond (Nat.not_lt.mpr hStart)
  forgets hStart := absurd hBeyond (Nat.not_lt.mpr hStart)
  matched := nofun
  tooMany := nofun
  tooMany_iff := ⟨nofun, fun ⟨hAnswered, _⟩ => nomatch hAnswered⟩
  unset := nofun
  noMatch_iff := nofun
  steady other := by
    rw [e.exec_of_beyond hBeyond]
    exact ⟨fun _ => .rfl, .rfl⟩

theorem contract_of_error (hStart : start ≤ subject.size) {error : EngineError}
    (hOther : error ≠ .ofKind .badOffset)
    (hExec : ∀ offsets, e.exec subject start mode offsets = (.error error, offsets.clear))
    (offsets : MatchOffsets) :
    e.Contract subject start mode offsets (.error error) offsets.clear where
  badOffset_iff := iff_of_false (fun h => hOther (Except.error.inj h)) (Nat.not_lt.mpr hStart)
  untouched hBeyond := absurd hBeyond (Nat.not_lt.mpr hStart)
  fresh _ g span hGroup := by
    rw [MatchOffsets.group_clear] at hGroup
    cases hGroup
  forgets _ other hSize := by
    rw [e.exec_eq_of_size_eq mode hStart hSize, hExec]
  matched := nofun
  tooMany := nofun
  tooMany_iff := ⟨nofun, fun ⟨hAnswered, _⟩ => nomatch hAnswered⟩
  unset := nofun
  noMatch_iff := nofun
  steady other := by
    rw [hExec other]
    exact ⟨fun _ => .rfl, .rfl⟩

theorem contract_of_noMatch (hStart : start ≤ subject.size)
    (hExec : ∀ offsets, e.exec subject start mode offsets = (.ok .noMatch, offsets.clear))
    (hNone : e.search subject start = .ok none ∨
      ∃ whole captures, e.search subject start = .ok (some (some whole :: captures)) ∧
        ¬mode.Allows start whole) (offsets : MatchOffsets) :
    e.Contract subject start mode offsets (.ok .noMatch) offsets.clear where
  badOffset_iff := iff_of_false nofun (Nat.not_lt.mpr hStart)
  untouched hBeyond := absurd hBeyond (Nat.not_lt.mpr hStart)
  fresh _ g span hGroup := by
    rw [MatchOffsets.group_clear] at hGroup
    cases hGroup
  forgets _ other hSize := by
    rw [e.exec_eq_of_size_eq mode hStart hSize, hExec]
  matched := nofun
  tooMany := nofun
  tooMany_iff := by
    refine ⟨nofun, ?_⟩
    rintro ⟨-, whole, captures, hSearch, hAllows, -⟩
    rcases hNone with hNothing | ⟨whole', captures', hSearch', hRefused⟩
    · cases hSearch.symm.trans hNothing
    · cases hSearch.symm.trans hSearch'
      exact absurd hAllows hRefused
  unset _ := offsets.group_clear
  noMatch_iff _ := iff_of_true rfl hNone
  steady other := by
    rw [hExec other]
    exact ⟨fun _ => .rfl, .rfl⟩

theorem record_ne_noMatch {whole : Span} (hAllows : mode.Allows start whole)
    (offsets : MatchOffsets) (captures : Groups) :
    (record offsets start mode (some whole :: captures)).1 ≠ .noMatch := by
  rw [record_allowed hAllows]
  dsimp only
  split <;> nofun

theorem contract_of_match (hStart : start ≤ subject.size) {whole : Span} {captures : Groups}
    (hSearch : e.search subject start = .ok (some (some whole :: captures)))
    (hAllows : mode.Allows start whole)
    (hExec : ∀ offsets, e.exec subject start mode offsets =
      (.ok (record offsets.clear start mode (some whole :: captures)).1,
        (record offsets.clear start mode (some whole :: captures)).2))
    (hRoom : 1 ≤ offsets.groupCapacity) :
    e.Contract subject start mode offsets (e.exec subject start mode offsets).1
      (e.exec subject start mode offsets).2 := by
  obtain ⟨outcome, after, hRecord, hCapacity, hHolds, hOutcome⟩ :=
    record_kept hAllows hRoom captures
  rw [hExec offsets, hRecord]
  have hGroup : ∀ g < offsets.groupCapacity, after.group g = Groups.span? (some whole :: captures) g :=
    fun g hg => hHolds g (hCapacity.symm ▸ hg)
  have hSome : outcome = .tooManySubstrings ∨ ∃ n, outcome = .matched n := by
    rcases hOutcome with ⟨hTooMany, -⟩ | ⟨n, hMatched, -⟩
    · exact .inl hTooMany
    · exact .inr ⟨n, hMatched⟩
  have hMatch : outcome ≠ .noMatch := by
    rintro rfl
    rcases hSome with hTooMany | ⟨n, hMatched⟩
    · cases hTooMany
    · cases hMatched
  exact {
    badOffset_iff := iff_of_false (by rintro ⟨⟩) (Nat.not_lt.mpr hStart)
    untouched := fun hBeyond => absurd hBeyond (Nat.not_lt.mpr hStart)
    fresh := by
      intro _ g span hRecorded
      have hFits := hCapacity ▸ MatchOffsets.lt_groupCapacity_of_group hRecorded
      refine ⟨?_, _, hSearch, ?_⟩
      · rcases hSome with rfl | ⟨n, rfl⟩
        · exact .inl rfl
        · exact .inr ⟨n, rfl⟩
      · rw [← hGroup g hFits, hRecorded]
    forgets := by
      intro _ other hSize
      rw [e.exec_eq_of_size_eq mode hStart hSize, hExec, hRecord]
    matched := by
      rintro n ⟨⟩
      obtain ⟨hTooMany, -⟩ | ⟨_, ⟨⟩, hBound, hFits⟩ := hOutcome
      · cases hTooMany
      have hAll := hHolds.all (hCapacity.symm ▸ hFits)
      obtain ⟨top, ⟨hTop, hHighest⟩, rfl⟩ := hBound
      refine ⟨Nat.le_add_left 1 top, ?_, _, hSearch, ⟨top, ⟨hTop, hHighest⟩, rfl⟩, hAll⟩
      exact Nat.lt_of_not_le fun hBeyond => hFits ⟨top, hBeyond, hTop⟩
    tooMany := fun _ => ⟨_, hSearch, hGroup⟩
    tooMany_iff := by
      constructor
      · rintro ⟨⟩
        obtain ⟨-, hExceeds⟩ | ⟨n, hMatched, -⟩ := hOutcome
        · exact ⟨⟨_, rfl⟩, whole, captures, hSearch, hAllows, hExceeds⟩
        · cases hMatched
      · rintro ⟨-, whole', captures', hSearch', -, hExceeds⟩
        cases hSearch.symm.trans hSearch'
        obtain ⟨rfl, -⟩ | ⟨n, -, -, hFits⟩ := hOutcome
        · rfl
        · exact absurd hExceeds hFits
    unset := fun hNone => absurd (Except.ok.inj hNone) hMatch
    noMatch_iff := by
      refine fun _ => iff_of_false (fun hNone => hMatch (Except.ok.inj hNone)) ?_
      rintro (hNothing | ⟨whole', captures', hSearch', hRefused⟩)
      · cases hSearch.symm.trans hNothing
      · cases hSearch.symm.trans hSearch'
        exact hRefused hAllows
    steady := by
      intro other
      rw [hExec other]
      refine ⟨fun error => iff_of_false ?_ ?_, iff_of_false ?_ ?_⟩
      · rintro ⟨⟩
      · rintro ⟨⟩
      · exact fun hNone => record_ne_noMatch hAllows _ _ (Except.ok.inj hNone)
      · exact fun hNone => hMatch (Except.ok.inj hNone) }

/-- Every search keeps its contract, whichever engine is asked, as long as the engine lists the whole
match first among the groups of a match. -/
theorem contract_exec (hRoom : 1 ≤ offsets.groupCapacity)
    (hWhole : ∀ groups, e.search subject start = .ok (some groups) →
      ∃ whole captures, groups = some whole :: captures) (mode : SearchMode) :
    e.Contract subject start mode offsets (e.exec subject start mode offsets).1
      (e.exec subject start mode offsets).2 := by
  obtain hBeyond | hStart := Nat.lt_or_ge subject.size start
  · rw [e.exec_of_beyond hBeyond]
    exact contract_of_beyond hBeyond offsets
  · obtain ⟨error, hOther, hExec⟩ | ⟨found, hSearch, hExec⟩ := e.exec_cases mode hStart
    · rw [hExec offsets]
      exact contract_of_error hStart hOther hExec offsets
    cases found with
    | none =>
      rw [hExec offsets]
      exact contract_of_noMatch hStart hExec (.inl hSearch) offsets
    | some groups =>
      obtain ⟨whole, captures, rfl⟩ := hWhole groups hSearch
      by_cases hAllows : mode.Allows start whole
      · exact contract_of_match hStart hSearch hAllows hExec hRoom
      · have hNoMatch : ∀ offsets, e.exec subject start mode offsets =
            (.ok .noMatch, offsets.clear) := by
          intro offsets
          rw [hExec, Option.getD_some, record_refused hAllows]
        rw [hNoMatch offsets]
        exact contract_of_noMatch hStart hNoMatch (.inr ⟨whole, captures, hSearch, hAllows⟩) offsets

/-- Room for the whole match alone, taken by an earlier search. -/
theorem contract_exec_optional :
    let offsets : MatchOffsets := ⟨#[some 7, some 9, none]⟩
    ∃ p, CompiledPattern.ofDelimited "/(a)?(b)?(c)?/".toUTF8 default = .ok p ∧
      1 ≤ offsets.groupCapacity ∧
      (∀ groups, p.engine.search "xbz".toUTF8 1 = .ok (some groups) →
        ∃ whole captures, groups = some whole :: captures) ∧
      p.engine.exec "xbz".toUTF8 1 { notEmptyAtStart := true } offsets =
        (.ok .tooManySubstrings, ⟨#[some 1, some 2, none]⟩) ∧
      p.engine.Contract "xbz".toUTF8 1 { notEmptyAtStart := true } offsets
        (.ok .tooManySubstrings) ⟨#[some 1, some 2, none]⟩ := by
  intro offsets
  have hComputed : ((CompiledPattern.ofDelimited "/(a)?(b)?(c)?/".toUTF8 default).toOption.map
      fun p => ((p.engine.search "xbz".toUTF8 1).toOption,
        (p.engine.exec "xbz".toUTF8 1 { notEmptyAtStart := true } offsets).1.toOption,
        (p.engine.exec "xbz".toUTF8 1 { notEmptyAtStart := true } offsets).2)) =
      some (some (some [some ⟨1, 2⟩, none, some ⟨1, 2⟩, none]), some .tooManySubstrings,
        ⟨#[some 1, some 2, none]⟩) := by decide +kernel
  obtain ⟨p, hCompiled, hFacts⟩ := Option.map_eq_some_iff.mp hComputed
  obtain ⟨hFound, hFacts⟩ := Prod.mk.inj hFacts
  obtain ⟨hAnswer, hAfter⟩ := Prod.mk.inj hFacts
  have hWhole : ∀ groups, p.engine.search "xbz".toUTF8 1 = .ok (some groups) →
      ∃ whole captures, groups = some whole :: captures := by
    intro groups hSearch
    rw [hSearch] at hFound
    cases hFound
    exact ⟨_, _, rfl⟩
  have hExec : p.engine.exec "xbz".toUTF8 1 { notEmptyAtStart := true } offsets =
      (.ok .tooManySubstrings, ⟨#[some 1, some 2, none]⟩) :=
    Prod.ext (eq_ok_of_toOption hAnswer) hAfter
  have hRoom : 1 ≤ offsets.groupCapacity := by decide
  have hContract := contract_exec hRoom hWhole { notEmptyAtStart := true }
  rw [hExec] at hContract
  exact ⟨p, eq_ok_of_toOption hCompiled, hRoom, hWhole, hExec, hContract⟩

end Engine

end PerlPattern
