import PerlPattern.Proofs.LimitedRuns
import PerlPattern.Proofs.ShortRuns
import PerlPattern.Proofs.WordSums

/-! # Where the loops stay within the subject

Whatever a matcher answers, the loops search no further than the end of the
subject, but for one answer each. Substitution trusts a match that is left out
of its own count, and the search for one match trusts the width of a unit. Any
other offset outside the subject that a loop would go by ends it with an
internal error. Sums are the one thing that the loops do not guard: a
replacement may be longer than a word can count.
-/

namespace PerlPattern

variable {σ : Type} {m : Matcher σ} {subject : ByteArray} {template : Template}

namespace SearchCall

/-- A whole match outside the subject that its own count leaves out. -/
def Slips (call : SearchCall) (len : Nat) : Prop :=
  call.answer = .ok (.matched 0) ∧ ∃ whole, call.offsets.group 0 = some whole ∧ ¬whole.Within len

/-- A match of which a group that is counted lies outside the subject. -/
def Strays (call : SearchCall) (len : Nat) : Prop :=
  ∃ outcome count, call.answer = .ok outcome ∧ outcome.matchCount? call.offsets = some count ∧
    ∃ group < count, ∃ span, call.offsets.group group = some span ∧ ¬span.Within len

/-- A match that is not recorded, starts before the search or ends past the subject. -/
def Misplaced (call : SearchCall) (len : Nat) : Prop :=
  ∃ outcome count, call.answer = .ok outcome ∧ outcome.matchCount? call.offsets = some count ∧
    Occurrence.wholeWithin? call.offsets call.start len = none

/-- No match after an empty one, with a unit to step over that is longer than what is left. -/
def Oversteps (call : SearchCall) (len : Nat) : Prop :=
  call.answer = .ok .noMatch ∧ call.mode.notEmptyAtStart = true ∧ call.start < len ∧
    len - call.start < call.width

end SearchCall

/-- The searches of a log were made within the subject, and the next one starts there too. -/
structure Inside (len start : Nat) (log : List SearchCall) : Prop where
  start_le : start ≤ len
  calls : ∀ call ∈ log, call.start ≤ len

theorem Inside.append {len start : Nat} {log : List SearchCall} (h : Inside len start log)
    {call : SearchCall} (hCall : call.start = start) {next : Nat} (hNext : next ≤ len) :
    Inside len next (log ++ [call]) := by
  refine ⟨hNext, ?_⟩
  intro c hc
  rcases List.mem_append.mp hc with hBefore | hLast
  · exact h.calls c hBefore
  · rw [List.mem_singleton.mp hLast, hCall]
    exact h.start_le

namespace Pass

theorem guarded_of_call {p : Pass (Logged σ)} (h : ¬(p.call m subject).Slips subject.size) :
    p.Guarded m.logged subject := by
  intro hZero whole hWhole
  by_contra hOutside
  exact h ⟨hZero, whole, hWhole, hOutside⟩

theorem not_strays_of_checked {p : Pass (Logged σ)} {outcome : Outcome} {offsets : MatchOffsets}
    {s : Logged σ} {count : Nat} {whole : Span}
    (hSearch : p.search m.logged subject = (.ok outcome, offsets, s))
    (hCount : outcome.matchCount? offsets = some count)
    (hChecked : Checked offsets count p.start subject.size p.notEmpty whole) :
    ¬(p.call m subject).Strays subject.size := by
  rintro ⟨outcome', count', hAnswer, hCount', group, hGroup, span, hSpan, hOutside⟩
  unfold call at hAnswer hCount' hSpan
  rw [hSearch] at hAnswer hCount' hSpan
  cases hAnswer
  cases hCount.symm.trans hCount'
  have hRoom := MatchOffsets.lt_groupCapacity_of_group hSpan
  exact hOutside (hChecked.within group (Nat.lt_min.mpr ⟨hGroup, hRoom⟩) span hSpan)

theorem Step.inside {p q : Pass (Logged σ)} (h : Step m.logged subject template p q)
    (hBefore : (∃ call ∈ p.state.2, call.Slips subject.size) ∨
      Inside subject.size p.start p.state.2) :
    (∃ call ∈ q.state.2, call.Slips subject.size) ∨ Inside subject.size q.start q.state.2 := by
  rw [h.log_eq]
  rcases hBefore with ⟨call, hCall, hSlips⟩ | hInside
  · exact .inl ⟨call, List.mem_append_left _ hCall, hSlips⟩
  · by_cases hSlips : (p.call m subject).Slips subject.size
    · exact .inl ⟨_, List.mem_append_right _ (List.mem_singleton_self _), hSlips⟩
    · exact .inr (hInside.append rfl ((guarded_of_call hSlips).start_le h).2)

/-- A match that strays is looked at only once the limit is used up. -/
theorem Step.spent_of_strays {p q : Pass (Logged σ)} (h : Step m.logged subject template p q)
    (hBefore : ∀ call ∈ p.state.2, call.Strays subject.size → p.remaining = some 0) :
    ∀ call ∈ q.state.2, call.Strays subject.size → q.remaining = some 0 := by
  intro call hCall hStrays
  rw [h.log_eq] at hCall
  cases h with
  | replaced outcome offsets state count whole out hSearch hCount hLeft hChecked hGrow hInside =>
    rcases List.mem_append.mp hCall with hEarlier | hLast
    · exact absurd (hBefore call hEarlier hStrays) hLeft
    · rw [List.mem_singleton.mp hLast] at hStrays
      exact absurd hStrays (not_strays_of_checked hSearch hCount hChecked)
  | stepped outcome offsets state out hSearch hNone hNotEmpty hInside hGrow =>
    rcases List.mem_append.mp hCall with hEarlier | hLast
    · exact hBefore call hEarlier hStrays
    · rw [List.mem_singleton.mp hLast] at hStrays
      obtain ⟨outcome', count, hAnswer, hCount, _⟩ := hStrays
      unfold Pass.call at hAnswer hCount
      rw [hSearch] at hAnswer hCount
      cases hAnswer
      exact hNone.resolve_left fun hNothing => nomatch hNothing.symm.trans hCount

/-- A round that finds a match that strays fails, as long as it may still be replaced. -/
theorem round_of_strays {p : Pass (Logged σ)} (hStrays : (p.call m subject).Strays subject.size)
    (hLeft : p.remaining ≠ some 0) (template : Template) : ∃ q,
    p.round m.logged subject template =
      .stop q (.error (.error (.engine EngineErrorKind.internal))) := by
  obtain ⟨outcome, count, hAnswer, hCount, group, hGroup, span, hSpan, hOutside⟩ := hStrays
  rcases hSearch : p.search m.logged subject with ⟨answer, offsets, s⟩
  unfold call at hAnswer hCount hSpan
  rw [hSearch] at hAnswer hCount hSpan
  cases hAnswer
  dsimp only at hCount hSpan
  rw [round_of_counted hSearch hCount hLeft, replace]
  dsimp only
  cases hMatch : checkedMatch offsets count p.start subject.size p.notEmpty with
  | error e =>
    cases checkedMatch_error hMatch
    exact ⟨_, rfl⟩
  | ok whole =>
    have hRoom := MatchOffsets.lt_groupCapacity_of_group hSpan
    exact absurd ((checkedMatch_eq_ok_iff.mp hMatch).within group (Nat.lt_min.mpr ⟨hGroup, hRoom⟩)
      span hSpan) hOutside

theorem Counted.limit_eq {limit : Option Nat} {p : Pass σ} (h : p.Counted limit)
    (hSpent : p.remaining = some 0) : limit = some p.accepted.length := by
  cases limit with
  | none => cases h.remaining.symm.trans hSpent
  | some n => rw [h.length_eq hSpent]

theorem run_safe (state : σ) (offsets : MatchOffsets) (out : OutputBuffer) (limit : Option Nat)
    (m : Matcher σ) (subject : ByteArray) (template : Template) (patience : Nat) :
    let run := (first (state, []) offsets out limit).run m.logged subject template patience
    ((∃ call ∈ run.1.state.2, call.Slips subject.size) ∨
      (∀ call ∈ run.1.state.2, call.start ≤ subject.size) ∧
        ((∃ report, run.2 = .ok report) ∨ ∃ e, run.2 = .error (.error e))) ∧
    ∀ call ∈ run.1.state.2, call.Strays subject.size →
      run.2 = .error (.error (.engine EngineErrorKind.internal)) ∨
        limit = some run.1.accepted.length := by
  intro run
  obtain ⟨q, hSteps, hLog, hEnd⟩ :=
    (first (state, []) offsets out limit).run_ends_logged m subject template patience
  change run.1.state.2 = _ at hLog
  have hInside : (∃ call ∈ q.state.2, call.Slips subject.size) ∨
      Inside subject.size q.start q.state.2 :=
    hSteps.preserves (fun _ _ hStep hBefore => hStep.inside hBefore)
      (.inr ⟨start_first_le _ _ _ _ _, fun _ hCall => nomatch hCall⟩)
  have hSpent : q.Counted limit ∧
      ∀ call ∈ q.state.2, call.Strays subject.size → q.remaining = some 0 :=
    hSteps.preserves
      (P := fun r => r.Counted limit ∧
        ∀ call ∈ r.state.2, call.Strays subject.size → r.remaining = some 0)
      (fun _ _ hStep hBefore => ⟨hStep.counted hBefore.1, hStep.spent_of_strays hBefore.2⟩)
      ⟨counted_first _ _ _ _, fun _ hCall => nomatch hCall⟩
  rw [hLog]
  constructor
  · rcases hInside with ⟨call, hCall, hSlips⟩ | hInside
    · exact .inl ⟨call, List.mem_append_left _ hCall, hSlips⟩
    · by_cases hSlips : (q.call m subject).Slips subject.size
      · exact .inl ⟨_, List.mem_append_right _ (List.mem_singleton_self _), hSlips⟩
      · refine .inr ⟨(hInside.append rfl hInside.start_le).calls, ?_⟩
        have hGuarded := guarded_of_call hSlips
        rcases hEnd with hStop | ⟨hNext, hFar, _⟩
        · cases hResult : run.2 with
          | ok report => exact .inl ⟨report, rfl⟩
          | error fault =>
            rw [hResult] at hStop
            obtain ⟨e, rfl⟩ := hGuarded.eq_error hInside.start_le (fails_of_round hStop)
            exact .inr ⟨e, rfl⟩
        · -- A guarded round lowers the rank, so the run does not stall after it.
          exact absurd (hGuarded.rank_lt (step_of_round hNext)) hFar
  · intro call hCall hStrays
    -- Earlier matches that stray lie beyond the limit, so only the last search can fail for one.
    rcases hEnd with hStop | ⟨hNext, _⟩
    · by_cases hLeft : q.remaining = some 0
      · rw [accepted_of_stop hStop]
        exact .inr (hSpent.1.limit_eq hLeft)
      · rcases List.mem_append.mp hCall with hEarlier | hLast
        · exact absurd (hSpent.2 call hEarlier hStrays) hLeft
        · rw [List.mem_singleton.mp hLast] at hStrays
          obtain ⟨_, hFails⟩ := round_of_strays hStrays hLeft template
          exact .inl (Round.stop.inj (hStop.symm.trans hFails)).2
    · have hStep := step_of_round hNext
      rw [← hLog] at hCall
      exact .inr ((hStep.counted hSpent.1).limit_eq
        (hStep.spent_of_strays hSpent.2 call hCall hStrays))

end Pass

namespace Scan

theorem Step.inside {p q : Scan (Logged σ)} (h : Step m.logged subject p q)
    (hBefore : (∃ call ∈ p.state.2, call.Oversteps subject.size) ∨
      Inside subject.size p.start p.state.2) :
    (∃ call ∈ q.state.2, call.Oversteps subject.size) ∨ Inside subject.size q.start q.state.2 := by
  have hLog := h.log_eq
  rcases hBefore with ⟨call, hCall, hOversteps⟩ | hInside
  · refine .inl ⟨call, ?_, hOversteps⟩
    rw [hLog]
    exact List.mem_append_left _ hCall
  · cases h with
    | passed outcome offsets state count whole left hSearch hCount hWhole hLeft =>
      rw [hLog]
      exact .inr (hInside.append rfl (Occurrence.wholeWithin?_eq_some_iff.mp hWhole).2.2)
    | stepped offsets state hSearch hNotEmpty hBefore =>
      rw [hLog]
      by_cases hLong : subject.size - p.start < m.advance subject p.start state.1
      · refine .inl ⟨p.call m subject, List.mem_append_right _ (List.mem_singleton_self _),
          congrArg Prod.fst hSearch, hNotEmpty, hBefore, ?_⟩
        unfold call
        rw [hSearch]
        exact hLong
      · refine .inr (hInside.append rfl ?_)
        change p.start + max 1 (m.advance subject p.start state.1) ≤ subject.size
        omega

theorem Step.not_misplaced {p q : Scan (Logged σ)} (h : Step m.logged subject p q) :
    ¬(p.call m subject).Misplaced subject.size := by
  rintro ⟨outcome', count', hAnswer, hCount', hNone⟩
  unfold call at hAnswer hCount' hNone
  cases h with
  | passed outcome offsets state count whole left hSearch hCount hWhole hLeft =>
    rw [hSearch] at hNone
    cases hNone.symm.trans hWhole
  | stepped offsets state hSearch =>
    rw [hSearch] at hAnswer
    cases hAnswer
    cases hCount'

theorem Ends.of_misplaced {p : Scan (Logged σ)} {result : Result (Option Occurrence)}
    (h : Ends m.logged subject p result) (hMisplaced : (p.call m subject).Misplaced subject.size) :
    result = .error (.engine EngineErrorKind.internal) := by
  obtain ⟨outcome', count', hAnswer, hCount', hNone⟩ := hMisplaced
  unfold call at hAnswer hCount' hNone
  cases h with
  | engine e offsets state hSearch =>
    rw [hSearch] at hAnswer
    cases hAnswer
  | misplaced => rfl
  | found outcome offsets state count whole hSearch hCount hWhole hLeft =>
    rw [hSearch] at hNone
    cases hNone.symm.trans hWhole
  | noMore offsets state hSearch =>
    rw [hSearch] at hAnswer
    cases hAnswer
    cases hCount'

theorem find_safe (state : σ) (offsets : MatchOffsets) (occurrence : Nat) (m : Matcher σ)
    (subject : ByteArray) :
    let run := (first (state, []) offsets occurrence).find m.logged subject
    ((∃ call ∈ run.2.2, call.Oversteps subject.size) ∨
      ∀ call ∈ run.2.2, call.start ≤ subject.size) ∧
    ∀ call ∈ run.2.2, call.Misplaced subject.size →
      run.1 = .error (.engine EngineErrorKind.internal) := by
  intro run
  obtain ⟨q, hSteps, hEnds, hState⟩ := (first (state, []) offsets occurrence).find_ends m.logged
    subject
  have hLog : run.2.2 = q.state.2 ++ [q.call m subject] := by
    rw [← q.log_search m subject, ← hState]
  have hInside : (∃ call ∈ q.state.2, call.Oversteps subject.size) ∨
      Inside subject.size q.start q.state.2 :=
    hSteps.preserves (fun _ _ hStep hBefore => hStep.inside hBefore)
      (.inr ⟨Nat.zero_le _, fun _ hCall => nomatch hCall⟩)
  have hPlaced : ∀ call ∈ q.state.2, ¬call.Misplaced subject.size := by
    refine hSteps.preserves
      (P := fun r => ∀ call ∈ r.state.2, ¬call.Misplaced subject.size) ?_ ?_
    · intro p p' hStep hBefore call hCall
      rw [hStep.log_eq] at hCall
      rcases List.mem_append.mp hCall with hEarlier | hLast
      · exact hBefore call hEarlier
      · rw [List.mem_singleton.mp hLast]
        exact hStep.not_misplaced
    · intro call hCall
      cases hCall
  rw [hLog]
  constructor
  · rcases hInside with ⟨call, hCall, hOversteps⟩ | hInside
    · exact .inl ⟨call, List.mem_append_left _ hCall, hOversteps⟩
    · exact .inr (hInside.append rfl hInside.start_le).calls
  · intro call hCall hMisplaced
    rcases List.mem_append.mp hCall with hEarlier | hLast
    · exact absurd hMisplaced (hPlaced call hEarlier)
    · rw [List.mem_singleton.mp hLast] at hMisplaced
      exact hEnds.of_misplaced hMisplaced

end Scan

/-- Substitution searches within the subject, and ends with a report or an error of the library, but
for a match that is left out of its own count; the search for one match searches within the subject
but for a unit that is too long. Matches outside the subject are internal errors in both: in
substitution any group that is counted, as long as matches are still replaced, and in the search for
one match the whole match alone. In words both do the same, unless they have to add up to more than a
word holds. -/
theorem loops_safe (m : Matcher σ) (state : σ) (subject : ByteArray) :
    (∀ template limit out patience,
      let run := substituteInto m state subject template limit out patience
      let words := substituteWords? m state subject template limit out patience
      let calls := substituteCalls m state subject template limit out patience
      (out.capacity ≤ maxAllocation + 1 → words = some run ∨ words = none ∧
        ∃ p ∈ substitutePasses m state subject template limit out patience,
          p.Overflows m subject template) ∧
      ((∃ call ∈ calls, call.Slips subject.size) ∨
        (∀ call ∈ calls, call.start ≤ subject.size) ∧
          ((∃ report, run.result = .ok report) ∨ ∃ e, run.result = .error (.error e))) ∧
      ∀ call ∈ calls, call.Strays subject.size →
        run.result = .error (.error (.engine EngineErrorKind.internal)) ∨
          limit = some run.accepted.length) ∧
    ∀ occurrence,
      let found := findOccurrence m state subject occurrence
      let words := findOccurrenceWords? m state subject occurrence
      let calls := occurrenceCalls m state subject occurrence
      (words = some found ∨ words = none ∧ ∃ call ∈ calls, call.Overflows subject.size) ∧
      ((∃ call ∈ calls, call.Oversteps subject.size) ∨ ∀ call ∈ calls, call.start ≤ subject.size) ∧
      ∀ call ∈ calls, call.Misplaced subject.size →
        found.1 = .error (.engine EngineErrorKind.internal) := by
  constructor
  · intro template limit out patience
    refine ⟨fun hCapacity => substituteWords?_cases m state subject template limit hCapacity patience,
      ?_⟩
    rw [substituteInto_logged m state [] subject template limit out patience]
    unfold substituteCalls
    obtain ⟨e, out', _, _, hEnd⟩ | ⟨offsets, grown, _, _, hEnd⟩ :=
      substituteInto_cases m.logged (state, []) subject template limit out patience
    · rw [hEnd]
      refine ⟨.inr ⟨?_, .inr ⟨e, rfl⟩⟩, ?_⟩
      · intro call hCall
        cases hCall
      · intro call hCall
        cases hCall
    · have hSafe := Pass.run_safe state offsets grown limit m subject template patience
      rw [hEnd]
      unfold Substitution.ofRun
      dsimp only at hSafe ⊢
      rw [List.length_reverse]
      exact hSafe
  · intro occurrence
    refine ⟨findOccurrenceWords?_cases m state subject occurrence, ?_⟩
    rw [findOccurrence_logged m state [] subject occurrence]
    unfold occurrenceCalls
    obtain ⟨e, hEnd⟩ | ⟨offsets, hEnd⟩ :=
      findOccurrence_cases m.logged (state, []) subject occurrence
    · rw [hEnd]
      refine ⟨.inr ?_, ?_⟩
      · intro call hCall
        cases hCall
      · intro call hCall
        cases hCall
    · rw [hEnd]
      exact Scan.find_safe state offsets occurrence m subject

/-- A match outside the subject that its count leaves out is replaced, and the next search starts
behind the end; a unit that is too long takes the search for one match there. -/
theorem loops_unsafe :
    (substituteInto (Matcher.scripted 0 1) [(.ok (.matched 0), [⟨1, 9⟩])] "abc".toUTF8
        (Template.parse "x".toUTF8) none {} 0).result = .error .outOfRange ∧
    (substituteCalls (Matcher.scripted 0 1) [(.ok (.matched 0), [⟨1, 9⟩])] "abc".toUTF8
        (Template.parse "x".toUTF8) none {} 0).map (·.start) = [0, 9] ∧
    (occurrenceCalls (Matcher.scripted 0 10) [(.ok (.matched 1), [⟨0, 0⟩])] "abc".toUTF8 2).map
        (·.start) = [0, 0, 10] := by
  refine ⟨?_, ?_, ?_⟩
  · exact substituteInto_of_within 3 (·.result) (by decide +kernel) 0
  · unfold substituteCalls
    refine substituteInto_of_within 3 (m := (Matcher.scripted 0 1).logged)
      (fun s => s.state.2.map (·.start)) ?_ 0
    decide +kernel
  · have hFind : findOccurrence (Matcher.scripted 0 10).logged
        ([(.ok (.matched 1), [⟨0, 0⟩])], []) "abc".toUTF8 2 = _ :=
      Scan.find_of_steps (p := .first _ ⟨#[none, none, none]⟩ 2)
        (.head (.passed _ _ _ _ _ 0 rfl rfl rfl rfl)
          (.single (.stepped _ _ rfl rfl (by decide))))
        (.noMore _ _ rfl (.inl rfl))
    unfold occurrenceCalls
    rw [hFind]
    rfl

end PerlPattern
