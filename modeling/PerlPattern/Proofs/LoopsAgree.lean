import Mathlib.Data.Option.Basic
import PerlPattern.Proofs.SearchBound
import PerlPattern.Proofs.ShortRuns

/-! # The loops agree

Against a matcher that behaves well, a match found by its number is the one that
a substitution without a limit replaces in its place. The search for one match
follows a pass round by round, from the same offset and in the same mode.
-/

namespace PerlPattern

variable {σ : Type} {m : Matcher σ} {subject : ByteArray} {template : Template}

/-- A match found is one that was replaced: it has the same groups and the same count. -/
def Occurrence.Shows (o : Occurrence) (a : Accepted) : Prop :=
  o.matchCount = a.count ∧ ∀ group, o.offsets.group group = a.offsets.group group

theorem Outcome.matchCount?_of_size_eq {outcome : Outcome} {offsets after : MatchOffsets}
    (hSize : offsets.size = after.size) :
    outcome.matchCount? after = outcome.matchCount? offsets := by
  cases outcome with
  | tooManySubstrings => exact congrArg some (MatchOffsets.groupCapacity_eq_of_size_eq hSize).symm
  | matched count => rfl
  | noMatch => rfl

theorem Matcher.WellBehaved.checked (hWell : m.WellBehaved subject) {start : Nat}
    {notEmpty : Bool} {offsets after : MatchOffsets} {state state' : σ} {outcome : Outcome}
    {whole : Span} (count : Nat) (hStart : start ≤ subject.size)
    (hExec : m.exec subject start { notEmptyAtStart := notEmpty } offsets state =
      (.ok outcome, after, state'))
    (hMatch : outcome ≠ .noMatch) (hWhole : after.group 0 = some whole) :
    Checked after count start subject.size notEmpty whole := by
  obtain ⟨hAhead, _, hAgain⟩ := hWell.whole hStart hExec hMatch whole hWhole
  refine ⟨hWhole, hAhead, ?_, fun group _ => hWell.within hStart hExec hMatch group⟩
  rintro ⟨hFlag, hEmpty, _⟩
  have hGrows := (hAgain hFlag).2
  have hEnds : whole.stop ≤ whole.start := of_decide_eq_true hEmpty
  omega

namespace Pass

structure Unlimited (len : Nat) (p : Pass σ) : Prop where
  remaining : p.remaining = none
  start_le : p.start ≤ len
  room : 1 ≤ p.offsets.groupCapacity

theorem Unlimited.left {len : Nat} {p : Pass σ} (hUnlimited : p.Unlimited len) :
    p.remaining ≠ some 0 := by
  rw [hUnlimited.remaining]
  exact fun h => nomatch h

theorem Unlimited.none {len : Nat} {p : Pass σ} (hUnlimited : p.Unlimited len)
    {outcome : Outcome} {offsets : MatchOffsets}
    (hNone : outcome.matchCount? offsets = none ∨ p.remaining = some 0) :
    outcome.matchCount? offsets = none :=
  hNone.resolve_right hUnlimited.left

theorem Step.unlimited (hWell : m.WellBehaved subject) {p q : Pass σ}
    (h : Step m subject template p q) (hUnlimited : p.Unlimited subject.size) :
    q.Unlimited subject.size := by
  have hStart := (h.start_le hWell.countsWhole hUnlimited.start_le).2
  cases h with
  | replaced outcome offsets state count whole out hSearch hCount hLeft hChecked hGrow hInside =>
    refine ⟨?_, hStart, hWell.room hUnlimited.start_le hUnlimited.room hSearch⟩
    exact congrArg (Option.map (· - 1)) hUnlimited.remaining
  | stepped outcome offsets state out hSearch hNone hNotEmpty hInside hGrow =>
    exact ⟨hUnlimited.remaining, hStart, hWell.room hUnlimited.start_le hUnlimited.room hSearch⟩

theorem Fails.outOfMemory (hWell : m.WellBehaved subject) {p : Pass σ} {fault : PassFault}
    (h : Fails m subject template p fault) (hUnlimited : p.Unlimited subject.size) :
    fault = .error .outOfMemory := by
  have hStart := hUnlimited.start_le
  cases h with
  | engine e offsets state hSearch =>
    obtain ⟨outcome, after, state', hExec⟩ :=
      hWell.answers p.start { notEmptyAtStart := p.notEmpty } p.offsets p.state hStart
    rw [search, hExec] at hSearch
    cases hSearch
  | rejected outcome offsets state count hSearch hCount hLeft hNone =>
    have hMatch := Outcome.ne_noMatch hCount
    obtain ⟨whole, hWhole⟩ := hWell.records hStart hUnlimited.room hSearch hMatch
    exact absurd (hWell.checked count hStart hSearch hMatch hWhole) (hNone whole)
  | memory => rfl
  | matchOutside outcome offsets state count whole hSearch hCount hLeft hChecked hOutside =>
    have hMatch := Outcome.ne_noMatch hCount
    obtain ⟨hOrder, hStop⟩ :=
      hWell.within hStart hSearch hMatch 0 whole hChecked.group
    omega
  | startOutside hOutside => omega

/-- The search for one match finds the given matches when it starts where a pass stands. -/
def Finds (m : Matcher σ) (subject : ByteArray) (p : Pass σ) (l : List Accepted) : Prop :=
  ∀ offsets state, p.offsets.size = offsets.size → ∀ left, ∃ found,
    (Occurrence.findFrom m subject left p.start p.notEmpty offsets state).1 = .ok found ∧
      Option.Rel Occurrence.Shows found l[left]?

theorem search_eq (hWell : m.WellBehaved subject) {p : Pass σ} {outcome : Outcome}
    {offsets : MatchOffsets} {next : σ} (hStart : p.start ≤ subject.size)
    (hSearch : p.search m subject = (.ok outcome, offsets, next)) {offsets' : MatchOffsets}
    (state' : σ) (hSize : p.offsets.size = offsets'.size) : ∃ after next',
      m.exec subject p.start { notEmptyAtStart := p.notEmpty } offsets' state' =
        (.ok outcome, after, next') ∧
      offsets.size = after.size ∧ outcome.matchCount? after = outcome.matchCount? offsets ∧
      (outcome ≠ .noMatch → ∀ group, offsets.group group = after.group group) := by
  obtain ⟨outcome', after, next', hExec⟩ :=
    hWell.answers p.start { notEmptyAtStart := p.notEmpty } offsets' state' hStart
  obtain ⟨rfl, hAfter, hGroups⟩ := hWell.same hStart hSize hSearch hExec
  exact ⟨after, next', hExec, hAfter, Outcome.matchCount?_of_size_eq hAfter, hGroups⟩

/-- A round back, the search finds what it finds now, after the match that the round replaced. -/
theorem Step.finds (hWell : m.WellBehaved subject) {p q : Pass σ}
    (h : Step m subject template p q) (hUnlimited : p.Unlimited subject.size)
    {l : List Accepted} (hFinds : q.Finds m subject l) :
    ∃ l', q.accepted.reverse ++ l = p.accepted.reverse ++ l' ∧ p.Finds m subject l' := by
  have hStart := hUnlimited.start_le
  cases h with
  | replaced outcome offsets state count whole out hSearch hCount hLeft hChecked hGrow hInside =>
    refine ⟨⟨whole, offsets, count⟩ :: l, ?_, ?_⟩
    · rw [List.reverse_cons, List.append_assoc]
      rfl
    intro offsets' state' hSize left
    obtain ⟨after, next, hExec, hAfter, hSame, hGroups⟩ :=
      search_eq hWell hStart hSearch state' hSize
    have hMatch := Outcome.ne_noMatch hCount
    have hWithin := hWell.within hStart hSearch hMatch 0 whole hChecked.group
    have hWhole : Occurrence.wholeWithin? after p.start subject.size = some whole := by
      refine Occurrence.wholeWithin?_eq_some_iff.mpr ⟨?_, hChecked.start_le, hWithin.2⟩
      rw [← hGroups hMatch 0, hChecked.group]
    rw [Occurrence.findFrom, hExec]
    simp only [hSame, hCount, hWhole]
    cases left with
    | zero => exact ⟨_, rfl, .some ⟨rfl, fun group => (hGroups hMatch group).symm⟩⟩
    | succ left => exact hFinds after next hAfter left
  | stepped outcome offsets state out hSearch hNone hNotEmpty hInside hGrow =>
    refine ⟨l, rfl, ?_⟩
    intro offsets' state' hSize left
    obtain ⟨after, next, hExec, hAfter, hSame, _⟩ := search_eq hWell hStart hSearch state' hSize
    obtain ⟨hPositive, hFits⟩ := hWell.advance p.start state hInside
    -- The pass cuts its step down to the subject, the search does not.
    have hWidth : stepWidth m subject p.start state =
        max 1 (m.advance subject p.start next) := by
      unfold stepWidth
      rw [hWell.sameAdvance p.start next state]
      omega
    rw [Occurrence.findFrom, hExec]
    simp only [hSame, hUnlimited.none hNone, hNotEmpty, if_pos hInside]
    rw [← hWidth]
    exact hFinds after next hAfter left

theorem Ends.finds (hWell : m.WellBehaved subject) {p q : Pass σ} {report : SubstitutionReport}
    (h : Ends m subject p q report) (hUnlimited : p.Unlimited subject.size) :
    q.accepted = p.accepted ∧ p.Finds m subject [] := by
  cases h with
  | copied outcome offsets state out hSearch hNone hLast hInside hGrow =>
    refine ⟨rfl, ?_⟩
    intro offsets' state' hSize left
    obtain ⟨after, next, hExec, _, hSame, _⟩ :=
      search_eq hWell hUnlimited.start_le hSearch state' hSize
    refine ⟨none, ?_, .none⟩
    rw [Occurrence.findFrom, hExec]
    simp only [hSame, hUnlimited.none hNone]
    cases hFlag : p.notEmpty with
    | false => rfl
    | true =>
      have hEnd : ¬p.start < subject.size := by
        rcases hLast with hLast | hLast
        · rw [hFlag] at hLast
          cases hLast
        · omega
      simp only [if_neg hEnd]

/-- A chain of rounds back, the search finds the matches that the chain replaced first. -/
theorem Steps.finds (hWell : m.WellBehaved subject) {p q : Pass σ}
    (hSteps : Steps m subject template p q) (hUnlimited : p.Unlimited subject.size)
    (hFinds : q.Finds m subject []) :
    ∃ l, q.accepted.reverse = p.accepted.reverse ++ l ∧ p.Finds m subject l := by
  -- From the end back: what the search finds is known where the pass ends.
  induction hSteps using Relation.ReflTransGen.head_induction_on with
  | refl => exact ⟨[], (List.append_nil _).symm, hFinds⟩
  | head hStep _ ih =>
    obtain ⟨l, hAccepted, hLater⟩ := ih (hStep.unlimited hWell hUnlimited)
    obtain ⟨l', hSame, hNow⟩ := hStep.finds hWell hUnlimited hLater
    exact ⟨l', hAccepted.trans hSame, hNow⟩

end Pass

/-- Unless memory runs out, a substitution without a limit gives a report, and the search for one
match finds what stands in its place among the matches replaced. -/
theorem findOccurrence_finds (hWell : m.WellBehaved subject) (state : σ) (template : Template)
    (out : OutputBuffer) (patience : Nat)
    (hMemory : (substituteInto m state subject template none out patience).result ≠
      .error (.error .outOfMemory)) :
    (∃ report, (substituteInto m state subject template none out patience).result = .ok report) ∧
    ∀ n state', ∃ found, (findOccurrence m state' subject n).1 = .ok found ∧
      Option.Rel Occurrence.Shows found
        (substituteInto m state subject template none out patience).accepted[n - 1]? := by
  obtain ⟨captures, hCaptures⟩ := hWell.captures
  obtain ⟨e, out', hWhy, _, hEnd⟩ | ⟨offsets, grown, hOffsets, _, hEnd⟩ :=
    substituteInto_cases m state subject template none out patience
  · rw [hEnd] at hMemory
    rcases hWhy with rfl | hError
    · exact absurd rfl hMemory
    · rw [hCaptures state] at hError
      cases hError
  rw [hEnd] at hMemory ⊢
  rw [hCaptures state] at hOffsets
  have hFirst : (Pass.first state offsets grown none).Unlimited subject.size := by
    refine ⟨rfl, Nat.zero_le _, ?_⟩
    have hRoom : offsets.groupCapacity = max (captures + 1) 1 :=
      MatchOffsets.groupCapacity_of_ofGroupCapacity hOffsets
    exact hRoom ▸ Nat.le_max_right _ _
  obtain ⟨q, hSteps, hStop⟩ :=
    Pass.run_stops hWell.countsWhole _ template patience hFirst.start_le
  have hUnlimited : q.Unlimited subject.size :=
    hSteps.preserves (fun _ _ hStep hBefore => hStep.unlimited hWell hBefore) hFirst
  cases hResult : ((Pass.first state offsets grown none).run m subject template patience).2 with
  | error fault =>
    rw [hResult] at hStop
    rw [(Pass.fails_of_round hStop).outOfMemory hWell hUnlimited] at hResult
    exact absurd hResult hMemory
  | ok report =>
    rw [hResult] at hStop
    obtain ⟨hAccepted, hEnds⟩ := (Pass.ends_of_round hStop).finds hWell hUnlimited
    obtain ⟨l, hAll, hFinds⟩ := hSteps.finds hWell hFirst hEnds
    refine ⟨⟨report, hResult⟩, ?_⟩
    intro n state'
    have hSame : (Substitution.ofRun
        ((Pass.first state offsets grown none).run m subject template patience)).accepted = l := by
      rw [Substitution.ofRun, hAccepted, hAll]
      rfl
    rw [hSame, findOccurrence, hCaptures state', hOffsets]
    exact hFinds offsets state' rfl (n - 1)

/-- Unless memory runs out, a substitution without a limit gives a report, and the search for one
match finds its matches by their numbers, and no others. -/
theorem findOccurrence_agrees (hWell : m.WellBehaved subject) (state : σ) (template : Template)
    (out : OutputBuffer) (patience : Nat)
    (hMemory : (substituteInto m state subject template none out patience).result ≠
      .error (.error .outOfMemory)) :
    (∃ report, (substituteInto m state subject template none out patience).result = .ok report) ∧
    (∀ n state', 1 ≤ n →
      n ≤ (substituteInto m state subject template none out patience).accepted.length →
      ∃ o a, (findOccurrence m state' subject n).1 = .ok (some o) ∧
        (substituteInto m state subject template none out patience).accepted[n - 1]? = some a ∧
        o.Shows a) ∧
    (∀ n state',
      (substituteInto m state subject template none out patience).accepted.length < n →
      (findOccurrence m state' subject n).1 = .ok none) ∧
    ∀ state', findOccurrence m state' subject 0 = findOccurrence m state' subject 1 := by
  obtain ⟨hReport, hFinds⟩ := findOccurrence_finds hWell state template out patience hMemory
  refine ⟨hReport, ?_, ?_, fun _ => rfl⟩
  · intro n state' hSome hBound
    obtain ⟨found, hFound, hShows⟩ := hFinds n state'
    rw [List.getElem?_eq_getElem (by omega)] at hShows
    cases hShows with
    | some hShows => exact ⟨_, _, hFound, List.getElem?_eq_getElem (by omega), hShows⟩
  · intro n state' hBeyond
    obtain ⟨found, hFound, hShows⟩ := hFinds n state'
    rw [List.getElem?_eq_none (by omega)] at hShows
    cases hShows with
    | none => exact hFound

theorem findOccurrence_agrees_runs :
    (Matcher.runsOf 98).WellBehaved "abbc".toUTF8 ∧
    (substituteInto (Matcher.runsOf 98) () "abbc".toUTF8 (Template.parse "-".toUTF8) none {}
      0).accepted.length = 4 ∧
    (∃ o, (findOccurrence (Matcher.runsOf 98) () "abbc".toUTF8 2).1 = .ok (some o)) ∧
    (findOccurrence (Matcher.runsOf 98) () "abbc".toUTF8 5).1 = .ok none :=
  have hWell := Matcher.runsOf_wellBehaved 98 "abbc".toUTF8
  have hOk : (substituteInto (Matcher.runsOf 98) () "abbc".toUTF8
      (Template.parse "-".toUTF8) none {} 0).result = .ok { replacements := 4 } :=
    result_of_within 9 (by decide +kernel) 0
  have hMemory : (substituteInto (Matcher.runsOf 98) () "abbc".toUTF8
      (Template.parse "-".toUTF8) none {} 0).result ≠ .error (.error .outOfMemory) := by
    rw [hOk]
    exact fun h => nomatch h
  have hCount : (substituteInto (Matcher.runsOf 98) () "abbc".toUTF8
      (Template.parse "-".toUTF8) none {} 0).accepted.length = 4 :=
    substituteInto_of_within 9 (fun s => s.accepted.length) (by decide +kernel) 0
  have hAgrees := findOccurrence_agrees hWell () (Template.parse "-".toUTF8) {} 0 hMemory
  have hSecond : ∃ o, (findOccurrence (Matcher.runsOf 98) () "abbc".toUTF8 2).1 = .ok (some o) := by
    obtain ⟨o, _, hFound, _⟩ := hAgrees.2.1 2 () (by omega) (by omega)
    exact ⟨o, hFound⟩
  ⟨hWell, hCount, hSecond, hAgrees.2.2.1 5 () (by omega)⟩

end PerlPattern
