import PerlPattern.Proofs.Contracts
import PerlPattern.Proofs.Rounds
import PerlPattern.Proofs.Scans
import PerlPattern.Proofs.SearchLog

/-! # How many searches a loop makes

The log of a loop and what is left of its rank never exceed the rank that it
starts with. Substitution checks the matches it is given, so that it needs no
promise about where they lie; the search for one match relies on its matcher.
-/

namespace PerlPattern

variable {σ : Type} {m : Matcher σ} {subject : ByteArray} {template : Template}

namespace Pass

/-- A round that leads on is paid for by the rank. -/
theorem Step.log_add_rank_le (hCounts : m.CountsWhole subject) {p q : Pass (Logged σ)}
    (h : Step m.logged subject template p q) (hStart : p.start ≤ subject.size) :
    q.state.2.length + q.rank subject.size ≤ p.state.2.length + p.rank subject.size := by
  have hRank := h.rank_lt hCounts.logged hStart
  rw [h.log_eq, List.length_append, List.length_singleton]
  omega

theorem Steps.log_add_rank_le (hCounts : m.CountsWhole subject) {p q : Pass (Logged σ)}
    (hSteps : Steps m.logged subject template p q) (hStart : p.start ≤ subject.size) :
    q.state.2.length + q.rank subject.size ≤ p.state.2.length + p.rank subject.size := by
  induction hSteps with
  | refl => exact Nat.le_refl _
  | tail hBefore hLast ih =>
    have hInside := Steps.start_le hCounts.logged hBefore hStart
    exact Nat.le_trans (hLast.log_add_rank_le hCounts hInside) ih

theorem length_log_run (hCounts : m.CountsWhole subject) (p : Pass (Logged σ))
    (template : Template) (patience : Nat) (hStart : p.start ≤ subject.size) :
    (p.run m.logged subject template patience).1.state.2.length ≤
      p.state.2.length + p.rank subject.size := by
  obtain ⟨q, hSteps, hStop⟩ := run_stops hCounts.logged p template patience hStart
  have hBound := hSteps.log_add_rank_le hCounts hStart
  have hRank : 1 ≤ q.rank subject.size := by
    rw [rank_of_le (hSteps.start_le hCounts.logged hStart)]
    split <;> omega
  have hLog : (p.run m.logged subject template patience).1.state.2 =
      q.state.2 ++ [q.call m subject] := by
    rw [← q.log_round m subject template, hStop]
    rfl
  rw [hLog, List.length_append, List.length_singleton]
  omega

end Pass

namespace Scan

/-- How far a scan is from its end: twice the bytes left, and one more where an empty match may
still be found. -/
def rank (p : Scan σ) (len : Nat) : Nat := 2 * (len - p.start) + if p.notEmpty then 1 else 2

theorem rank_pos (p : Scan σ) (len : Nat) : 1 ≤ p.rank len := by
  unfold rank
  split <;> omega

/-- A step stays within the subject, and brings the scan nearer to its end. -/
theorem Step.rank_lt (hHonours : m.Honours subject) {p q : Scan σ} (h : Step m subject p q)
    (hStart : p.start ≤ subject.size) :
    q.start ≤ subject.size ∧ q.rank subject.size < p.rank subject.size := by
  cases h with
  | passed outcome offsets state count whole left hSearch hCount hWhole hLeft =>
    have hGroup := (Occurrence.wholeWithin?_eq_some_iff.mp hWhole).1
    obtain ⟨hAhead, ⟨hOrder, hStop⟩, hAgain⟩ :=
      hHonours.whole hStart hSearch (Outcome.ne_noMatch hCount) whole hGroup
    refine ⟨hStop, ?_⟩
    simp only [rank, Span.isEmpty, decide_eq_true_eq]
    cases hFlag : p.notEmpty with
    | false =>
      simp only [Bool.false_eq_true, if_false]
      split <;> omega
    | true =>
      have hGrows := (hAgain hFlag).2
      rw [if_neg (by omega), if_pos rfl]
      omega
  | stepped offsets state hSearch hNotEmpty hInside =>
    obtain ⟨hWidth, hFits⟩ := hHonours.advance p.start state hInside
    rw [Nat.max_eq_right hWidth]
    refine ⟨by dsimp only; omega, ?_⟩
    simp only [rank, hNotEmpty, Bool.false_eq_true, if_false, if_true]
    omega

/-- A step is paid for by the rank. -/
theorem Steps.log_add_rank_le (hHonours : m.Honours subject) {p q : Scan (Logged σ)}
    (hSteps : Steps m.logged subject p q) (hStart : p.start ≤ subject.size) :
    q.state.2.length + q.rank subject.size ≤ p.state.2.length + p.rank subject.size := by
  have hBoth : q.start ≤ subject.size ∧
      q.state.2.length + q.rank subject.size ≤ p.state.2.length + p.rank subject.size := by
    refine hSteps.preserves (P := fun r => r.start ≤ subject.size ∧
      r.state.2.length + r.rank subject.size ≤ p.state.2.length + p.rank subject.size) ?_
      ⟨hStart, Nat.le_refl _⟩
    rintro r r' hStep ⟨hInside, hPaid⟩
    obtain ⟨hInside', hRank⟩ := hStep.rank_lt hHonours.logged hInside
    refine ⟨hInside', ?_⟩
    rw [hStep.log_eq, List.length_append, List.length_singleton]
    omega
  exact hBoth.2

theorem length_log_find (hHonours : m.Honours subject) (p : Scan (Logged σ))
    (hStart : p.start ≤ subject.size) :
    (p.find m.logged subject).2.2.length ≤ p.state.2.length + p.rank subject.size := by
  obtain ⟨q, hSteps, _, hState⟩ := p.find_ends m.logged subject
  have hPaid := hSteps.log_add_rank_le hHonours hStart
  have hRank := q.rank_pos subject.size
  rw [hState, q.log_search m subject, List.length_append, List.length_singleton]
  omega

end Scan

/-- A substitution ends with a report or an error of the library. -/
theorem substituteInto_result (hCounts : m.CountsWhole subject) (state : σ) (template : Template)
    (limit : Option Nat) (out : OutputBuffer) (patience : Nat) :
    (∃ report, (substituteInto m state subject template limit out patience).result = .ok report) ∨
      ∃ e, (substituteInto m state subject template limit out patience).result =
        .error (.error e) := by
  obtain ⟨e, out', _, _, hEnd⟩ | ⟨offsets, grown, _, _, hEnd⟩ :=
    substituteInto_cases m state subject template limit out patience
  · rw [hEnd]
    exact .inr ⟨e, rfl⟩
  · rw [hEnd]
    have hFirst := Pass.start_first_le state offsets grown limit subject.size
    obtain ⟨q, hSteps, hStop⟩ := Pass.run_stops hCounts _ template patience hFirst
    cases hResult : ((Pass.first state offsets grown limit).run m subject template patience).2 with
    | ok report => exact .inl ⟨report, hResult⟩
    | error fault =>
      rw [hResult] at hStop
      obtain ⟨e, rfl⟩ :=
        (Pass.fails_of_round hStop).eq_error hCounts (hSteps.start_le hCounts hFirst)
      exact .inr ⟨e, hResult⟩

theorem length_substituteCalls (hCounts : m.CountsWhole subject) (state : σ) (template : Template)
    (limit : Option Nat) (out : OutputBuffer) (patience : Nat) :
    (substituteCalls m state subject template limit out patience).length ≤
      2 * subject.size + 2 := by
  unfold substituteCalls
  obtain ⟨e, out', _, _, hEnd⟩ | ⟨offsets, grown, _, _, hEnd⟩ :=
    substituteInto_cases m.logged (state, []) subject template limit out patience
  · rw [hEnd]
    exact Nat.zero_le _
  · rw [hEnd]
    have hLog := Pass.length_log_run hCounts _ template patience
      (Pass.start_first_le (state, []) offsets grown limit subject.size)
    rw [Pass.rank_first] at hLog
    exact Nat.le_trans hLog (Nat.le_of_eq (Nat.zero_add _))

theorem length_occurrenceCalls (hHonours : m.Honours subject) (state : σ) (occurrence : Nat) :
    (occurrenceCalls m state subject occurrence).length ≤ 2 * subject.size + 2 := by
  unfold occurrenceCalls
  obtain ⟨e, hEnd⟩ | ⟨offsets, hEnd⟩ := findOccurrence_cases m.logged (state, []) subject occurrence
  · rw [hEnd]
    exact Nat.zero_le _
  · rw [hEnd]
    have hLog := Scan.length_log_find hHonours (.first (state, []) offsets occurrence)
      (Nat.zero_le _)
    exact Nat.le_trans hLog (Nat.le_of_eq (Nat.zero_add _))

/-- Both loops end after a number of searches linear in the length of the subject, substitution
whatever its matcher does but to leave out the whole match. -/
theorem searches_linear (m : Matcher σ) (state : σ) (subject : ByteArray) :
    (m.CountsWhole subject → ∀ template limit out patience,
      (substituteCalls m state subject template limit out patience).length ≤
          2 * subject.size + 2 ∧
        ((∃ report, (substituteInto m state subject template limit out patience).result =
            .ok report) ∨
          ∃ e, (substituteInto m state subject template limit out patience).result =
            .error (.error e))) ∧
    (m.Honours subject → ∀ occurrence,
      (occurrenceCalls m state subject occurrence).length ≤ 2 * subject.size + 2) := by
  constructor
  · intro hCounts template limit out patience
    exact ⟨length_substituteCalls hCounts state template limit out patience,
      substituteInto_result hCounts state template limit out patience⟩
  · intro hHonours occurrence
    exact length_occurrenceCalls hHonours state occurrence

theorem searches_linear_runs :
    (Matcher.runsOf 98).CountsWhole "abc".toUTF8 ∧ (Matcher.runsOf 98).Honours "abc".toUTF8 ∧
    (substituteCalls (Matcher.runsOf 98) () "abc".toUTF8 (Template.parse "-".toUTF8) none {}
      0).length ≤ 8 ∧
    ∀ occurrence, (occurrenceCalls (Matcher.runsOf 98) () "abc".toUTF8 occurrence).length ≤ 8 :=
  have hWell := Matcher.runsOf_wellBehaved 98 "abc".toUTF8
  have hSearches := searches_linear (Matcher.runsOf 98) () "abc".toUTF8
  ⟨hWell.countsWhole, hWell.toHonours,
    (hSearches.1 hWell.countsWhole (Template.parse "-".toUTF8) none {} 0).1,
    hSearches.2 hWell.toHonours⟩

end PerlPattern
