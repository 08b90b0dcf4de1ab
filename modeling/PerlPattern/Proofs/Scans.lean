import PerlPattern.Proofs.SearchLog

/-! # Steps of the search for one match

A scan stands between two searches of `Occurrence.findFrom`. What one search
leads to is said once: the scan passes over a match, steps over one unit, or
ends. The whole search for a match is a chain of such steps and an end.
-/

namespace PerlPattern

theorem Occurrence.wholeWithin?_eq_some_iff {offsets : MatchOffsets} {start len : Nat}
    {whole : Span} : wholeWithin? offsets start len = some whole ↔
      offsets.group 0 = some whole ∧ start ≤ whole.start ∧ whole.stop ≤ len := by
  simp only [wholeWithin?, Option.filter_eq_some_iff, Bool.and_eq_true, decide_eq_true_eq]

structure Scan (σ : Type) where
  state : σ
  offsets : MatchOffsets
  /-- How many matches are still passed over. -/
  left : Nat
  start : Nat
  notEmpty : Bool

namespace Scan

variable {σ : Type} {m : Matcher σ} {subject : ByteArray}

def search (p : Scan σ) (m : Matcher σ) (subject : ByteArray) :
    Except EngineError Outcome × MatchOffsets × σ :=
  m.exec subject p.start { notEmptyAtStart := p.notEmpty } p.offsets p.state

def find (p : Scan σ) (m : Matcher σ) (subject : ByteArray) : Result (Option Occurrence) × σ :=
  Occurrence.findFrom m subject p.left p.start p.notEmpty p.offsets p.state

/-- A search that is followed by another one. -/
inductive Step (m : Matcher σ) (subject : ByteArray) (p : Scan σ) : Scan σ → Prop
  | passed (outcome : Outcome) (offsets : MatchOffsets) (state : σ) (count : Nat) (whole : Span)
      (left : Nat) (hSearch : p.search m subject = (.ok outcome, offsets, state))
      (hCount : outcome.matchCount? offsets = some count)
      (hWhole : Occurrence.wholeWithin? offsets p.start subject.size = some whole)
      (hLeft : p.left = left + 1) :
      Step m subject p { state, offsets, left, start := whole.stop, notEmpty := whole.isEmpty }
  | stepped (offsets : MatchOffsets) (state : σ)
      (hSearch : p.search m subject = (.ok .noMatch, offsets, state))
      (hNotEmpty : p.notEmpty = true) (hInside : p.start < subject.size) :
      Step m subject p {
        p with
        state, offsets
        start := p.start + max 1 (m.advance subject p.start state)
        notEmpty := false }

/-- The last search, with what comes of it. -/
inductive Ends (m : Matcher σ) (subject : ByteArray) (p : Scan σ) :
    Result (Option Occurrence) → Prop
  | engine (e : EngineError) (offsets : MatchOffsets) (state : σ)
      (hSearch : p.search m subject = (.error e, offsets, state)) :
      Ends m subject p (.error (.engine e))
  | misplaced (outcome : Outcome) (offsets : MatchOffsets) (state : σ) (count : Nat)
      (hSearch : p.search m subject = (.ok outcome, offsets, state))
      (hCount : outcome.matchCount? offsets = some count)
      (hWhole : Occurrence.wholeWithin? offsets p.start subject.size = none) :
      Ends m subject p (.error (.engine EngineErrorKind.internal))
  | found (outcome : Outcome) (offsets : MatchOffsets) (state : σ) (count : Nat) (whole : Span)
      (hSearch : p.search m subject = (.ok outcome, offsets, state))
      (hCount : outcome.matchCount? offsets = some count)
      (hWhole : Occurrence.wholeWithin? offsets p.start subject.size = some whole)
      (hLeft : p.left = 0) : Ends m subject p (.ok (some ⟨offsets, count⟩))
  | noMore (offsets : MatchOffsets) (state : σ)
      (hSearch : p.search m subject = (.ok .noMatch, offsets, state))
      (hLast : p.notEmpty = false ∨ subject.size ≤ p.start) : Ends m subject p (.ok none)

abbrev Steps (m : Matcher σ) (subject : ByteArray) : Scan σ → Scan σ → Prop :=
  Relation.ReflTransGen (Step m subject)

theorem Steps.preserves {P : Scan σ → Prop} (hStep : ∀ p q, Step m subject p q → P p → P q)
    {p q : Scan σ} (hSteps : Steps m subject p q) (hStart : P p) : P q := by
  induction hSteps with
  | refl => exact hStart
  | tail _ hLast ih => exact hStep _ _ hLast ih

theorem Step.state_eq {p q : Scan σ} (h : Step m subject p q) :
    q.state = (p.search m subject).2.2 := by
  cases h with
  | passed outcome offsets state count whole left hSearch => rw [hSearch]
  | stepped offsets state hSearch => rw [hSearch]

/-- A scan is a chain of steps and an end, and the state that is left is that of the last search. -/
theorem find_ends (p : Scan σ) (m : Matcher σ) (subject : ByteArray) :
    ∃ q, Steps m subject p q ∧ Ends m subject q (p.find m subject).1 ∧
      (p.find m subject).2 = (q.search m subject).2.2 := by
  obtain ⟨state, offsets, left, start, notEmpty⟩ := p
  unfold find
  dsimp only
  -- The two recursive cases of the loop are the two steps, the other five are ends.
  fun_induction Occurrence.findFrom m subject left start notEmpty offsets state with
  | case1 left start notEmpty offsets state e after state' hExec =>
    exact ⟨_, .refl, .engine e after state' hExec, (congrArg (·.2.2) hExec).symm⟩
  | case2 left start offsets state outcome after state' hNone hInside hExec ih =>
    cases Outcome.matchCount?_eq_none_iff.mp hNone
    obtain ⟨q, hSteps, hEnds⟩ := ih
    exact ⟨q, .head (.stepped after state' hExec rfl hInside) hSteps, hEnds⟩
  | case3 left start offsets state outcome after state' hNone hOutside hExec =>
    cases Outcome.matchCount?_eq_none_iff.mp hNone
    exact ⟨_, .refl, .noMore after state' hExec (.inr (Nat.not_lt.mp hOutside)),
      (congrArg (·.2.2) hExec).symm⟩
  | case4 left start offsets state outcome after state' hNone hExec =>
    cases Outcome.matchCount?_eq_none_iff.mp hNone
    exact ⟨_, .refl, .noMore after state' hExec (.inl rfl), (congrArg (·.2.2) hExec).symm⟩
  | case5 left start notEmpty offsets state outcome after state' hExec count hCount hWhole =>
    exact ⟨_, .refl, .misplaced outcome after state' count hExec hCount hWhole,
      (congrArg (·.2.2) hExec).symm⟩
  | case6 start notEmpty offsets state outcome after state' hExec count hCount whole hWhole =>
    exact ⟨_, .refl, .found outcome after state' count whole hExec hCount hWhole rfl,
      (congrArg (·.2.2) hExec).symm⟩
  | case7 start notEmpty offsets state outcome after state' hExec count hCount whole hWhole left
      ih =>
    obtain ⟨q, hSteps, hEnds⟩ := ih
    exact ⟨q, .head (.passed outcome after state' count whole left hExec hCount hWhole rfl) hSteps,
      hEnds⟩

theorem Step.find_eq {p q : Scan σ} (h : Step m subject p q) :
    p.find m subject = q.find m subject := by
  unfold find
  rw [Occurrence.findFrom]
  cases h with
  | passed outcome offsets state count whole left hSearch hCount hWhole hLeft =>
    unfold search at hSearch
    simp only [hSearch, hCount, hWhole, hLeft]
  | stepped offsets state hSearch hNotEmpty hInside =>
    unfold search at hSearch
    rw [hNotEmpty] at hSearch
    simp only [hNotEmpty, hSearch, Outcome.matchCount?, if_pos hInside]

theorem Ends.find_eq {p : Scan σ} {result : Result (Option Occurrence)}
    (h : Ends m subject p result) : p.find m subject = (result, (p.search m subject).2.2) := by
  unfold find
  rw [Occurrence.findFrom]
  cases h with
  | engine e offsets state hSearch =>
    rw [hSearch]
    unfold search at hSearch
    rw [hSearch]
  | misplaced outcome offsets state count hSearch hCount hWhole =>
    rw [hSearch]
    unfold search at hSearch
    simp only [hSearch, hCount, hWhole]
  | found outcome offsets state count whole hSearch hCount hWhole hLeft =>
    rw [hSearch]
    unfold search at hSearch
    simp only [hSearch, hCount, hWhole, hLeft]
  | noMore offsets state hSearch hLast =>
    rw [hSearch]
    unfold search at hSearch
    simp only [hSearch, Outcome.matchCount?]
    split
    · rename_i hNotEmpty
      have hEnd : subject.size ≤ p.start :=
        hLast.resolve_left fun hFirst => Bool.false_ne_true (hFirst.symm.trans hNotEmpty)
      rw [if_neg (Nat.not_lt.mpr hEnd)]
    · rfl

/-- A chain of steps and an end are all that a scan does. -/
theorem find_of_steps {p q : Scan σ} {result : Result (Option Occurrence)}
    (hSteps : Steps m subject p q) (hEnds : Ends m subject q result) :
    p.find m subject = (result, (q.search m subject).2.2) := by
  induction hSteps using Relation.ReflTransGen.head_induction_on with
  | refl => exact hEnds.find_eq
  | head hStep _ ih => exact hStep.find_eq.trans ih

def first (state : σ) (offsets : MatchOffsets) (occurrence : Nat) : Scan σ where
  state := state
  offsets := offsets
  left := occurrence - 1
  start := 0
  notEmpty := false

/-- The next search of a scan, as it is logged. -/
def call (p : Scan (Logged σ)) (m : Matcher σ) (subject : ByteArray) : SearchCall :=
  ⟨p.start, { notEmptyAtStart := p.notEmpty }, (p.search m.logged subject).1,
    (p.search m.logged subject).2.1, m.advance subject p.start (p.search m.logged subject).2.2.1⟩

theorem log_search (p : Scan (Logged σ)) (m : Matcher σ) (subject : ByteArray) :
    (p.search m.logged subject).2.2.2 = p.state.2 ++ [p.call m subject] := rfl

theorem Step.log_eq {p q : Scan (Logged σ)} (h : Step m.logged subject p q) :
    q.state.2 = p.state.2 ++ [p.call m subject] := by
  rw [h.state_eq, log_search]

/-- What holds of the next search of every scan on the way holds of all searches. -/
theorem forall_call_find {I : Scan (Logged σ) → Prop} {C : SearchCall → Prop}
    (hStep : ∀ p q, Step m.logged subject p q → I p → I q)
    (hCall : ∀ p, I p → C (p.call m subject)) {p : Scan (Logged σ)} (hFirst : I p)
    (hLog : ∀ call ∈ p.state.2, C call) : ∀ call ∈ (p.find m.logged subject).2.2, C call := by
  obtain ⟨q, hSteps, -, hState⟩ := p.find_ends m.logged subject
  have hBoth : I q ∧ ∀ call ∈ q.state.2, C call := by
    refine hSteps.preserves (P := fun r => I r ∧ ∀ call ∈ r.state.2, C call) ?_ ⟨hFirst, hLog⟩
    rintro r r' hOne ⟨hHere, hCalls⟩
    refine ⟨hStep r r' hOne hHere, ?_⟩
    rw [hOne.log_eq]
    exact List.forall_mem_append.mpr ⟨hCalls, List.forall_mem_singleton.mpr (hCall r hHere)⟩
  rw [hState, q.log_search m subject]
  exact List.forall_mem_append.mpr ⟨hBoth.2, List.forall_mem_singleton.mpr (hCall q hBoth.1)⟩

end Scan

variable {σ : Type}

theorem findOccurrence_of_first {m : Matcher σ} {state : σ} {offsets : MatchOffsets}
    (hOffsets : (m.captureCount state).bind MatchOffsets.ofCaptureCount = .ok offsets)
    (subject : ByteArray) (occurrence : Nat) : findOccurrence m state subject occurrence =
      (Scan.first state offsets occurrence).find m subject := by
  unfold findOccurrence
  rw [hOffsets]
  rfl

theorem findOccurrence_of_error {m : Matcher σ} {state : σ} {e : PatternError}
    (hError : (m.captureCount state).bind MatchOffsets.ofCaptureCount = .error e)
    (subject : ByteArray) (occurrence : Nat) :
    findOccurrence m state subject occurrence = (.error e, state) := by
  unfold findOccurrence
  rw [hError]

/-- The search for a match fails before its first search, or is a scan. -/
theorem findOccurrence_cases (m : Matcher σ) (state : σ) (subject : ByteArray) (occurrence : Nat) :
    (∃ e, findOccurrence m state subject occurrence = (.error e, state)) ∨
      ∃ offsets, findOccurrence m state subject occurrence =
        (Scan.first state offsets occurrence).find m subject := by
  cases hOffsets : (m.captureCount state).bind MatchOffsets.ofCaptureCount with
  | error e => exact .inl ⟨e, findOccurrence_of_error hOffsets subject occurrence⟩
  | ok offsets => exact .inr ⟨offsets, findOccurrence_of_first hOffsets subject occurrence⟩

theorem forall_occurrenceCalls {m : Matcher σ} {state : σ} {subject : ByteArray} {occurrence : Nat}
    {I : Scan (Logged σ) → Prop} {C : SearchCall → Prop}
    (hFirst : ∀ offsets, (m.captureCount state).bind MatchOffsets.ofCaptureCount = .ok offsets →
      I (.first (state, []) offsets occurrence))
    (hStep : ∀ p q, Scan.Step m.logged subject p q → I p → I q)
    (hCall : ∀ p, I p → C (p.call m subject)) :
    ∀ call ∈ occurrenceCalls m state subject occurrence, C call := by
  unfold occurrenceCalls
  cases hOffsets : (m.logged.captureCount (state, [])).bind MatchOffsets.ofCaptureCount with
  | error e =>
    rw [findOccurrence_of_error hOffsets]
    exact fun _ hMember => nomatch hMember
  | ok offsets =>
    rw [findOccurrence_of_first hOffsets]
    exact Scan.forall_call_find hStep hCall (hFirst offsets hOffsets)
      (fun _ hMember => nomatch hMember)

/-- A match that is found was reported by the last search made for it. -/
theorem findOccurrence_found {m : Matcher σ} {state : σ} {subject : ByteArray} {occurrence : Nat}
    {o : Occurrence} (h : (findOccurrence m state subject occurrence).1 = .ok (some o)) :
    ∃ call, (occurrenceCalls m state subject occurrence).getLast? = some call ∧
      ∃ outcome, call.answer = .ok outcome ∧
        outcome.matchCount? call.offsets = some o.matchCount ∧ call.offsets = o.offsets ∧
        ∃ whole, Occurrence.wholeWithin? o.offsets call.start subject.size = some whole := by
  rw [findOccurrence_logged m state [] subject occurrence] at h
  unfold occurrenceCalls
  obtain ⟨e, hEnd⟩ | ⟨offsets, hEnd⟩ := findOccurrence_cases m.logged (state, []) subject occurrence
  · rw [hEnd] at h
    cases h
  · obtain ⟨q, _, hEnds, hState⟩ :=
      (Scan.first (state, []) offsets occurrence).find_ends m.logged subject
    rw [hEnd] at h ⊢
    dsimp only at h
    rw [h] at hEnds
    rw [hState, q.log_search m subject]
    cases hEnds with
    | found outcome after state' count whole hSearch hCount hWhole hLeft =>
      refine ⟨_, List.getLast?_concat, outcome, ?_, ?_, ?_, whole, hWhole⟩
      · exact congrArg Prod.fst hSearch
      · unfold Scan.call
        rw [hSearch]
        exact hCount
      · exact congrArg (·.2.1) hSearch

end PerlPattern
