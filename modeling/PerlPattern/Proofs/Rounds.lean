import Mathlib.Logic.Relation
import Mathlib.Tactic.Common
import PerlPattern.Substitution
import PerlPattern.Proofs.Contracts
import PerlPattern.Proofs.Expansion

/-! # Rounds of a pass

What one round can do is said once: it replaces the match it found, steps over
one unit, copies the rest and ends, or fails. A whole run is a chain of rounds
that lead on, and one last round that does not.
-/

namespace PerlPattern

/-- A match that passes the check starts no earlier than the search, is no repetition of an empty
one, and its groups lie within the subject. -/
structure Checked (offsets : MatchOffsets) (count start len : Nat) (notEmpty : Bool)
    (whole : Span) : Prop where
  group : offsets.group 0 = some whole
  start_le : start ≤ whole.start
  fresh : ¬(notEmpty = true ∧ whole.isEmpty = true ∧ whole.start = start)
  within : ∀ g < min count offsets.groupCapacity, ∀ span, offsets.group g = some span →
    span.Within len

theorem checkedMatch_eq_ok_iff {offsets : MatchOffsets} {count start len : Nat} {notEmpty : Bool}
    {whole : Span} : checkedMatch offsets count start len notEmpty = .ok whole ↔
      Checked offsets count start len notEmpty whole := by
  unfold checkedMatch
  constructor
  · intro h
    split at h
    · cases h
    · rename_i span hGroup
      split at h
      · cases h
      · rename_i hPlace
        split at h
        · rename_i hAll
          cases h
          refine ⟨hGroup, by omega, fun hRepeat => hPlace (.inr hRepeat), ?_⟩
          intro g hg span hSpan
          have hOne := List.all_eq_true.mp hAll g (List.mem_range.mpr hg)
          rw [hSpan] at hOne
          exact of_decide_eq_true hOne
        · cases h
  · intro h
    rw [h.group]
    have hPlace : ¬(whole.start < start ∨
        (notEmpty = true ∧ whole.isEmpty = true ∧ whole.start = start)) := by
      rintro (hBefore | hRepeat)
      · exact absurd h.start_le (by omega)
      · exact h.fresh hRepeat
    have hAll : ((List.range (min count offsets.groupCapacity)).all fun g =>
        (offsets.group g).all fun span => decide (span.Within len)) = true := by
      rw [List.all_eq_true]
      intro g hg
      cases hSpan : offsets.group g with
      | none => rfl
      | some span => exact decide_eq_true (h.within g (List.mem_range.mp hg) span hSpan)
    simp only [if_neg hPlace, if_pos hAll]

theorem checkedMatch_error {offsets : MatchOffsets} {count start len : Nat} {notEmpty : Bool}
    {e : EngineError} (h : checkedMatch offsets count start len notEmpty = .error e) :
    e = EngineErrorKind.internal := by
  unfold checkedMatch at h
  split at h
  · cases h
    rfl
  · split at h
    · cases h
      rfl
    · split at h
      · cases h
      · cases h
        rfl

namespace Pass

variable {σ : Type} {m : Matcher σ} {subject : ByteArray} {template : Template}

def search (p : Pass σ) (m : Matcher σ) (subject : ByteArray) :
    Except EngineError Outcome × MatchOffsets × σ :=
  m.exec subject p.start { notEmptyAtStart := p.notEmpty } p.offsets p.state

def stepWidth (m : Matcher σ) (subject : ByteArray) (start : Nat) (state : σ) : Nat :=
  max 1 (min (m.advance subject start state) (subject.size - start))

/-- The length of the output once a match is replaced. -/
def required (p : Pass σ) (subject : ByteArray) (template : Template) (offsets : MatchOffsets)
    (count : Nat) (whole : Span) : Nat :=
  p.out.size + (whole.start - p.start) + template.expandedSize subject offsets count

/-- A round that leads on: it replaces a match, or steps over one unit. -/
inductive Step (m : Matcher σ) (subject : ByteArray) (template : Template) (p : Pass σ) :
    Pass σ → Prop
  | replaced (outcome : Outcome) (offsets : MatchOffsets) (state : σ) (count : Nat) (whole : Span)
      (out : OutputBuffer) (hSearch : p.search m subject = (.ok outcome, offsets, state))
      (hCount : outcome.matchCount? offsets = some count) (hLeft : p.remaining ≠ some 0)
      (hChecked : Checked offsets count p.start subject.size p.notEmpty whole)
      (hGrow : p.out.growFor (p.required subject template offsets count whole) maxAllocation =
        .ok out)
      (hInside : whole.start ≤ subject.size) :
      Step m subject template p {
        state, offsets
        out := template.expandInto (out.extend (subject.extract p.start whole.start)) subject
          offsets count
        remaining := p.remaining.map (· - 1)
        start := whole.stop
        notEmpty := whole.isEmpty
        report := counted (warned p.report outcome)
        accepted := ⟨whole, offsets, count⟩ :: p.accepted }
  | stepped (outcome : Outcome) (offsets : MatchOffsets) (state : σ) (out : OutputBuffer)
      (hSearch : p.search m subject = (.ok outcome, offsets, state))
      (hNone : outcome.matchCount? offsets = none ∨ p.remaining = some 0)
      (hNotEmpty : p.notEmpty = true) (hInside : p.start < subject.size)
      (hGrow : p.out.growFor (p.out.size + stepWidth m subject p.start state) maxAllocation =
        .ok out) :
      Step m subject template p {
        p with
        state, offsets
        out := out.extend
          (subject.extract p.start (p.start + stepWidth m subject p.start state))
        start := p.start + stepWidth m subject p.start state
        notEmpty := false
        report := warned p.report outcome }

/-- The last round of a pass that succeeds: it copies the rest of the subject. -/
inductive Ends (m : Matcher σ) (subject : ByteArray) (p : Pass σ) :
    Pass σ → SubstitutionReport → Prop
  | copied (outcome : Outcome) (offsets : MatchOffsets) (state : σ) (out : OutputBuffer)
      (hSearch : p.search m subject = (.ok outcome, offsets, state))
      (hNone : outcome.matchCount? offsets = none ∨ p.remaining = some 0)
      (hLast : p.notEmpty = false ∨ p.start = subject.size) (hInside : p.start ≤ subject.size)
      (hGrow : p.out.growExact (p.out.size + (subject.size - p.start)) maxAllocation = .ok out) :
      Ends m subject p {
        p with
        state, offsets
        out := out.extend (subject.extract p.start subject.size)
        report := warned p.report outcome } (warned p.report outcome)

/-- The last round of a pass that fails. -/
inductive Fails (m : Matcher σ) (subject : ByteArray) (template : Template) (p : Pass σ) :
    PassFault → Prop
  | engine (e : EngineError) (offsets : MatchOffsets) (state : σ)
      (hSearch : p.search m subject = (.error e, offsets, state)) :
      Fails m subject template p (.error (.engine e))
  | rejected (outcome : Outcome) (offsets : MatchOffsets) (state : σ) (count : Nat)
      (hSearch : p.search m subject = (.ok outcome, offsets, state))
      (hCount : outcome.matchCount? offsets = some count) (hLeft : p.remaining ≠ some 0)
      (hNone : ∀ whole, ¬Checked offsets count p.start subject.size p.notEmpty whole) :
      Fails m subject template p (.error (.engine EngineErrorKind.internal))
  | memory : Fails m subject template p (.error .outOfMemory)
  | matchOutside (outcome : Outcome) (offsets : MatchOffsets) (state : σ) (count : Nat)
      (whole : Span) (hSearch : p.search m subject = (.ok outcome, offsets, state))
      (hCount : outcome.matchCount? offsets = some count) (hLeft : p.remaining ≠ some 0)
      (hChecked : Checked offsets count p.start subject.size p.notEmpty whole)
      (hOutside : subject.size < whole.start) : Fails m subject template p .outOfRange
  | startOutside (hOutside : subject.size < p.start) : Fails m subject template p .outOfRange

inductive Turn (m : Matcher σ) (subject : ByteArray) (template : Template) (p : Pass σ) :
    Round σ → Prop
  | next (q : Pass σ) (hStep : Step m subject template p q) : Turn m subject template p (.next q)
  | ended (q : Pass σ) (report : SubstitutionReport) (hEnds : Ends m subject p q report) :
      Turn m subject template p (.stop q (.ok report))
  | failed (q : Pass σ) (fault : PassFault) (hFails : Fails m subject template p fault) :
      Turn m subject template p (.stop q (.error fault))

theorem round_of_counted {p : Pass σ} {outcome : Outcome} {offsets : MatchOffsets} {state : σ}
    {count : Nat} (hSearch : p.search m subject = (.ok outcome, offsets, state))
    (hCount : outcome.matchCount? offsets = some count) (hLeft : p.remaining ≠ some 0)
    (template : Template) : p.round m subject template =
      replace { p with offsets, state, report := warned p.report outcome } subject template
        count := by
  unfold search at hSearch
  unfold round
  rw [hSearch]
  dsimp only
  rw [hCount]
  exact if_neg hLeft

theorem round_of_uncounted {p : Pass σ} {outcome : Outcome} {offsets : MatchOffsets} {state : σ}
    (hSearch : p.search m subject = (.ok outcome, offsets, state))
    (hNone : outcome.matchCount? offsets = none ∨ p.remaining = some 0) (template : Template) :
    p.round m subject template =
      copy { p with offsets, state, report := warned p.report outcome } m subject := by
  unfold search at hSearch
  unfold round
  rw [hSearch]
  dsimp only
  cases hCount : outcome.matchCount? offsets with
  | none => rfl
  | some count =>
    rw [hCount] at hNone
    exact if_pos (hNone.resolve_left nofun)

theorem replace_turn (p : Pass σ) (outcome : Outcome) (offsets : MatchOffsets) (state : σ)
    (count : Nat) (hSearch : p.search m subject = (.ok outcome, offsets, state))
    (hCount : outcome.matchCount? offsets = some count) (hLeft : p.remaining ≠ some 0) :
    Turn m subject template p
      (replace { p with offsets, state, report := warned p.report outcome } subject template
        count) := by
  unfold replace
  split
  · rename_i e hError
    cases checkedMatch_error hError
    refine .failed _ _ (.rejected outcome offsets state count hSearch hCount hLeft ?_)
    intro whole hChecked
    rw [checkedMatch_eq_ok_iff.mpr hChecked] at hError
    cases hError
  · rename_i whole hWhole
    have hChecked := checkedMatch_eq_ok_iff.mp hWhole
    dsimp only at hChecked ⊢
    split
    · rename_i e hError
      cases OutputBuffer.error_of_growFor hError
      exact .failed _ _ .memory
    · rename_i out hGrow
      split
      · rename_i hInside
        exact .next _ (.replaced outcome offsets state count whole out hSearch hCount hLeft hChecked
          hGrow hInside.2)
      · rename_i hOutside
        refine .failed _ _ (.matchOutside outcome offsets state count whole hSearch hCount hLeft
          hChecked ?_)
        have := hChecked.start_le
        omega

theorem copy_turn (p : Pass σ) (outcome : Outcome) (offsets : MatchOffsets) (state : σ)
    (hSearch : p.search m subject = (.ok outcome, offsets, state))
    (hNone : outcome.matchCount? offsets = none ∨ p.remaining = some 0) :
    Turn m subject template p
      (copy { p with offsets, state, report := warned p.report outcome } m subject) := by
  unfold copy
  split
  · rename_i hRetry
    dsimp only at hRetry ⊢
    split
    · rename_i e hError
      cases OutputBuffer.error_of_growFor hError
      exact .failed _ _ .memory
    · rename_i out hGrow
      exact .next _ (.stepped outcome offsets state out hSearch hNone hRetry.1 hRetry.2 hGrow)
  · rename_i hLast
    dsimp only at hLast ⊢
    split
    · rename_i hInside
      split
      · rename_i e hError
        cases OutputBuffer.error_of_growExact hError
        exact .failed _ _ .memory
      · rename_i out hGrow
        refine .ended _ _ (.copied outcome offsets state out hSearch hNone ?_ hInside hGrow)
        cases hFlag : p.notEmpty with
        | false => exact .inl rfl
        | true =>
          refine .inr (Nat.le_antisymm hInside ?_)
          by_contra hBefore
          exact hLast ⟨hFlag, by omega⟩
    · rename_i hOutside
      exact .failed _ _ (.startOutside (by omega))

theorem round_turn (p : Pass σ) (m : Matcher σ) (subject : ByteArray) (template : Template) :
    Turn m subject template p (p.round m subject template) := by
  unfold round
  split
  · rename_i e offsets state hSearch
    exact .failed _ _ (.engine e offsets state hSearch)
  · rename_i outcome offsets state hSearch
    dsimp only
    split
    · rename_i count hCount
      split
      · rename_i hSpent
        exact copy_turn p outcome offsets state hSearch (.inr hSpent)
      · rename_i hLeft
        exact replace_turn p outcome offsets state count hSearch hCount hLeft
    · rename_i hCount
      exact copy_turn p outcome offsets state hSearch (.inl hCount)

theorem step_of_round {p q : Pass σ} (h : p.round m subject template = .next q) :
    Step m subject template p q := by
  have hTurn := p.round_turn m subject template
  rw [h] at hTurn
  cases hTurn with
  | next _ hStep => exact hStep

theorem ends_of_round {p q : Pass σ} {report : SubstitutionReport}
    (h : p.round m subject template = .stop q (.ok report)) : Ends m subject p q report := by
  have hTurn := p.round_turn m subject template
  rw [h] at hTurn
  cases hTurn with
  | ended _ _ hEnds => exact hEnds

theorem fails_of_round {p q : Pass σ} {fault : PassFault}
    (h : p.round m subject template = .stop q (.error fault)) :
    Fails m subject template p fault := by
  have hTurn := p.round_turn m subject template
  rw [h] at hTurn
  cases hTurn with
  | failed _ _ hFails => exact hFails

end Pass

def Round.pass {σ : Type} : Round σ → Pass σ
  | .next p => p
  | .stop p _ => p

namespace Pass

variable {σ : Type} {m : Matcher σ} {subject : ByteArray} {template : Template}

theorem state_replace (p : Pass σ) (subject : ByteArray) (template : Template) (count : Nat) :
    (p.replace subject template count).pass.state = p.state := by
  unfold replace
  split
  · rfl
  · dsimp only
    split
    · rfl
    · split <;> rfl

theorem state_copy (p : Pass σ) (m : Matcher σ) (subject : ByteArray) :
    (p.copy m subject).pass.state = p.state := by
  unfold copy
  split
  · dsimp only
    split <;> rfl
  · split
    · split <;> rfl
    · rfl

/-- A round changes the state of the matcher by its search alone. -/
theorem state_round (p : Pass σ) (m : Matcher σ) (subject : ByteArray) (template : Template) :
    (p.round m subject template).pass.state = (p.search m subject).2.2 := by
  unfold round search
  split
  · rename_i e offsets state hSearch
    rw [hSearch]
    rfl
  · rename_i outcome offsets state hSearch
    rw [hSearch]
    dsimp only
    split
    · split
      · rw [state_copy]
      · rw [state_replace]
    · rw [state_copy]

theorem accepted_of_replace {p q : Pass σ} {count : Nat}
    {result : Except PassFault SubstitutionReport}
    (h : p.replace subject template count = .stop q result) : q.accepted = p.accepted := by
  unfold replace at h
  split at h
  · cases h
    rfl
  · dsimp only at h
    split at h
    · cases h
      rfl
    · split at h
      · cases h
      · cases h
        rfl

theorem accepted_of_copy {p q : Pass σ} {result : Except PassFault SubstitutionReport}
    (h : p.copy m subject = .stop q result) : q.accepted = p.accepted := by
  unfold copy at h
  split at h
  · dsimp only at h
    split at h
    · cases h
      rfl
    · cases h
  · split at h
    · split at h
      · cases h
        rfl
      · cases h
        rfl
    · cases h
      rfl

/-- The last round replaces nothing. -/
theorem accepted_of_stop {p q : Pass σ} {result : Except PassFault SubstitutionReport}
    (h : p.round m subject template = .stop q result) : q.accepted = p.accepted := by
  unfold round at h
  split at h
  · cases h
    rfl
  · dsimp only at h
    split at h
    · split at h
      · exact (accepted_of_copy h).trans rfl
      · exact (accepted_of_replace h).trans rfl
    · exact (accepted_of_copy h).trans rfl

theorem Ends.accepted_eq {p q : Pass σ} {report : SubstitutionReport}
    (h : Ends m subject p q report) : q.accepted = p.accepted := by
  cases h
  rfl

abbrev Steps (m : Matcher σ) (subject : ByteArray) (template : Template) :
    Pass σ → Pass σ → Prop := Relation.ReflTransGen (Step m subject template)

theorem Steps.preserves {P : Pass σ → Prop}
    (hStep : ∀ p q, Step m subject template p q → P p → P q) {p q : Pass σ}
    (hSteps : Steps m subject template p q) (hStart : P p) : P q := by
  induction hSteps with
  | refl => exact hStart
  | tail _ hLast ih => exact hStep _ _ hLast ih

theorem rank_of_le {p : Pass σ} {len : Nat} (h : p.start ≤ len) :
    p.rank len = 2 * (len - p.start) + if p.notEmpty then 1 else 2 := by
  rw [rank, if_neg (Nat.not_lt.mpr h)]

theorem stepWidth_pos (m : Matcher σ) (subject : ByteArray) (start : Nat) (state : σ) :
    1 ≤ stepWidth m subject start state := Nat.le_max_left _ _

theorem stepWidth_le (m : Matcher σ) {subject : ByteArray} {start : Nat} (state : σ)
    (h : start < subject.size) : start + stepWidth m subject start state ≤ subject.size := by
  unfold stepWidth
  omega

/-- Where the search leaves the whole match out of its count, the match lies within the subject all
the same. -/
def Guarded (m : Matcher σ) (subject : ByteArray) (p : Pass σ) : Prop :=
  (p.search m subject).1 = .ok (.matched 0) →
    ∀ whole, (p.search m subject).2.1.group 0 = some whole → whole.Within subject.size

theorem guarded_of_counts (hCounts : m.CountsWhole subject) {p : Pass σ}
    (hStart : p.start ≤ subject.size) : p.Guarded m subject :=
  fun hZero => absurd hZero (hCounts p.start _ p.offsets p.state hStart)

theorem Guarded.whole_within {p : Pass σ} (hGuarded : p.Guarded m subject) {outcome : Outcome}
    {offsets : MatchOffsets} {state : σ} {count : Nat} {whole : Span}
    (hSearch : p.search m subject = (.ok outcome, offsets, state))
    (hCount : outcome.matchCount? offsets = some count)
    (hChecked : Checked offsets count p.start subject.size p.notEmpty whole) :
    whole.Within subject.size := by
  by_cases hZero : outcome = .matched 0
  · refine hGuarded ?_ whole ?_
    · rw [hSearch, hZero]
    · rw [hSearch]
      exact hChecked.group
  · exact hChecked.within 0 (Outcome.one_le_of_ne hZero hCount hChecked.group) whole hChecked.group

theorem whole_within (hCounts : m.CountsWhole subject) {p : Pass σ} {outcome : Outcome}
    {offsets : MatchOffsets} {state : σ} {count : Nat} {whole : Span}
    (hStart : p.start ≤ subject.size)
    (hSearch : p.search m subject = (.ok outcome, offsets, state))
    (hCount : outcome.matchCount? offsets = some count)
    (hChecked : Checked offsets count p.start subject.size p.notEmpty whole) :
    whole.Within subject.size :=
  (guarded_of_counts hCounts hStart).whole_within hSearch hCount hChecked

theorem Step.state_eq {p q : Pass σ} (h : Step m subject template p q) :
    q.state = (p.search m subject).2.2 := by
  cases h with
  | replaced outcome offsets state count whole out hSearch => rw [hSearch]
  | stepped outcome offsets state out hSearch => rw [hSearch]

/-- A round that leads on stays within the subject, and brings the pass nearer to its end. -/
theorem Guarded.start_le {p q : Pass σ} (hGuarded : p.Guarded m subject)
    (h : Step m subject template p q) : p.start ≤ q.start ∧ q.start ≤ subject.size := by
  cases h with
  | replaced outcome offsets state count whole out hSearch hCount _ hChecked _ _ =>
    obtain ⟨hOrder, hStop⟩ := hGuarded.whole_within hSearch hCount hChecked
    exact ⟨Nat.le_trans hChecked.start_le hOrder, hStop⟩
  | stepped outcome offsets state out _ _ _ hInside _ =>
    exact ⟨Nat.le_add_right _ _, stepWidth_le m state hInside⟩

theorem Guarded.rank_lt {p q : Pass σ} (hGuarded : p.Guarded m subject)
    (h : Step m subject template p q) : q.rank subject.size < p.rank subject.size := by
  obtain ⟨hAhead, hInside⟩ := hGuarded.start_le h
  rw [rank_of_le hInside, rank_of_le (Nat.le_trans hAhead hInside)]
  cases h with
  | replaced outcome offsets state count whole out hSearch hCount _ hChecked _ _ =>
    have hFound := hChecked.start_le
    have hOrder := (hGuarded.whole_within hSearch hCount hChecked).1
    dsimp only at hInside ⊢
    cases hFlag : p.notEmpty with
    | false =>
      simp only [Span.isEmpty, decide_eq_true_eq, Bool.false_eq_true, if_false]
      split <;> omega
    | true =>
      have hFresh : whole.stop ≤ whole.start → whole.start ≠ p.start := by
        intro hEmpty hSame
        exact hChecked.fresh ⟨hFlag, decide_eq_true hEmpty, hSame⟩
      simp only [Span.isEmpty, decide_eq_true_eq, if_true]
      split <;> omega
  | stepped outcome offsets state out _ _ hNotEmpty hBefore _ =>
    have hWidth := stepWidth_pos m subject p.start state
    dsimp only at hInside ⊢
    simp only [hNotEmpty, if_true, Bool.false_eq_true, if_false]
    omega

theorem Guarded.eq_error {p : Pass σ} {fault : PassFault} (hGuarded : p.Guarded m subject)
    (hStart : p.start ≤ subject.size) (h : Fails m subject template p fault) :
    ∃ e, fault = .error e := by
  cases h with
  | engine e offsets state hSearch => exact ⟨_, rfl⟩
  | rejected outcome offsets state count hSearch hCount hLeft hNone => exact ⟨_, rfl⟩
  | memory => exact ⟨_, rfl⟩
  | matchOutside outcome offsets state count whole hSearch hCount hLeft hChecked hOutside =>
    obtain ⟨hOrder, hStop⟩ := hGuarded.whole_within hSearch hCount hChecked
    omega
  | startOutside hOutside => omega

theorem Step.start_le (hCounts : m.CountsWhole subject) {p q : Pass σ}
    (h : Step m subject template p q) (hStart : p.start ≤ subject.size) :
    p.start ≤ q.start ∧ q.start ≤ subject.size :=
  (guarded_of_counts hCounts hStart).start_le h

theorem Step.rank_lt (hCounts : m.CountsWhole subject) {p q : Pass σ}
    (h : Step m subject template p q) (hStart : p.start ≤ subject.size) :
    q.rank subject.size < p.rank subject.size :=
  (guarded_of_counts hCounts hStart).rank_lt h

theorem Fails.eq_error (hCounts : m.CountsWhole subject) {p : Pass σ} {fault : PassFault}
    (hStart : p.start ≤ subject.size) (h : Fails m subject template p fault) :
    ∃ e, fault = .error e :=
  (guarded_of_counts hCounts hStart).eq_error hStart h

theorem run_of_stop {p q : Pass σ} {result : Except PassFault SubstitutionReport}
    (h : p.round m subject template = .stop q result) (patience : Nat) :
    p.run m subject template patience = (q, result) := by
  rw [run, h]

theorem run_of_nearer {p q : Pass σ} (h : p.round m subject template = .next q)
    (hNearer : q.rank subject.size < p.rank subject.size) (patience : Nat) :
    p.run m subject template patience = q.run m subject template patience := by
  rw [run, h]
  exact if_pos hNearer

theorem run_of_far_zero {p q : Pass σ} (h : p.round m subject template = .next q)
    (hFar : ¬q.rank subject.size < p.rank subject.size) :
    p.run m subject template 0 = (q, .error .stalled) := by
  rw [run, h]
  exact if_neg hFar

theorem run_of_far_succ {p q : Pass σ} (h : p.round m subject template = .next q)
    (hFar : ¬q.rank subject.size < p.rank subject.size) (patience : Nat) :
    p.run m subject template (patience + 1) = q.run m subject template patience := by
  rw [run, h]
  exact if_neg hFar

/-- A run is a chain of rounds and a last one, which ends it or brings it no nearer to its end. -/
theorem run_ends (p : Pass σ) (m : Matcher σ) (subject : ByteArray) (template : Template)
    (patience : Nat) : ∃ q, Steps m subject template p q ∧
    (q.round m subject template = .stop (p.run m subject template patience).1
        (p.run m subject template patience).2 ∨
      q.round m subject template = .next (p.run m subject template patience).1 ∧
        ¬(p.run m subject template patience).1.rank subject.size < q.rank subject.size ∧
        (p.run m subject template patience).2 = .error .stalled) := by
  fun_induction run p m subject template patience with
  | case1 p patience q result hRound => exact ⟨p, .refl, .inl hRound⟩
  | case2 p patience q hRound hNearer ih =>
    obtain ⟨r, hSteps, hLast⟩ := ih
    exact ⟨r, .head (step_of_round hRound) hSteps, hLast⟩
  | case3 p q hRound hNearer => exact ⟨p, .refl, .inr ⟨hRound, hNearer, rfl⟩⟩
  | case4 p q hRound hNearer patience ih =>
    obtain ⟨r, hSteps, hLast⟩ := ih
    exact ⟨r, .head (step_of_round hRound) hSteps, hLast⟩

theorem Steps.start_le (hCounts : m.CountsWhole subject) {p q : Pass σ}
    (hSteps : Steps m subject template p q) (hStart : p.start ≤ subject.size) :
    q.start ≤ subject.size :=
  hSteps.preserves (fun _ _ hStep hBefore => (hStep.start_le hCounts hBefore).2) hStart

/-- Where every count includes the whole match, no patience is ever used up. -/
theorem run_stops (hCounts : m.CountsWhole subject) (p : Pass σ) (template : Template)
    (patience : Nat) (hStart : p.start ≤ subject.size) :
    ∃ q, Steps m subject template p q ∧ q.round m subject template =
      .stop (p.run m subject template patience).1 (p.run m subject template patience).2 := by
  obtain ⟨q, hSteps, hStop | ⟨hNext, hFar, _⟩⟩ := p.run_ends m subject template patience
  · exact ⟨q, hSteps, hStop⟩
  · have hInside := hSteps.start_le hCounts hStart
    exact absurd ((step_of_round hNext).rank_lt hCounts hInside) hFar

def first (state : σ) (offsets : MatchOffsets) (out : OutputBuffer) (limit : Option Nat) :
    Pass σ :=
  { state, offsets, out, remaining := limit }

theorem start_first_le (state : σ) (offsets : MatchOffsets) (out : OutputBuffer)
    (limit : Option Nat) (len : Nat) : (first state offsets out limit).start ≤ len :=
  Nat.zero_le len

theorem rank_first (state : σ) (offsets : MatchOffsets) (out : OutputBuffer)
    (limit : Option Nat) (len : Nat) : (first state offsets out limit).rank len = 2 * len + 2 :=
  rank_of_le (start_first_le state offsets out limit len)

end Pass

variable {σ : Type}

def Substitution.ofRun (run : Pass σ × Except PassFault SubstitutionReport) : Substitution σ where
  result := run.2
  out := match run.2 with
    | .ok _ => run.1.out
    | .error _ => run.1.out.clear
  state := run.1.state
  accepted := run.1.accepted.reverse

theorem substituteInto_of_first {m : Matcher σ} {state : σ} {subject : ByteArray}
    {out grown : OutputBuffer} {offsets : MatchOffsets}
    (hGrow : out.clear.growExact (2 * subject.size) maxAllocation = .ok grown)
    (hOffsets : (m.captureCount state).bind MatchOffsets.ofCaptureCount = .ok offsets)
    (template : Template) (limit : Option Nat) (patience : Nat) :
    substituteInto m state subject template limit out patience =
      .ofRun ((Pass.first state offsets grown limit).run m subject template patience) := by
  unfold substituteInto Substitution.ofRun Pass.first
  dsimp only
  rw [hGrow, hOffsets]
  dsimp only
  split
  · rename_i report hResult
    simp only [hResult]
  · rename_i e hResult
    simp only [hResult]

/-- A substitution fails before its first search, or is a run from a first pass. -/
theorem substituteInto_cases (m : Matcher σ) (state : σ) (subject : ByteArray)
    (template : Template) (limit : Option Nat) (out : OutputBuffer) (patience : Nat) :
    (∃ e out', (e = .outOfMemory ∨ m.captureCount state = .error e) ∧ out'.bytes = .empty ∧
      substituteInto m state subject template limit out patience =
        { result := .error (.error e), out := out', state }) ∨
    ∃ offsets grown,
      (m.captureCount state).bind MatchOffsets.ofCaptureCount = .ok offsets ∧
      out.clear.growExact (2 * subject.size) maxAllocation = .ok grown ∧
      substituteInto m state subject template limit out patience =
        .ofRun ((Pass.first state offsets grown limit).run m subject template patience) := by
  cases hGrow : out.clear.growExact (2 * subject.size) maxAllocation with
  | error e =>
    cases OutputBuffer.error_of_growExact hGrow
    refine .inl ⟨.outOfMemory, out.clear, .inl rfl, OutputBuffer.bytes_clear out, ?_⟩
    unfold substituteInto
    dsimp only
    rw [hGrow]
  | ok grown =>
    cases hRoom : (m.captureCount state).bind MatchOffsets.ofCaptureCount with
    | ok offsets =>
      exact .inr ⟨offsets, grown, rfl, rfl, substituteInto_of_first hGrow hRoom _ _ _⟩
    | error e =>
      refine .inl ⟨e, grown, ?_, OutputBuffer.bytes_of_growExact hGrow, ?_⟩
      · cases hCount : m.captureCount state with
        | error e' =>
          rw [hCount] at hRoom
          cases hRoom
          exact .inr rfl
        | ok count =>
          rw [hCount] at hRoom
          exact .inl (MatchOffsets.error_of_ofGroupCapacity hRoom)
      · unfold substituteInto
        dsimp only
        rw [hGrow, hRoom]

end PerlPattern
