import PerlPattern.Proofs.EngineSearch
import PerlPattern.Proofs.LimitedRuns
import PerlPattern.Proofs.LoopsAgree
import PerlPattern.Proofs.SearchBound

/-! # The simple loop over all matches

An engine is asked for the first match from an offset on, and again from where
that match ends, or from one unit further if it is empty. A pass asks more: it
searches once more where it found an empty match. If the engine reports the
same first match from every offset up to it, that search finds nothing, and a
pass replaces what the simple loop finds.
-/

namespace PerlPattern

variable {pattern : CompiledPattern} {subject : ByteArray} {template : Template}

/-- The first match from an offset on is also the first one from every offset between the two. -/
def Engine.StartConsistent (e : Engine) (subject : ByteArray) : Prop :=
  ∀ a b whole captures, a ≤ subject.size → a ≤ b → b ≤ whole.start →
    e.search subject a = .ok (some (some whole :: captures)) →
    ∃ captures', e.search subject b = .ok (some (some whole :: captures'))

/-- Matches start no earlier than the search, and their groups lie within the subject. -/
structure Engine.ReportsWithin (e : Engine) (subject : ByteArray) : Prop where
  start_le : ∀ {start whole captures}, start ≤ subject.size →
    e.search subject start = .ok (some (some whole :: captures)) → start ≤ whole.start
  within : ∀ {start whole captures}, start ≤ subject.size →
    e.search subject start = .ok (some (some whole :: captures)) →
    ∀ span, some span ∈ some whole :: captures → span.Within subject.size

theorem Engine.promises_of_table {e : Engine} (spanAt : Nat → Span) (capturesAt : Nat → Groups)
    (hSearch : ∀ start ≤ subject.size,
      e.search subject start = .ok (some (some (spanAt start) :: capturesAt start)))
    (hWithin : ∀ start ≤ subject.size, start ≤ (spanAt start).start ∧
      ∀ group ∈ some (spanAt start) :: capturesAt start, ∀ span ∈ group, span.Within subject.size)
    (hSame : ∀ a ≤ subject.size, ∀ b ≤ (spanAt a).start, a ≤ b → spanAt b = spanAt a) :
    e.StartConsistent subject ∧ e.ReportsWithin subject := by
  have hTable : ∀ start ≤ subject.size, ∀ whole captures,
      e.search subject start = .ok (some (some whole :: captures)) →
      whole = spanAt start ∧ captures = capturesAt start := by
    intro start hStart whole captures hReported
    cases (hSearch start hStart).symm.trans hReported
    exact ⟨rfl, rfl⟩
  constructor
  · intro a b whole captures ha hab hb hReported
    obtain ⟨rfl, _⟩ := hTable a ha whole captures hReported
    obtain ⟨hOrder, hStop⟩ := (hWithin a ha).2 _ List.mem_cons_self _ rfl
    rw [← hSame a ha b hb hab]
    exact ⟨_, hSearch b (hb.trans (hOrder.trans hStop))⟩
  · constructor
    · intro start whole captures hStart hReported
      obtain ⟨rfl, _⟩ := hTable start hStart whole captures hReported
      exact (hWithin start hStart).1
    · intro start whole captures hStart hReported span hMember
      obtain ⟨rfl, rfl⟩ := hTable start hStart whole captures hReported
      exact (hWithin start hStart).2 _ hMember span rfl

namespace CompiledPattern

/-- The first match from an offset on and its captures; an anchored pattern keeps it only if it
starts there. -/
def firstMatch (pattern : CompiledPattern) (subject : ByteArray) (start : Nat) :
    Except Backtrack.SearchFault (Option (Span × Groups)) :=
  (pattern.engine.search subject start).map fun found =>
    match found with
    | some (some whole :: captures) =>
      if pattern.modifiers.has .anchored ∧ whole.start ≠ start then none
      else some (whole, captures)
    | _ => none

/-- Where the simple loop goes on after a match that ends at `stop`: there, or one unit further if
the match is empty. It stops after an empty match at the end. -/
def resume? (pattern : CompiledPattern) (subject : ByteArray) (stop : Nat) (empty : Bool) :
    Option Nat :=
  if empty then
    if stop = subject.size then none else some (stop + pattern.advance subject stop)
  else some stop

/-- The matches that the simple loop still finds from where it goes on, if it does. -/
inductive GlobalMatches (pattern : CompiledPattern) (subject : ByteArray) :
    Option Nat → List (Span × Groups) → Prop
  | stopped : GlobalMatches pattern subject none []
  | nothing {start : Nat} (hFound : pattern.firstMatch subject start = .ok none) :
      GlobalMatches pattern subject (some start) []
  | found {start : Nat} {whole : Span} {captures : Groups} {rest : List (Span × Groups)}
      (hFound : pattern.firstMatch subject start = .ok (some (whole, captures)))
      (hRest : GlobalMatches pattern subject
        (pattern.resume? subject whole.stop whole.isEmpty) rest) :
      GlobalMatches pattern subject (some start) ((whole, captures) :: rest)

theorem GlobalMatches.unique {at? : Option Nat} {l l' : List (Span × Groups)}
    (h : pattern.GlobalMatches subject at? l) (h' : pattern.GlobalMatches subject at? l') :
    l = l' := by
  induction h generalizing l' with
  | stopped =>
    cases h'
    rfl
  | nothing hFound =>
    cases h' with
    | nothing => rfl
    | found hFound' => cases hFound.symm.trans hFound'
  | found hFound _ ih =>
    cases h' with
    | nothing hFound' => cases hFound.symm.trans hFound'
    | found hFound' hRest =>
      cases hFound.symm.trans hFound'
      rw [ih hRest]

theorem firstMatch_eq_some_iff {start : Nat} {whole : Span} {captures : Groups} :
    pattern.firstMatch subject start = .ok (some (whole, captures)) ↔
      pattern.engine.search subject start = .ok (some (some whole :: captures)) ∧
        (pattern.modifiers.has .anchored = true → whole.start = start) := by
  unfold firstMatch
  constructor
  · intro h
    cases hSearch : pattern.engine.search subject start with
    | error fault =>
      rw [hSearch] at h
      cases h
    | ok found =>
      rw [hSearch] at h
      have hKept := Except.ok.inj h
      dsimp only at hKept
      split at hKept
      · split at hKept
        · cases hKept
        · rename_i hHere
          cases hKept
          exact ⟨rfl, fun hAnchored => by_contra fun hOther => hHere ⟨hAnchored, hOther⟩⟩
      · cases hKept
  · rintro ⟨hSearch, hKept⟩
    have hHere : ¬(pattern.modifiers.has .anchored = true ∧ whole.start ≠ start) :=
      fun hOther => hOther.2 (hKept hOther.1)
    simp only [hSearch, Except.map, if_neg hHere]

theorem firstMatch_eq_none {start : Nat} {found : Option Groups}
    (hSearch : pattern.engine.search subject start = .ok found)
    (hNone : ∀ whole captures, found = some (some whole :: captures) →
      ¬(pattern.modifiers.has .anchored = true → whole.start = start)) :
    pattern.firstMatch subject start = .ok none := by
  simp only [firstMatch, hSearch, Except.map]
  split
  · rename_i whole captures
    rw [if_pos (Classical.not_imp.mp (hNone whole captures rfl))]
  · rfl

theorem allows_first_iff {start : Nat} {whole : Span} :
    (pattern.modeOf { notEmptyAtStart := false }).Allows start whole ↔
      (pattern.modifiers.has .anchored = true → whole.start = start) := by
  simp [SearchMode.Allows, SearchMode.requiresStart, modeOf]

/-- What a round of a pass is answered: as the simple loop at a first search, and never a match at a
retry. -/
inductive Meets (pattern : CompiledPattern) (subject : ByteArray) (start : Nat) :
    Bool → Outcome → MatchOffsets → Prop
  | retry (offsets : MatchOffsets) : Meets pattern subject start true .noMatch offsets
  | nothing (offsets : MatchOffsets) (hFound : pattern.firstMatch subject start = .ok none) :
      Meets pattern subject start false .noMatch offsets
  | found (outcome : Outcome) (offsets : MatchOffsets) (count : Nat) (whole : Span)
      (captures : Groups) (hFound : pattern.firstMatch subject start = .ok (some (whole, captures)))
      (hCount : outcome.matchCount? offsets = some count)
      (hHolds : offsets.Holds (some whole :: captures)) (hCounted : offsets.CountedBy count) :
      Meets pattern subject start false outcome offsets

theorem meets_of_answers {start : Nat} {notEmpty : Bool} {outcome : Outcome}
    {offsets : MatchOffsets}
    (h : pattern.engine.Answers subject start
      (pattern.modeOf { notEmptyAtStart := notEmpty }) outcome offsets)
    (hEmpty : notEmpty = true → ∃ captures,
      pattern.engine.search subject start = .ok (some (some ⟨start, start⟩ :: captures))) :
    pattern.Meets subject start notEmpty outcome offsets := by
  cases notEmpty with
  | true =>
    obtain ⟨captures, hHere⟩ := hEmpty rfl
    cases h with
    | nothing => exact .retry offsets
    | recorded _ _ _ whole captures' hSearch hAllows =>
      cases hHere.symm.trans hSearch
      -- The engine is not asked for another match: the empty one it finds is refused afterwards.
      exact absurd ⟨rfl, decide_eq_true (Nat.le_refl start)⟩ hAllows.2
  | false =>
    cases h with
    | nothing _ found hSearch hNone =>
      refine .nothing offsets (firstMatch_eq_none hSearch ?_)
      intro whole captures hFound
      rw [← allows_first_iff]
      exact hNone whole captures hFound
    | recorded _ _ count whole captures hSearch hAllows hCount hHolds hCounted =>
      have hFound : pattern.firstMatch subject start = .ok (some (whole, captures)) :=
        firstMatch_eq_some_iff.mpr ⟨hSearch, allows_first_iff.mp hAllows⟩
      exact .found outcome offsets count whole captures hFound hCount hHolds hCounted

end CompiledPattern

/-- A match replaced is one that the simple loop found: its offsets have room for every group of the
pattern and hold those of the match, and its count leaves none of them out. -/
structure Accepted.Shows (room : Nat) (a : Accepted) (found : Span × Groups) : Prop where
  span : a.span = found.1
  room : a.offsets.groupCapacity = room
  groups : a.offsets.Holds (some found.1 :: found.2)
  counted : a.offsets.CountedBy a.count

def SearchCall.RetryRefused (call : SearchCall) : Prop :=
  call.mode.notEmptyAtStart = true → call.answer = .ok .noMatch

namespace Pass

/-- A pass without a limit that retries only where the engine finds an empty match. -/
structure Simple (pattern : CompiledPattern) (subject : ByteArray) (p : Pass (Logged Unit)) :
    Prop where
  counted : p.Counted none
  start_le : p.start ≤ subject.size
  room : p.offsets.groupCapacity = pattern.captureCount + 1
  retried : p.notEmpty = true → ∃ captures,
    pattern.engine.search subject p.start = .ok (some (some ⟨p.start, p.start⟩ :: captures))
  refused : ∀ call ∈ p.state.2, call.RetryRefused

variable {p q : Pass (Logged Unit)}

theorem Simple.left (h : p.Simple pattern subject) : p.remaining ≠ some 0 := by
  rw [h.counted.remaining]
  nofun

theorem Simple.meets (h : p.Simple pattern subject) {outcome : Outcome} {offsets : MatchOffsets}
    {s : Logged Unit}
    (hSearch : p.search pattern.matcher.logged subject = (.ok outcome, offsets, s)) :
    offsets.groupCapacity = pattern.captureCount + 1 ∧
      pattern.Meets subject p.start p.notEmpty outcome offsets := by
  have hExec : pattern.engine.exec subject p.start
      (pattern.modeOf { notEmptyAtStart := p.notEmpty }) p.offsets = (.ok outcome, offsets) :=
    congrArg (fun r => (r.1, r.2.1)) (Matcher.exec_of_logged hSearch).1
  obtain ⟨hRoom, hAnswers⟩ := Engine.exec_answers hExec
  exact ⟨hRoom.trans h.room, CompiledPattern.meets_of_answers hAnswers h.retried⟩

theorem Simple.refused_search (h : p.Simple pattern subject) {outcome : Outcome}
    {offsets : MatchOffsets} {s : Logged Unit}
    (hSearch : p.search pattern.matcher.logged subject = (.ok outcome, offsets, s)) :
    ∀ call ∈ s.2, call.RetryRefused := by
  rw [log_of_search hSearch]
  intro call hCall
  rcases List.mem_append.mp hCall with hEarlier | hLast
  · exact h.refused call hEarlier
  · cases List.mem_singleton.mp hLast
    intro hRetry
    have hMeets := (h.meets hSearch).2
    have hFlag : p.notEmpty = true := hRetry
    rw [hFlag] at hMeets
    cases hMeets
    rfl

theorem Simple.found (h : p.Simple pattern subject) {outcome : Outcome} {offsets : MatchOffsets}
    {s : Logged Unit} {count : Nat}
    (hSearch : p.search pattern.matcher.logged subject = (.ok outcome, offsets, s))
    (hCount : outcome.matchCount? offsets = some count) :
    p.notEmpty = false ∧ ∃ whole captures, offsets.group 0 = some whole ∧
      pattern.firstMatch subject p.start = .ok (some (whole, captures)) ∧
      (⟨whole, offsets, count⟩ : Accepted).Shows (pattern.captureCount + 1) (whole, captures) := by
  obtain ⟨hRoom, hMeets⟩ := h.meets hSearch
  generalize hFlag : p.notEmpty = flag at hMeets
  cases hMeets with
  | retry => cases hCount
  | nothing => cases hCount
  | found _ _ count' whole captures hFound hCount' hHolds hCounted =>
    obtain rfl := Option.some.inj (hCount'.symm.trans hCount)
    exact ⟨rfl, whole, captures, hHolds 0 (by omega), hFound, rfl, hRoom, hHolds, hCounted⟩

theorem Simple.notFound (h : p.Simple pattern subject) {outcome : Outcome}
    {offsets : MatchOffsets} {s : Logged Unit}
    (hSearch : p.search pattern.matcher.logged subject = (.ok outcome, offsets, s))
    (hNone : outcome.matchCount? offsets = none) (hFirst : p.notEmpty = false) :
    pattern.firstMatch subject p.start = .ok none := by
  have hMeets := (h.meets hSearch).2
  rw [hFirst] at hMeets
  cases hMeets with
  | nothing _ hFound => exact hFound
  | found _ _ count whole captures _ hCount => cases hNone.symm.trans hCount

theorem Step.simple (hConsistent : pattern.engine.StartConsistent subject)
    (hReports : pattern.engine.ReportsWithin subject)
    (h : Step pattern.matcher.logged subject template p q) (hSimple : p.Simple pattern subject) :
    q.Simple pattern subject := by
  have hStart := (h.start_le (pattern.matcher_countsWhole subject).logged hSimple.start_le).2
  have hCounted := h.counted hSimple.counted
  cases h with
  | replaced outcome offsets s count whole out hSearch hCount hLeft hChecked hGrow hInside =>
    obtain ⟨_, whole', captures, hWhole, hFound, hShows⟩ := hSimple.found hSearch hCount
    obtain rfl := Option.some.inj (hChecked.group.symm.trans hWhole)
    refine {
      counted := hCounted
      start_le := hStart
      room := hShows.room
      retried := ?_
      refused := hSimple.refused_search hSearch }
    intro hEmpty
    have hFirst := (CompiledPattern.firstMatch_eq_some_iff.mp hFound).1
    have hOrder := hReports.within hSimple.start_le hFirst whole List.mem_cons_self
    have hPoint : whole.start = whole.stop := Nat.le_antisymm hOrder.1 (of_decide_eq_true hEmpty)
    -- A search from where the empty match stands finds that match again.
    obtain ⟨captures', hAgain⟩ := hConsistent p.start whole.stop whole captures hSimple.start_le
      (hPoint ▸ hChecked.start_le) (Nat.le_of_eq hPoint.symm) hFirst
    have hSpan : whole = ⟨whole.stop, whole.stop⟩ := congrArg (Span.mk · whole.stop) hPoint
    refine ⟨captures', hAgain.trans ?_⟩
    rw [← hSpan]
  | stepped outcome offsets s out hSearch hNone hNotEmpty hInside hGrow =>
    exact {
      counted := hCounted
      start_le := hStart
      room := (hSimple.meets hSearch).1
      retried := nofun
      refused := hSimple.refused_search hSearch }

/-- The first offset at which another match may start. -/
def passed (p : Pass (Logged Unit)) : Nat := p.start + if p.notEmpty then 1 else 0

theorem Simple.passed_le (h : p.Simple pattern subject) : p.passed ≤ subject.size + 1 := by
  have hStart := h.start_le
  unfold passed
  split <;> omega

/-- Matches replaced start further and further on, all of them before any that may follow. -/
structure Increasing (p : Pass (Logged Unit)) : Prop where
  chain : p.accepted.IsChain fun b a => a.span.start < b.span.start
  last : ∀ a ∈ p.accepted.head?, a.span.start < p.passed
  length_le : p.accepted.length ≤ p.passed

theorem Step.increasing (h : Step pattern.matcher.logged subject template p q)
    (hSimple : p.Simple pattern subject) (hIncreasing : p.Increasing) : q.Increasing := by
  have hCounts := (pattern.matcher_countsWhole subject).logged
  cases h with
  | replaced outcome offsets s count whole out hSearch hCount hLeft hChecked hGrow hInside =>
    have hFirst := (hSimple.found hSearch hCount).1
    have hOrder := (whole_within hCounts hSimple.start_le hSearch hCount hChecked).1
    have hAhead : p.passed ≤ whole.start := by
      rw [passed, hFirst]
      exact hChecked.start_le
    have hPassed : whole.start < whole.stop + if whole.isEmpty then 1 else 0 := by
      cases hEmpty : whole.isEmpty with
      | true => exact Nat.lt_succ_of_le hOrder
      | false => exact Nat.lt_of_not_le (of_decide_eq_false hEmpty)
    refine ⟨?_, ?_, ?_⟩
    · refine List.isChain_cons.mpr ⟨?_, hIncreasing.chain⟩
      intro a ha
      exact Nat.lt_of_lt_of_le (hIncreasing.last a ha) hAhead
    · rintro a ⟨⟩
      exact hPassed
    · have hLength := hIncreasing.length_le
      dsimp only [passed, List.length_cons]
      omega
  | stepped outcome offsets s out hSearch hNone hNotEmpty hInside hGrow =>
    have hWidth := stepWidth_pos pattern.matcher.logged subject p.start s
    have hPassed : p.passed ≤ p.start + stepWidth pattern.matcher.logged subject p.start s := by
      rw [passed, hNotEmpty]
      exact Nat.add_le_add_left hWidth _
    refine ⟨hIncreasing.chain, ?_, Nat.le_trans hIncreasing.length_le hPassed⟩
    intro a ha
    exact Nat.lt_of_lt_of_le (hIncreasing.last a ha) hPassed

def Ahead (pattern : CompiledPattern) (subject : ByteArray) (p : Pass (Logged Unit))
    (l : List (Span × Groups)) : Prop :=
  pattern.GlobalMatches subject (pattern.resume? subject p.start p.notEmpty) l

theorem stepWidth_eq_advance {start : Nat} (s : Logged Unit) (h : start < subject.size) :
    stepWidth pattern.matcher.logged subject start s = pattern.advance subject start := by
  obtain ⟨hPositive, hFits⟩ := pattern.advance_bounds h
  have hAdvance : pattern.matcher.logged.advance subject start s = pattern.advance subject start :=
    rfl
  rw [stepWidth, hAdvance]
  omega

theorem Step.ahead (h : Step pattern.matcher.logged subject template p q)
    (hSimple : p.Simple pattern subject) {new : List Accepted} {l : List (Span × Groups)}
    (hShows : List.Forall₂ (Accepted.Shows (pattern.captureCount + 1)) new l)
    (hAhead : q.Ahead pattern subject l) : ∃ new' l',
      q.accepted.reverse ++ new = p.accepted.reverse ++ new' ∧
        List.Forall₂ (Accepted.Shows (pattern.captureCount + 1)) new' l' ∧
        p.Ahead pattern subject l' := by
  cases h with
  | replaced outcome offsets s count whole out hSearch hCount hLeft hChecked hGrow hInside =>
    obtain ⟨hFirst, whole', captures, hWhole, hFound, hShown⟩ := hSimple.found hSearch hCount
    obtain rfl := Option.some.inj (hChecked.group.symm.trans hWhole)
    refine ⟨⟨whole, offsets, count⟩ :: new, (whole, captures) :: l, ?_, .cons hShown hShows, ?_⟩
    · rw [List.reverse_cons, List.append_assoc]
      rfl
    · rw [Ahead, hFirst]
      exact .found hFound hAhead
  | stepped outcome offsets s out hSearch hNone hNotEmpty hInside hGrow =>
    refine ⟨new, l, rfl, hShows, ?_⟩
    rw [Ahead, hNotEmpty, CompiledPattern.resume?, if_pos rfl, if_neg (Nat.ne_of_lt hInside),
      ← stepWidth_eq_advance s hInside]
    exact hAhead

theorem Ends.ahead {report : SubstitutionReport}
    (h : Ends pattern.matcher.logged subject p q report) (hSimple : p.Simple pattern subject) :
    p.Ahead pattern subject [] := by
  cases h with
  | copied outcome offsets s out hSearch hNone hLast hInside hGrow =>
    cases hFlag : p.notEmpty with
    | false =>
      rw [Ahead, hFlag]
      exact .nothing (hSimple.notFound hSearch (hNone.resolve_right hSimple.left) hFlag)
    | true =>
      have hEnd : p.start = subject.size := by
        rcases hLast with hFirst | hEnd
        · cases hFirst.symm.trans hFlag
        · exact hEnd
      rw [Ahead, hFlag, CompiledPattern.resume?, if_pos rfl, if_pos hEnd]
      exact .stopped

theorem Steps.ahead (hConsistent : pattern.engine.StartConsistent subject)
    (hReports : pattern.engine.ReportsWithin subject)
    (hSteps : Steps pattern.matcher.logged subject template p q)
    (hSimple : p.Simple pattern subject) (hEnd : q.Ahead pattern subject []) : ∃ new l,
      q.accepted.reverse = p.accepted.reverse ++ new ∧
        List.Forall₂ (Accepted.Shows (pattern.captureCount + 1)) new l ∧
        p.Ahead pattern subject l := by
  -- From the end back: what the simple loop finds is known where the pass ends.
  induction hSteps using Relation.ReflTransGen.head_induction_on with
  | refl => exact ⟨[], [], (List.append_nil _).symm, .nil, hEnd⟩
  | head hStep _ ih =>
    obtain ⟨new, l, hAccepted, hShows, hLater⟩ := ih (hStep.simple hConsistent hReports hSimple)
    obtain ⟨new', l', hSame, hShows', hNow⟩ := hStep.ahead hSimple hShows hLater
    exact ⟨new', l', hAccepted.trans hSame, hShows', hNow⟩

theorem Simple.fails_outOfMemory (hReports : pattern.engine.ReportsWithin subject)
    {fault : PassFault} (h : p.Simple pattern subject)
    (hAnswered : ∃ outcome, (p.search pattern.matcher.logged subject).1 = .ok outcome)
    (hFails : Fails pattern.matcher.logged subject template p fault) :
    fault = .error .outOfMemory := by
  have hStart := h.start_le
  cases hFails with
  | engine e offsets s hSearch =>
    obtain ⟨outcome, hOk⟩ := hAnswered
    rw [hSearch] at hOk
    cases hOk
  | rejected outcome offsets s count hSearch hCount hLeft hNone =>
    obtain ⟨hFirst, whole, captures, hWhole, hFound, hShows⟩ := h.found hSearch hCount
    have hReported := (CompiledPattern.firstMatch_eq_some_iff.mp hFound).1
    refine absurd ⟨hWhole, hReports.start_le hStart hReported, ?_, ?_⟩ (hNone whole)
    · rw [hFirst]
      nofun
    · intro g hCounted span hGroup
      have hHeld := hShows.groups g (Nat.lt_of_lt_of_le hCounted (Nat.min_le_right _ _))
      rw [hGroup] at hHeld
      have hMember := List.mem_of_getElem? (Option.join_eq_some_iff.mp hHeld.symm)
      exact hReports.within hStart hReported span hMember
  | memory => rfl
  | matchOutside outcome offsets s count whole hSearch hCount hLeft hChecked hOutside =>
    obtain ⟨hOrder, hStop⟩ :=
      whole_within (pattern.matcher_countsWhole subject).logged hStart hSearch hCount hChecked
    omega
  | startOutside hOutside => omega

theorem simple_first (subject : ByteArray) {offsets : MatchOffsets} (out : OutputBuffer)
    (hOffsets : MatchOffsets.ofCaptureCount pattern.captureCount = .ok offsets) :
    (first ((), []) offsets out none).Simple pattern subject where
  counted := counted_first _ _ _ _
  start_le := Nat.zero_le _
  room := CompiledPattern.groupCapacity_of_newOffsets hOffsets
  retried := nofun
  refused := nofun

theorem increasing_first (offsets : MatchOffsets) (out : OutputBuffer) :
    (first ((), []) offsets out none).Increasing where
  chain := .nil
  last := nofun
  length_le := Nat.zero_le _

theorem run_simple (hConsistent : pattern.engine.StartConsistent subject)
    (hReports : pattern.engine.ReportsWithin subject) (hSimple : p.Simple pattern subject)
    (hIncreasing : p.Increasing) (template : Template) (patience : Nat)
    (hAnswered : ∀ call ∈ (p.run pattern.matcher.logged subject template patience).1.state.2,
      ∃ outcome, call.answer = .ok outcome) :
    ∃ q, Steps pattern.matcher.logged subject template p q ∧
      q.Simple pattern subject ∧ q.Increasing ∧
      q.round pattern.matcher.logged subject template =
        .stop (p.run pattern.matcher.logged subject template patience).1
          (p.run pattern.matcher.logged subject template patience).2 ∧
      ∃ outcome offsets, q.search pattern.matcher.logged subject =
        (.ok outcome, offsets,
          (p.run pattern.matcher.logged subject template patience).1.state) := by
  obtain ⟨q, hSteps, hStop⟩ := run_stops (pattern.matcher_countsWhole subject).logged p template
    patience hSimple.start_le
  have hBoth : q.Simple pattern subject ∧ q.Increasing := by
    refine hSteps.preserves (P := fun r => r.Simple pattern subject ∧ r.Increasing) ?_
      ⟨hSimple, hIncreasing⟩
    rintro r r' hStep ⟨hBefore, hOrder⟩
    exact ⟨hStep.simple hConsistent hReports hBefore, hStep.increasing hBefore hOrder⟩
  have hState := q.state_round pattern.matcher.logged subject template
  rw [hStop] at hState
  have hLog := q.log_search pattern.matcher subject
  rw [← hState] at hLog
  obtain ⟨outcome, hOutcome⟩ :=
    hAnswered _ (hLog ▸ List.mem_append_right _ (List.mem_singleton_self _))
  refine ⟨q, hSteps, hBoth.1, hBoth.2, hStop, outcome,
    (q.search pattern.matcher.logged subject).2.1, ?_⟩
  exact Prod.ext hOutcome (Prod.ext rfl hState.symm)

end Pass

/-- If an engine reports the same first match from every offset up to it, a substitution without a
limit none of whose searches fails replaces what the simple loop finds. Retries find nothing, and
matches start further and further on. -/
theorem substituteInto_globalMatches (hConsistent : pattern.engine.StartConsistent subject)
    (hReports : pattern.engine.ReportsWithin subject) (template : Template) (out : OutputBuffer)
    (patience : Nat)
    (hAnswered : ∀ call ∈ substituteCalls pattern.matcher () subject template none out patience,
      ∃ outcome, call.answer = .ok outcome) :
    let run := substituteInto pattern.matcher () subject template none out patience
    (run.result = .error (.error .outOfMemory) ∨
      ∃ report found, run.result = .ok report ∧
        (∀ l, pattern.GlobalMatches subject (some 0) l ↔ l = found) ∧
        List.Forall₂ (Accepted.Shows (pattern.captureCount + 1)) run.accepted found ∧
        report.replacements ≤ subject.size + 1) ∧
    (∀ call ∈ substituteCalls pattern.matcher () subject template none out patience,
      call.RetryRefused) ∧
    run.accepted.IsChain (fun a b => a.span.start < b.span.start) ∧
    run.accepted.length ≤ subject.size + 1 := by
  intro run
  have hRun : run = { substituteInto pattern.matcher.logged ((), []) subject template none out
      patience with state := () } := substituteInto_logged pattern.matcher () [] _ _ _ _ _
  unfold substituteCalls at hAnswered ⊢
  rw [hRun]
  dsimp only
  obtain ⟨e, out', hWhy, _, hEnd⟩ | ⟨offsets, grown, hOffsets, _, hEnd⟩ :=
    substituteInto_cases pattern.matcher.logged ((), []) subject template none out patience
  · rw [hEnd]
    rcases hWhy with rfl | hError
    · exact ⟨.inl rfl, nofun, .nil, Nat.zero_le _⟩
    · cases hError
  rw [hEnd] at hAnswered ⊢
  have hSimple := Pass.simple_first subject grown hOffsets
  obtain ⟨q, hSteps, hLast, hOrder, hStop, outcome, after, hSearch⟩ :=
    Pass.run_simple hConsistent hReports hSimple (Pass.increasing_first offsets grown) template
      patience hAnswered
  have hAccepted := Pass.accepted_of_stop hStop
  have hLength : q.accepted.length ≤ subject.size + 1 :=
    Nat.le_trans hOrder.length_le hLast.passed_le
  refine ⟨?_, hLast.refused_search hSearch, ?_, ?_⟩
  · cases hResult : ((Pass.first ((), []) offsets grown none).run pattern.matcher.logged subject
        template patience).2 with
    | error fault =>
      rw [hResult] at hStop
      have hAnswer : ∃ outcome, (q.search pattern.matcher.logged subject).1 = .ok outcome :=
        ⟨outcome, congrArg Prod.fst hSearch⟩
      cases hLast.fails_outOfMemory hReports hAnswer (Pass.fails_of_round hStop)
      exact .inl hResult
    | ok report =>
      rw [hResult] at hStop
      have hEnds := Pass.ends_of_round hStop
      obtain ⟨new, found, hNew, hShows, hFound⟩ :=
        hSteps.ahead hConsistent hReports hSimple (hEnds.ahead hLast)
      refine .inr ⟨report, found, hResult, ?_, ?_, ?_⟩
      · intro l
        constructor
        · exact fun hOther => hOther.unique hFound
        · rintro rfl
          exact hFound
      · rw [Substitution.ofRun, hAccepted, hNew]
        exact hShows
      · rw [hEnds.replacements hLast.counted, hAccepted]
        exact Nat.le_trans (Nat.min_le_left _ _) hLength
  · rw [Substitution.ofRun, hAccepted]
    exact List.isChain_reverse.mpr hOrder.chain
  · rw [Substitution.ofRun, hAccepted, List.length_reverse]
    exact hLength

theorem substituteInto_globalMatches_words :
    ∃ pattern, CompiledPattern.ofDelimited "/\\b(b*)/".toUTF8 default = .ok pattern ∧
      pattern.engine.StartConsistent "ab bb".toUTF8 ∧ pattern.engine.ReportsWithin "ab bb".toUTF8 ∧
      (∀ call ∈ substituteCalls pattern.matcher () "ab bb".toUTF8 (Template.parse "-".toUTF8) none
        {} 0, call.RetryRefused ∧ ∃ outcome, call.answer = .ok outcome) ∧
      ∃ found, pattern.GlobalMatches "ab bb".toUTF8 (some 0) found ∧ found.length = 4 ∧
        List.Forall₂ (Accepted.Shows 2) (substituteInto pattern.matcher () "ab bb".toUTF8
          (Template.parse "-".toUTF8) none {} 0).accepted found := by
  let spanAt : Nat → Span :=
    fun start => [⟨0, 0⟩, ⟨2, 2⟩, ⟨2, 2⟩, ⟨3, 5⟩, ⟨5, 5⟩, ⟨5, 5⟩].getD start default
  have hComputed : ((CompiledPattern.ofDelimited "/\\b(b*)/".toUTF8 default).toOption.map
      fun pattern => (decide (∀ start ≤ "ab bb".toUTF8.size,
          (pattern.engine.search "ab bb".toUTF8 start).toOption =
            some (some [some (spanAt start), some (spanAt start)])), pattern.captureCount,
        (substituteWithin 9 pattern.matcher.logged ((), []) "ab bb".toUTF8
          (Template.parse "-".toUTF8) none {}).map fun s =>
            (s.result.toOption, s.accepted.length,
              s.state.2.all fun call => call.answer.toOption.isSome))) =
      some (true, 1, some (some { replacements := 4 }, 4, true)) := by decide +kernel
  obtain ⟨pattern, hCompiled, hFacts⟩ := Option.map_eq_some_iff.mp hComputed
  obtain ⟨hSearches, hRest⟩ := Prod.mk.inj hFacts
  obtain ⟨hCaptures, hWithin⟩ := Prod.mk.inj hRest
  obtain ⟨hConsistent, hReports⟩ : pattern.engine.StartConsistent "ab bb".toUTF8 ∧
      pattern.engine.ReportsWithin "ab bb".toUTF8 := by
    apply Engine.promises_of_table spanAt fun start => [some (spanAt start)]
    · exact fun start hStart => eq_ok_of_toOption (of_decide_eq_true hSearches start hStart)
    · decide +kernel
    · decide +kernel
  have hRun := substituteInto_of_within 9 _ hWithin 0
  obtain ⟨hResult, hRun⟩ := Prod.mk.inj hRun
  obtain ⟨hLength, hCalls⟩ := Prod.mk.inj hRun
  have hAnswered : ∀ call ∈ substituteCalls pattern.matcher () "ab bb".toUTF8
      (Template.parse "-".toUTF8) none {} 0, ∃ outcome, call.answer = .ok outcome := by
    intro call hCall
    obtain ⟨outcome, hOutcome⟩ := Option.isSome_iff_exists.mp (List.all_eq_true.mp hCalls call hCall)
    exact ⟨outcome, eq_ok_of_toOption hOutcome⟩
  obtain ⟨hOr, hRefused, _⟩ := substituteInto_globalMatches hConsistent hReports
    (Template.parse "-".toUTF8) {} 0 hAnswered
  have hPlain := substituteInto_logged pattern.matcher () [] "ab bb".toUTF8
    (Template.parse "-".toUTF8) none {} 0
  refine ⟨pattern, eq_ok_of_toOption hCompiled, hConsistent, hReports,
    fun call hCall => ⟨hRefused call hCall, hAnswered call hCall⟩, ?_⟩
  rcases hOr with hMemory | ⟨report, found, _, hMatches, hShows, _⟩
  · rw [hPlain] at hMemory
    dsimp only at hMemory
    rw [hMemory] at hResult
    cases hResult
  · rw [hCaptures] at hShows
    refine ⟨found, (hMatches found).mpr rfl, ?_, hShows⟩
    rw [← hShows.length_eq, hPlain]
    exact hLength

end PerlPattern
