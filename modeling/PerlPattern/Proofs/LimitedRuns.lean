import PerlPattern.Proofs.Splice

/-! # Substitution with a limit

With a limit, a substitution replaces the first matches that it replaces
without one. The two passes go through the same states until the limit is used
up; whatever is still found then is only copied.
-/

namespace PerlPattern

variable {σ : Type} {m : Matcher σ} {subject : ByteArray} {template : Template}

namespace Pass

/-- A limited pass stands where an unlimited one does, and has replaced the same matches. -/
structure Follows (limit : Nat) (p q : Pass σ) : Prop where
  state : q.state = p.state
  offsets : q.offsets = p.offsets
  start : q.start = p.start
  notEmpty : q.notEmpty = p.notEmpty
  accepted : q.accepted = p.accepted
  unlimited : p.remaining = none
  counted : q.Counted (some limit)

theorem Follows.search {limit : Nat} {p q : Pass σ} (h : Follows limit p q) (m : Matcher σ)
    (subject : ByteArray) : q.search m subject = p.search m subject := by
  unfold Pass.search
  rw [h.state, h.offsets, h.start, h.notEmpty]

theorem Follows.left {limit : Nat} {p q : Pass σ} (h : Follows limit p q) :
    p.remaining ≠ some 0 := by
  rw [h.unlimited]
  nofun

theorem Step.follows {limit : Nat} {p p' q q' : Pass σ} (hFollows : Follows limit p q)
    (hLeft : q.remaining ≠ some 0) (hp : Step m subject template p p')
    (hq : Step m subject template q q') : Follows limit p' q' := by
  have hCounted := hq.counted hFollows.counted
  have hSearch := hFollows.search m subject
  cases hp with
  | replaced outcome offsets state count whole out hSearchP hCount _ hChecked _ _ =>
    cases hq with
    | replaced outcome' offsets' state' count' whole' out' hSearchQ hCount' _ hChecked' _ _ =>
      obtain ⟨hOutcome, hState⟩ := Prod.mk.inj (hSearchQ.symm.trans (hSearch.trans hSearchP))
      obtain ⟨rfl, rfl⟩ := Prod.mk.inj hState
      cases hOutcome
      obtain rfl := Option.some.inj (hCount'.symm.trans hCount)
      obtain rfl := Option.some.inj (hChecked'.group.symm.trans hChecked.group)
      exact {
        state := rfl
        offsets := rfl
        start := rfl
        notEmpty := rfl
        accepted := congrArg (List.cons _) hFollows.accepted
        unlimited := congrArg (Option.map (· - 1)) hFollows.unlimited
        counted := hCounted }
    | stepped outcome' offsets' state' out' hSearchQ hNone _ _ _ =>
      cases hSearchQ.symm.trans (hSearch.trans hSearchP)
      rw [hCount] at hNone
      rcases hNone with hNone | hSpent
      · cases hNone
      · exact absurd hSpent hLeft
  | stepped outcome offsets state out hSearchP hNone _ _ _ =>
    cases hq with
    | replaced outcome' offsets' state' count' whole' out' hSearchQ hCount' _ _ _ _ =>
      cases hSearchQ.symm.trans (hSearch.trans hSearchP)
      rw [hCount'] at hNone
      rcases hNone with hNone | hSpent
      · cases hNone
      · exact absurd hSpent hFollows.left
    | stepped outcome' offsets' state' out' hSearchQ _ _ _ _ =>
      cases hSearchQ.symm.trans (hSearch.trans hSearchP)
      exact {
        state := rfl
        offsets := rfl
        start := by simp only [hFollows.start]
        notEmpty := rfl
        accepted := hFollows.accepted
        unlimited := hFollows.unlimited
        counted := hCounted }

theorem Ends.not_step {a b aLast b' : Pass σ} {report : SubstitutionReport}
    (h : Ends m subject a aLast report) (hLeft : a.remaining ≠ some 0)
    (hSearch : b.search m subject = a.search m subject) (hStart : b.start = a.start)
    (hNotEmpty : b.notEmpty = a.notEmpty) : ¬Step m subject template b b' := by
  intro hStep
  cases h with
  | copied outcome offsets state out hSearchA hNone hLast _ _ =>
    cases hStep with
    | replaced outcome' offsets' state' count whole out' hSearchB hCount _ _ _ _ =>
      cases hSearchB.symm.trans (hSearch.trans hSearchA)
      rw [hNone.resolve_right hLeft] at hCount
      cases hCount
    | stepped outcome' offsets' state' out' _ _ hAgain hInside _ =>
      rw [hNotEmpty] at hAgain
      rw [hStart] at hInside
      rcases hLast with hFirst | hEnd
      · rw [hFirst] at hAgain
        cases hAgain
      · omega

theorem Step.suffix {p q : Pass σ} (h : Step m subject template p q) :
    p.accepted <:+ q.accepted := by
  cases h with
  | replaced => exact List.suffix_cons _ _
  | stepped => exact List.suffix_refl _

theorem Steps.suffix {p q : Pass σ} (h : Steps m subject template p q) :
    p.accepted <:+ q.accepted := by
  induction h with
  | refl => exact List.suffix_refl _
  | tail _ hLast ih => exact ih.trans hLast.suffix

/-- Once the limit is used up, nothing more is replaced. -/
theorem Steps.accepted_of_spent {p q : Pass σ} (h : Steps m subject template p q)
    (hSpent : p.remaining = some 0) : q.accepted = p.accepted := by
  have hStays : q.remaining = some 0 ∧ q.accepted = p.accepted := by
    refine h.preserves (P := fun r => r.remaining = some 0 ∧ r.accepted = p.accepted) ?_
      ⟨hSpent, rfl⟩
    rintro r r' hStep ⟨hNone, hSame⟩
    cases hStep with
    | replaced outcome offsets state count whole out _ _ hLeft => exact absurd hNone hLeft
    | stepped => exact ⟨hNone, hSame⟩
  exact hStays.2

theorem Counted.length_eq {limit : Nat} {p : Pass σ} (h : p.Counted (some limit))
    (hSpent : p.remaining = some 0) : p.accepted.length = limit := by
  have hRemaining := h.remaining
  have hLimited := h.limited limit rfl
  rw [hSpent, Option.map_some, Option.some.injEq] at hRemaining
  omega

theorem take_reverse_of_suffix {α : Type} {l l' : List α} (h : l <:+ l') :
    l.reverse = l'.reverse.take l.length := by
  obtain ⟨later, rfl⟩ := h
  rw [List.reverse_append, ← List.length_reverse, List.take_left]

theorem Steps.accepted_take {limit : Nat} {p pEnd pLast q qEnd qLast : Pass σ}
    {report report' : SubstitutionReport} (hp : Steps m subject template p pEnd)
    (hpEnds : Ends m subject pEnd pLast report) (hq : Steps m subject template q qEnd)
    (hqEnds : Ends m subject qEnd qLast report') (hFollows : Follows limit p q) :
    qLast.accepted.reverse = pLast.accepted.reverse.take limit := by
  rw [hqEnds.accepted_eq, hpEnds.accepted_eq]
  -- Along the unlimited pass, until the limited one has ended or used up its limit.
  induction hp using Relation.ReflTransGen.head_induction_on generalizing q with
  | refl =>
    obtain rfl | ⟨q', hStep, _⟩ := hq.cases_head
    · rw [hFollows.accepted, List.take_of_length_le]
      rw [List.length_reverse, ← hFollows.accepted]
      exact hFollows.counted.limited limit rfl
    · exact absurd hStep (hpEnds.not_step hFollows.left (hFollows.search m subject)
        hFollows.start hFollows.notEmpty)
  | @head p p' hStep hRest ih =>
    by_cases hSpent : q.remaining = some 0
    · have hSuffix : p.accepted <:+ pEnd.accepted := hStep.suffix.trans (Steps.suffix hRest)
      rw [Steps.accepted_of_spent hq hSpent, ← hFollows.counted.length_eq hSpent,
        hFollows.accepted]
      exact take_reverse_of_suffix hSuffix
    · obtain rfl | ⟨q', hStepQ, hRestQ⟩ := hq.cases_head
      · exact absurd hStep (hqEnds.not_step hSpent (hFollows.search m subject).symm
          hFollows.start.symm hFollows.notEmpty.symm)
      · exact ih hRestQ (hStep.follows hFollows hSpent hStepQ)

end Pass

/-- A substitution that gives a report is a chain of rounds and a last one. -/
theorem substituteInto_ends (hCounts : m.CountsWhole subject) {state : σ} {limit : Option Nat}
    {out : OutputBuffer} {patience : Nat} {report : SubstitutionReport}
    (hOk : (substituteInto m state subject template limit out patience).result = .ok report) :
    ∃ offsets grown q qLast,
      (m.captureCount state).bind MatchOffsets.ofCaptureCount = .ok offsets ∧
      grown.bytes = .empty ∧
      Pass.Steps m subject template (.first state offsets grown limit) q ∧
      Pass.Ends m subject q qLast report ∧
      substituteInto m state subject template limit out patience = .ofRun (qLast, .ok report) := by
  obtain ⟨e, out', _, _, hEnd⟩ | ⟨offsets, grown, hOffsets, hGrow, hEnd⟩ :=
    substituteInto_cases m state subject template limit out patience
  · rw [hEnd] at hOk
    cases hOk
  · obtain ⟨q, hSteps, hStop⟩ := Pass.run_stops hCounts (.first state offsets grown limit) template
      patience (Pass.start_first_le state offsets grown limit subject.size)
    rw [hEnd] at hOk
    have hResult : ((Pass.first state offsets grown limit).run m subject template patience).2 =
        .ok report := hOk
    rw [hResult] at hStop
    refine ⟨offsets, grown, q, _, hOffsets, OutputBuffer.bytes_of_growExact hGrow, hSteps,
      Pass.ends_of_round hStop, ?_⟩
    rw [hEnd, ← hResult]

/-- A substitution that gives a report writes the subject with its matches replaced. -/
theorem bytes_substituteInto_of_ok (hCounts : m.CountsWhole subject) {state : σ}
    {limit : Option Nat} {out : OutputBuffer} {patience : Nat} {report : SubstitutionReport}
    (hOk : (substituteInto m state subject template limit out patience).result = .ok report) :
    (substituteInto m state subject template limit out patience).out.bytes =
      splice subject template 0
        (substituteInto m state subject template limit out patience).accepted subject.size := by
  obtain ⟨offsets, grown, q, qLast, -, hEmpty, hSteps, hEnds, hRun⟩ :=
    substituteInto_ends hCounts hOk
  have hLast : q.Ordered subject.size ∧ q.Written subject template := by
    refine hSteps.preserves (P := fun r => r.Ordered subject.size ∧ r.Written subject template) ?_
      ⟨Pass.ordered_first _ _ _ _ _, Pass.written_first _ _ _ _ _ hEmpty⟩
    rintro r r' hStep ⟨hOrdered, hWritten⟩
    exact ⟨hStep.ordered hCounts hOrdered, hStep.written hOrdered hWritten⟩
  rw [hRun]
  exact hEnds.written hLast.1 hLast.2

/-- A limit keeps the first matches that would be replaced without it, and copies all the rest. The
matcher may answer by its state, which is the same at the start of both runs. -/
theorem substituteInto_limit (hCounts : m.CountsWhole subject) (state : σ) (template : Template)
    (limit : Nat) (out out' : OutputBuffer) (patience patience' : Nat)
    (report report' : SubstitutionReport)
    (hAll : (substituteInto m state subject template none out patience).result = .ok report)
    (hSome : (substituteInto m state subject template (some limit) out' patience').result =
      .ok report') :
    let all := (substituteInto m state subject template none out patience).accepted
    let limited := substituteInto m state subject template (some limit) out' patience'
    limited.accepted = all.take limit ∧
      limited.accepted.length = min limit all.length ∧
      report'.replacements = min (min limit all.length) maxReplacements ∧
      limited.out.bytes = splice subject template 0 (all.take limit) subject.size ∧
      (∀ a ∈ all.take limit, a.span.Within subject.size) ∧
      (all.take limit).IsChain Accepted.Precedes := by
  intro all limited
  obtain ⟨offsets, grown, p, pLast, hOffsets, _, hSteps, hEnds, hRun⟩ :=
    substituteInto_ends hCounts hAll
  obtain ⟨offsets', grown', q, qLast, hOffsets', hEmpty, hSteps', hEnds', hRun'⟩ :=
    substituteInto_ends hCounts hSome
  obtain rfl := Except.ok.inj (hOffsets'.symm.trans hOffsets)
  have hFirst : Pass.Follows limit (.first state offsets' grown none)
      (.first state offsets' grown' (some limit)) := {
    state := rfl
    offsets := rfl
    start := rfl
    notEmpty := rfl
    accepted := rfl
    unlimited := rfl
    counted := Pass.counted_first _ _ _ _ }
  have hTake : limited.accepted = all.take limit := by
    have hPasses := Pass.Steps.accepted_take hSteps hEnds hSteps' hEnds' hFirst
    change (substituteInto m state subject template (some limit) out' patience').accepted =
      (substituteInto m state subject template none out patience).accepted.take limit
    rw [hRun, hRun']
    exact hPasses
  have hLast : q.Ordered subject.size ∧ q.Written subject template ∧ q.Counted (some limit) := by
    refine Pass.Steps.preserves (P := fun r => r.Ordered subject.size ∧ r.Written subject template ∧
      r.Counted (some limit)) ?_ hSteps' ?_
    · rintro r r' hStep ⟨hOrdered, hWritten, hCounted⟩
      exact ⟨hStep.ordered hCounts hOrdered, hStep.written hOrdered hWritten,
        hStep.counted hCounted⟩
    · exact ⟨Pass.ordered_first _ _ _ _ _, Pass.written_first _ _ _ _ _ hEmpty,
        Pass.counted_first _ _ _ _⟩
  obtain ⟨hOrdered, hWritten, hCounted⟩ := hLast
  have hLength : limited.accepted.length = min limit all.length := by
    rw [hTake, List.length_take]
  have hOut : limited.out = qLast.out := congrArg Substitution.out hRun'
  have hReversed : limited.accepted = qLast.accepted.reverse :=
    congrArg Substitution.accepted hRun'
  rw [← hTake, ← hLength, hOut, hReversed, List.length_reverse]
  refine ⟨rfl, rfl, hEnds'.replacements hCounted, hEnds'.written hOrdered hWritten, ?_, ?_⟩
  · intro a ha
    rw [List.mem_reverse, hEnds'.accepted_eq] at ha
    exact hOrdered.within a ha
  · rw [hEnds'.accepted_eq]
    exact List.isChain_reverse.mpr hOrdered.chain

theorem substituteInto_limit_runs :
    let run := fun limit => substituteInto (Matcher.runsOf 98) () "abbc".toUTF8
      (Template.parse "[$0]".toUTF8) limit {} 0
    (Matcher.runsOf 98).CountsWhole "abbc".toUTF8 ∧
      (run none).result = .ok { replacements := 4 } ∧
      (run (some 3)).result = .ok { replacements := 3 } ∧
      (run (some 3)).accepted = (run none).accepted.take 3 ∧
      (run (some 3)).out.bytes = splice "abbc".toUTF8 (Template.parse "[$0]".toUTF8) 0
        ((run none).accepted.take 3) 4 := by
  intro run
  have hCounts := (Matcher.runsOf_wellBehaved 98 "abbc".toUTF8).countsWhole
  have hAll : (run none).result = .ok { replacements := 4 } :=
    result_of_within 9 (by decide +kernel) 0
  have hSome : (run (some 3)).result = .ok { replacements := 3 } :=
    result_of_within 9 (by decide +kernel) 0
  obtain ⟨hTake, _, _, hBytes, _⟩ := substituteInto_limit hCounts () _ 3 {} {} 0 0 _ _ hAll hSome
  exact ⟨hCounts, hAll, hSome, hTake, hBytes⟩

end PerlPattern
