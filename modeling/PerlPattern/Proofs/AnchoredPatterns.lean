import PerlPattern.Proofs.GlobalMatches

/-! # Anchored patterns

A search of an anchored pattern finds a match at its own offset or none at all.
So the matches replaced stand side by side, from the start of the subject on; a
gap is left by an empty match alone, of the one unit that is stepped over
before the search is made again. A first search that finds nothing ends a pass.
-/

namespace PerlPattern

variable {pattern : CompiledPattern} {subject : ByteArray} {template : Template}

namespace CompiledPattern

/-- The unit at an offset: a whole character, judged by its first byte, for UTF-8 patterns and for
the backtracking engine, and one byte for all others. -/
def unitAt (pattern : CompiledPattern) (subject : ByteArray) (pos : Nat) : Nat :=
  if pattern.modifiers.has .utf8 = true ∨ pattern.engine.kind = .backtracking then
    Utf8.charWidthAt subject pos
  else 1

theorem advance_eq_unitAt (pattern : CompiledPattern) {pos : Nat} (h : pos < subject.size) :
    pattern.advance subject pos = pattern.unitAt subject pos := by
  unfold advance unitAt Engine.advance
  cases hText : pattern.modifiers.has .utf8 with
  | true => simp
  | false =>
    cases hKind : pattern.engine.kind with
    | linear => simp [Matcher.byteAdvance, h]
    | backtracking => simp

theorem unitAt_pos {pos : Nat} (h : pos < subject.size) : 0 < pattern.unitAt subject pos := by
  rw [← pattern.advance_eq_unitAt h]
  exact (pattern.advance_bounds h).1

theorem requiresStart_modeOf (hAnchored : pattern.modifiers.has .anchored = true)
    (mode : SearchMode) : (pattern.modeOf mode).requiresStart = true := by
  simp [SearchMode.requiresStart, modeOf, hAnchored]

/-- A match of an anchored pattern starts where it was searched. -/
theorem start_of_exec (hAnchored : pattern.modifiers.has .anchored = true) {start count : Nat}
    {mode : SearchMode} {offsets after : MatchOffsets} {outcome : Outcome} {state : Unit}
    {whole : Span}
    (hExec : pattern.matcher.exec subject start mode offsets () = (.ok outcome, after, state))
    (hCount : outcome.matchCount? after = some count) (hWhole : after.group 0 = some whole) :
    whole.start = start := by
  obtain ⟨-, hAnswers⟩ := answers_of_exec hExec
  cases hAnswers with
  | nothing => cases hCount
  | recorded _ _ _ whole' captures hSearch hAllows _ hHolds _ =>
    have hRecorded := hHolds 0 (MatchOffsets.lt_groupCapacity_of_group hWhole)
    obtain rfl : whole = whole' := Option.some.inj (hWhole.symm.trans hRecorded)
    exact hAllows.1 (requiresStart_modeOf hAnchored mode)

end CompiledPattern

/-- One match stands next to another: it starts where that one ends, or one unit behind it if that
one is empty and not at the end. It is not the same empty match again. -/
structure Accepted.Adjoins (pattern : CompiledPattern) (subject : ByteArray) (a b : Accepted) :
    Prop where
  place : b.span.start = a.span.stop ∨
    a.span.start = a.span.stop ∧ a.span.stop < subject.size ∧
      b.span.start = a.span.stop + pattern.unitAt subject a.span.stop
  fresh : a.span.start = a.span.stop → b.span ≠ a.span

/-- A first search that finds nothing: it might have found an empty match as well. -/
def SearchCall.FindsNothing (call : SearchCall) : Prop :=
  call.mode.notEmptyAtStart = false ∧ call.answer = .ok .noMatch

namespace Pass

/-- Where a pass goes on after a match, and whether the next one must not be empty. -/
inductive GoesOnAfter (pattern : CompiledPattern) (subject : ByteArray) (whole : Span) :
    Nat → Bool → Prop
  | behind (hSome : whole.start < whole.stop) : GoesOnAfter pattern subject whole whole.stop false
  | retry (hEmpty : whole.start = whole.stop) : GoesOnAfter pattern subject whole whole.stop true
  | stepped (hEmpty : whole.start = whole.stop) (hInside : whole.stop < subject.size) :
      GoesOnAfter pattern subject whole (whole.stop + pattern.unitAt subject whole.stop) false

/-- The matches replaced stand side by side, and the pass goes on next to the last one. -/
structure Tiled (pattern : CompiledPattern) (subject : ByteArray) (p : Pass (Logged Unit)) :
    Prop where
  chain : p.accepted.IsChain fun b a => a.Adjoins pattern subject b
  first : ∀ a ∈ p.accepted.getLast?, a.span.start = 0
  untouched : p.accepted = [] → p.start = 0 ∧ p.notEmpty = false
  last : ∀ a ∈ p.accepted.head?, GoesOnAfter pattern subject a.span p.start p.notEmpty

variable {p q : Pass (Logged Unit)}

theorem goesOnAfter_isEmpty {whole : Span} (hOrder : whole.start ≤ whole.stop) :
    GoesOnAfter pattern subject whole whole.stop whole.isEmpty := by
  cases hEmpty : whole.isEmpty with
  | true => exact .retry (Nat.le_antisymm hOrder (of_decide_eq_true hEmpty))
  | false => exact .behind (Nat.lt_of_not_le (of_decide_eq_false hEmpty))

theorem GoesOnAfter.adjoins {a : Accepted} {start : Nat} {notEmpty : Bool}
    (h : GoesOnAfter pattern subject a.span start notEmpty) {b : Accepted}
    (hHere : b.span.start = start)
    (hFresh : ¬(notEmpty = true ∧ b.span.isEmpty = true ∧ b.span.start = start)) :
    a.Adjoins pattern subject b := by
  cases h with
  | behind hSome =>
    refine ⟨.inl hHere, ?_⟩
    intro hEmpty
    omega
  | retry hEmpty =>
    refine ⟨.inl hHere, ?_⟩
    rintro - hSame
    refine hFresh ⟨rfl, ?_, hHere⟩
    rw [hSame]
    exact decide_eq_true (Nat.le_of_eq hEmpty.symm)
  | stepped hEmpty hInside =>
    refine ⟨.inr ⟨hEmpty, hInside, hHere⟩, ?_⟩
    rintro - hSame
    have hUnit := pattern.unitAt_pos hInside
    rw [hSame] at hHere
    omega

theorem Step.tiled (hAnchored : pattern.modifiers.has .anchored = true)
    (h : Step pattern.matcher.logged subject template p q) (hStart : p.start ≤ subject.size)
    (hTiled : p.Tiled pattern subject) : q.Tiled pattern subject := by
  cases h with
  | replaced outcome offsets s count whole out hSearch hCount hLeft hChecked hGrow hInside =>
    have hCounts := (pattern.matcher_countsWhole subject).logged
    have hOrder := (whole_within hCounts hStart hSearch hCount hChecked).1
    have hHere : whole.start = p.start := CompiledPattern.start_of_exec hAnchored
      (Matcher.exec_of_logged hSearch).1 hCount hChecked.group
    refine ⟨?_, ?_, nofun, ?_⟩
    · refine List.isChain_cons.mpr ⟨?_, hTiled.chain⟩
      intro a ha
      exact (hTiled.last a ha).adjoins hHere hChecked.fresh
    · intro a ha
      cases hEarlier : p.accepted with
      | nil =>
        rw [hEarlier] at ha
        cases ha
        exact hHere.trans (hTiled.untouched hEarlier).1
      | cons b earlier =>
        rw [hEarlier, List.getLast?_cons_cons, ← hEarlier] at ha
        exact hTiled.first a ha
    · rintro a ⟨⟩
      exact goesOnAfter_isEmpty hOrder
  | stepped outcome offsets s out hSearch hNone hNotEmpty hInside hGrow =>
    refine ⟨hTiled.chain, hTiled.first, ?_, ?_⟩
    · intro hNothing
      cases hNotEmpty.symm.trans (hTiled.untouched hNothing).2
    · intro a ha
      have hLast := hTiled.last a ha
      dsimp only
      rw [stepWidth_eq_advance s hInside, pattern.advance_eq_unitAt hInside]
      generalize p.start = start, p.notEmpty = notEmpty at hLast hNotEmpty hInside
      cases hLast with
      | behind | stepped => cases hNotEmpty
      | retry hEmpty => exact .stepped hEmpty hInside

theorem tiled_first (offsets : MatchOffsets) (out : OutputBuffer) (limit : Option Nat) :
    (first ((), []) offsets out limit).Tiled pattern subject where
  chain := .nil
  first := nofun
  untouched := fun _ => ⟨rfl, rfl⟩
  last := nofun

/-- A pass that goes on has found something, or has looked a second time. -/
theorem Step.not_findsNothing {σ : Type} {m : Matcher σ} {p q : Pass (Logged σ)}
    (h : Step m.logged subject template p q) : ¬(p.call m subject).FindsNothing := by
  rintro ⟨hFirst, hAnswer⟩
  cases h with
  | replaced outcome offsets s count whole out hSearch hCount hLeft hChecked hGrow hInside =>
    unfold call at hAnswer
    rw [hSearch] at hAnswer
    cases hAnswer
    cases hCount
  | stepped outcome offsets s out hSearch hNone hNotEmpty hInside hGrow =>
    cases hNotEmpty.symm.trans hFirst

theorem Ends.log_eq {σ : Type} {m : Matcher σ} {p q : Pass (Logged σ)}
    {report : SubstitutionReport} (h : Ends m.logged subject p q report) :
    q.state.2 = p.state.2 ++ [p.call m subject] := by
  rw [← log_search]
  cases h with
  | copied outcome offsets s out hSearch => rw [hSearch]

theorem Ends.copies {σ : Type} {m : Matcher σ} {p q : Pass σ} {report : SubstitutionReport}
    (h : Ends m subject p q report) (hWritten : p.Written subject template) :
    q.out.bytes = splice subject template 0 p.accepted.reverse p.start ++
      subject.extract p.start subject.size := by
  unfold Written at hWritten
  cases h with
  | copied outcome offsets state out hSearch hNone hLast hInside hGrow =>
    rw [OutputBuffer.bytes_extend, OutputBuffer.bytes_of_growExact hGrow, hWritten]

/-- What a pass of an anchored pattern keeps from round to round. -/
structure Laid (pattern : CompiledPattern) (subject : ByteArray) (template : Template)
    (p : Pass (Logged Unit)) : Prop where
  ordered : p.Ordered subject.size
  written : p.Written subject template
  tiled : p.Tiled pattern subject
  calls : ∀ call ∈ p.state.2, ¬call.FindsNothing

theorem Step.laid (hAnchored : pattern.modifiers.has .anchored = true)
    (h : Step pattern.matcher.logged subject template p q)
    (hLaid : p.Laid pattern subject template) : q.Laid pattern subject template where
  ordered := h.ordered (pattern.matcher_countsWhole subject).logged hLaid.ordered
  written := h.written hLaid.ordered hLaid.written
  tiled := h.tiled hAnchored hLaid.ordered.start_le hLaid.tiled
  calls := by
    rw [h.log_eq]
    exact List.forall_mem_append.mpr
      ⟨hLaid.calls, List.forall_mem_singleton.mpr h.not_findsNothing⟩

theorem laid_first (offsets : MatchOffsets) {out : OutputBuffer} (limit : Option Nat)
    (template : Template) (hEmpty : out.bytes = .empty) :
    (first ((), []) offsets out limit).Laid pattern subject template where
  ordered := ordered_first _ _ _ _ _
  written := written_first _ _ _ _ _ hEmpty
  tiled := tiled_first _ _ _
  calls := nofun

end Pass

theorem last_of_append_cons {α : Type} {l before after : List α} {x y : α}
    (hSplit : l ++ [y] = before ++ x :: after) (hEarlier : x ∉ l) : after = [] ∧ x = y := by
  rcases List.eq_nil_or_concat' after with rfl | ⟨more, z, rfl⟩
  · exact ⟨rfl, (List.singleton_inj.mp (List.append_inj' hSplit rfl).2).symm⟩
  · -- Anything behind `x` would put it among the items before the last one.
    rw [← List.cons_append, ← List.append_assoc] at hSplit
    refine absurd ?_ hEarlier
    rw [(List.append_inj' hSplit rfl).1]
    exact List.mem_append_right _ List.mem_cons_self

/-- The matches of an anchored pattern that are replaced stand side by side, the first one at the
start of the subject. Once a first search finds nothing, the rest of the subject is copied. -/
theorem substituteInto_adjoins (hAnchored : pattern.modifiers.has .anchored = true)
    (template : Template) (limit : Option Nat) (out : OutputBuffer) (patience : Nat)
    (report : SubstitutionReport)
    (hOk : (substituteInto pattern.matcher () subject template limit out patience).result =
      .ok report) :
    let run := substituteInto pattern.matcher () subject template limit out patience
    (∀ a ∈ run.accepted.head?, a.span.start = 0) ∧
    run.accepted.IsChain (Accepted.Adjoins pattern subject) ∧
    ∀ before call after,
      substituteCalls pattern.matcher () subject template limit out patience =
        before ++ call :: after →
      call.FindsNothing →
      after = [] ∧ run.out.bytes = splice subject template 0 run.accepted call.start ++
        subject.extract call.start subject.size := by
  intro run
  have hPlain : run = { substituteInto pattern.matcher.logged ((), []) subject template limit out
      patience with state := () } := substituteInto_logged pattern.matcher () [] _ _ _ _ _
  obtain ⟨offsets, grown, q, qLast, -, hEmpty, hSteps, hEnds, hRun⟩ :=
    substituteInto_ends (pattern.matcher_countsWhole subject).logged
      ((congrArg Substitution.result hPlain).symm.trans hOk)
  have hLaid : q.Laid pattern subject template :=
    hSteps.preserves (fun _ _ hStep hBefore => hStep.laid hAnchored hBefore)
      (Pass.laid_first offsets limit template hEmpty)
  have hAccepted : run.accepted = q.accepted.reverse := by
    rw [hPlain, hRun, ← hEnds.accepted_eq]
    rfl
  have hOut : run.out = qLast.out := by
    rw [hPlain, hRun]
    rfl
  have hLog : substituteCalls pattern.matcher () subject template limit out patience =
      q.state.2 ++ [q.call pattern.matcher subject] := by
    rw [← hEnds.log_eq]
    exact congrArg (fun s : Substitution (Logged Unit) => s.state.2) hRun
  rw [hAccepted, hOut, hLog]
  refine ⟨?_, List.isChain_reverse.mpr hLaid.tiled.chain, ?_⟩
  · rw [List.head?_reverse]
    exact hLaid.tiled.first
  · intro before call after hSplit hNothing
    obtain ⟨hNoMore, rfl⟩ :=
      last_of_append_cons hSplit fun hEarlier => hLaid.calls call hEarlier hNothing
    exact ⟨hNoMore, hEnds.copies hLaid.written⟩

theorem substituteInto_adjoins_ahead :
    ∃ pattern, CompiledPattern.ofDelimited "/(?=é)|b/A".toUTF8 default = .ok pattern ∧
      pattern.modifiers.has .anchored = true ∧
      let run :=
        substituteInto pattern.matcher () "ébc".toUTF8 (Template.parse "-".toUTF8) none {} 0
      run.result = .ok { replacements := 2 } ∧
      run.accepted.map (·.span) = [⟨0, 0⟩, ⟨2, 3⟩] ∧
      (∀ a ∈ run.accepted.head?, a.span.start = 0) ∧
      run.accepted.IsChain (Accepted.Adjoins pattern "ébc".toUTF8) ∧
      ∃ before call, call.start = 3 ∧ call.FindsNothing ∧
        substituteCalls pattern.matcher () "ébc".toUTF8 (Template.parse "-".toUTF8) none {} 0 =
          before ++ [call] ∧
        run.out.bytes = splice "ébc".toUTF8 (Template.parse "-".toUTF8) 0 run.accepted 3 ++
          "ébc".toUTF8.extract 3 4 := by
  have hComputed : ((CompiledPattern.ofDelimited "/(?=é)|b/A".toUTF8 default).toOption.map
      fun pattern => (pattern.modifiers.has .anchored,
        (substituteWithin 9 pattern.matcher.logged ((), []) "ébc".toUTF8
          (Template.parse "-".toUTF8) none {}).map fun s =>
            (s.result.toOption, s.accepted.map (·.span), s.state.2.getLast?.any fun call =>
              decide (call.start = 3 ∧ call.mode.notEmptyAtStart = false ∧
                call.answer.toOption = some .noMatch)))) =
      some (true, some (some { replacements := 2 }, [⟨0, 0⟩, ⟨2, 3⟩], true)) := by decide +kernel
  obtain ⟨pattern, hCompiled, hFacts⟩ := Option.map_eq_some_iff.mp hComputed
  obtain ⟨hAnchored, hWithin⟩ := Prod.mk.inj hFacts
  obtain ⟨hReport, hRest⟩ := Prod.mk.inj (substituteInto_of_within 9 _ hWithin 0)
  obtain ⟨hSpans, hLast⟩ := Prod.mk.inj hRest
  obtain ⟨call, hCall, hAnswer⟩ := (Option.any_eq_true _ _).mp hLast
  obtain ⟨hStart, hFirst, hOutcome⟩ := of_decide_eq_true hAnswer
  have hNothing : call.FindsNothing := ⟨hFirst, eq_ok_of_toOption hOutcome⟩
  have hPlain := substituteInto_logged pattern.matcher () [] "ébc".toUTF8
    (Template.parse "-".toUTF8) none {} 0
  have hOk : (substituteInto pattern.matcher () "ébc".toUTF8 (Template.parse "-".toUTF8) none {}
      0).result = .ok { replacements := 2 } := by
    rw [hPlain]
    exact eq_ok_of_toOption hReport
  obtain ⟨before, hCalls⟩ := List.getLast?_eq_some_iff.mp hCall
  obtain ⟨hZero, hChain, hRest⟩ := substituteInto_adjoins hAnchored _ none {} 0 _ hOk
  obtain ⟨-, hBytes⟩ := hRest before call [] hCalls hNothing
  refine ⟨pattern, eq_ok_of_toOption hCompiled, hAnchored, hOk, ?_, hZero, hChain, before, call,
    hStart, hNothing, hCalls, ?_⟩
  · rw [hPlain]
    exact hSpans
  · rw [hStart] at hBytes
    exact hBytes

end PerlPattern
