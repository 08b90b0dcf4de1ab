import PerlPattern.Proofs.LoopSafety

/-! # What follows a limit that is used up

The last match that a limit allows does not end a substitution. It searches the
rest of the subject once more, and a second time after an empty match, before it
copies that rest. A search that fails there takes the replacements with it.
-/

namespace PerlPattern

variable {σ : Type} {m : Matcher σ} {subject : ByteArray} {template : Template}

def SearchCall.Answered (call : SearchCall) : Prop := ∃ outcome, call.answer = .ok outcome

namespace Pass

/-- The searches that led to the matches replaced, and at most one more once the limit is used up:
the one after an empty match that has to find another. -/
structure Searched (before after : List SearchCall) (p : Pass (Logged σ)) : Prop where
  log : p.state.2 = before ++ after
  reported : before.filterMap SearchCall.reported? = p.accepted.reverse
  answered : ∀ call ∈ p.state.2, call.Answered
  later : ∀ call ∈ after, ∀ a ∈ p.accepted.head?, a.span.stop ≤ call.start
  once : after = [] ∨ p.remaining = some 0 ∧ p.notEmpty = false ∧ after.length = 1

theorem searched_first (state : σ) (offsets : MatchOffsets) (out : OutputBuffer)
    (limit : Option Nat) : (first (state, []) offsets out limit).Searched [] [] where
  log := rfl
  reported := rfl
  answered := fun _ hCall => nomatch hCall
  later := fun _ hCall => nomatch hCall
  once := .inl rfl

theorem Step.answered {p q : Pass (Logged σ)} (h : Step m.logged subject template p q) :
    (p.call m subject).Answered := by
  cases h with
  | replaced outcome _ _ _ _ _ hSearch => exact ⟨outcome, congrArg Prod.fst hSearch⟩
  | stepped outcome _ _ _ hSearch => exact ⟨outcome, congrArg Prod.fst hSearch⟩

theorem answered_append {log : List SearchCall} {call : SearchCall}
    (hLog : ∀ c ∈ log, c.Answered) (hCall : call.Answered) :
    ∀ c ∈ log ++ [call], c.Answered := by
  intro c hc
  rcases List.mem_append.mp hc with hBefore | hLast
  · exact hLog c hBefore
  · rw [List.mem_singleton.mp hLast]
    exact hCall

theorem Step.searched {p q : Pass (Logged σ)} {before after : List SearchCall}
    (h : Step m.logged subject template p q) (hOrdered : p.Ordered subject.size)
    (hSearched : p.Searched before after) : ∃ before' after', q.Searched before' after' := by
  have hLog := h.log_eq
  have hAnswered : ∀ call ∈ q.state.2, call.Answered := by
    rw [hLog]
    exact answered_append hSearched.answered h.answered
  have hReported := hSearched.reported
  -- A pass that has made its one more search can only end.
  have hFirst : after = [] := by
    refine hSearched.once.resolve_right ?_
    rintro ⟨hSpent, hFlag, -⟩
    cases h with
    | replaced _ _ _ _ _ _ _ _ hLeft => exact hLeft hSpent
    | stepped _ _ _ _ _ _ hNotEmpty =>
      rw [hNotEmpty] at hFlag
      cases hFlag
  subst hFirst
  have hBefore : p.state.2 = before := hSearched.log.trans (List.append_nil _)
  cases h with
  | replaced outcome offsets state count whole out hSearch hCount hLeft hChecked hGrow hInside =>
    refine ⟨before ++ [p.call m subject], [], ?_⟩
    refine ⟨by rw [hLog, hBefore, List.append_nil], ?_, hAnswered, by simp, .inl rfl⟩
    rw [List.filterMap_append, hReported, List.reverse_cons]
    unfold Pass.call
    rw [hSearch, List.filterMap_cons, SearchCall.reported?_of_matchCount hCount hChecked.group,
      List.filterMap_nil]
  | stepped outcome offsets state out hSearch hNone hNotEmpty hInside hGrow =>
    rcases hNone with hNone | hSpent
    · refine ⟨before ++ [p.call m subject], [], ?_⟩
      refine ⟨by rw [hLog, hBefore, List.append_nil], ?_, hAnswered, by simp, .inl rfl⟩
      rw [List.filterMap_append, hReported]
      unfold Pass.call
      rw [hSearch, List.filterMap_cons, SearchCall.reported?_of_noCount hNone, List.filterMap_nil,
        List.append_nil]
    · refine ⟨before, [p.call m subject], ?_⟩
      refine ⟨by rw [hLog, hBefore], hReported, hAnswered, ?_, .inr ⟨hSpent, rfl, rfl⟩⟩
      intro call hCall a ha
      rw [List.mem_singleton.mp hCall]
      exact hOrdered.last a ha

structure Kept (subject : ByteArray) (template : Template) (limit : Nat)
    (p : Pass (Logged σ)) : Prop where
  ordered : p.Ordered subject.size
  written : p.Written subject template
  counted : p.Counted (some limit)
  searched : ∃ before after, p.Searched before after

theorem kept_first (state : σ) (offsets : MatchOffsets) {out : OutputBuffer} (limit : Nat)
    (subject : ByteArray) (template : Template) (hEmpty : out.bytes = .empty) :
    (first (state, []) offsets out (some limit)).Kept subject template limit where
  ordered := ordered_first _ _ _ _ _
  written := written_first _ _ _ _ _ hEmpty
  counted := counted_first _ _ _ _
  searched := ⟨[], [], searched_first _ _ _ _⟩

theorem Step.kept {limit : Nat} {p q : Pass (Logged σ)} (h : Step m.logged subject template p q)
    (hSlips : ¬(p.call m subject).Slips subject.size) (hKept : p.Kept subject template limit) :
    q.Kept subject template limit where
  ordered := (guarded_of_call hSlips).ordered h hKept.ordered
  written := h.written hKept.ordered hKept.written
  counted := h.counted hKept.counted
  searched := by
    obtain ⟨before, after, hSearched⟩ := hKept.searched
    exact h.searched hKept.ordered hSearched

theorem Steps.kept {limit : Nat} {p q : Pass (Logged σ)}
    (h : Steps m.logged subject template p q)
    (hSlips : ∀ call ∈ q.state.2, ¬call.Slips subject.size)
    (hKept : p.Kept subject template limit) : q.Kept subject template limit := by
  induction h with
  | refl => exact hKept
  | tail _ hLast ih =>
    rw [hLast.log_eq] at hSlips
    refine hLast.kept (hSlips _ (List.mem_append_right _ (List.mem_singleton_self _))) (ih ?_)
    intro call hCall
    exact hSlips call (List.mem_append_left _ hCall)

theorem Counted.spent {limit : Nat} {p : Pass σ} (h : p.Counted (some limit))
    (hLength : p.accepted.length = limit) : p.remaining = some 0 := by
  rw [h.remaining, Option.map_some, hLength, Nat.sub_self]

/-- Once the limit is used up, a pass fails by its search alone, or for want of memory. -/
theorem Fails.of_spent {p : Pass (Logged σ)} {fault : PassFault}
    (h : Fails m.logged subject template p fault) (hSpent : p.remaining = some 0)
    (hStart : p.start ≤ subject.size) : fault = .error .outOfMemory ∨
      ∃ e, (p.call m subject).answer = .error e ∧ fault = .error (.engine e) := by
  cases h with
  | engine e offsets state hSearch => exact .inr ⟨e, congrArg Prod.fst hSearch, rfl⟩
  | rejected _ _ _ _ _ _ hLeft => exact absurd hSpent hLeft
  | memory => exact .inl rfl
  | matchOutside _ _ _ _ _ _ _ hLeft => exact absurd hSpent hLeft
  | startOutside hOutside => exact absurd hStart (Nat.not_le.mpr hOutside)

theorem Ends.answered {p q : Pass (Logged σ)} {report : SubstitutionReport}
    (h : Ends m.logged subject p q report) : (p.call m subject).Answered := by
  cases h with
  | copied outcome _ _ _ hSearch => exact ⟨outcome, congrArg Prod.fst hSearch⟩

end Pass

/-- How a substitution ends that has made all the replacements it may. The searches `after` are those
made once the limit is used up. -/
inductive Substitution.EndsSpent (subject : ByteArray) (template : Template) (limit : Nat)
    (after : List SearchCall) (s : Substitution σ) : Prop
  /-- The replacements are kept, with the rest of the subject behind them. -/
  | kept (report : SubstitutionReport) (hResult : s.result = .ok report)
      (hAnswered : ∀ call ∈ after, call.Answered)
      (hReplacements : report.replacements = min limit maxReplacements)
      (hBytes : s.out.bytes = splice subject template 0 s.accepted subject.size)
  /-- The last search fails, and nothing is kept. -/
  | lost (call : SearchCall) (e : EngineError) (hLast : after.getLast? = some call)
      (hAnswer : call.answer = .error e) (hResult : s.result = .error (.error (.engine e)))
      (hBytes : s.out.bytes = .empty)

theorem Pass.Kept.endsSpent {limit : Nat} {p q : Pass (Logged σ)} {before after : List SearchCall}
    {result : Except PassFault SubstitutionReport} (hKept : p.Kept subject template limit)
    (hSearched : p.Searched before after) (hLength : p.accepted.length = limit)
    (hStop : p.round m.logged subject template = .stop q result)
    (hMemory : result ≠ .error (.error .outOfMemory)) :
    (Substitution.ofRun (q, result)).EndsSpent subject template limit
      (after ++ [p.call m subject]) := by
  cases result with
  | ok report =>
    have hEnds : Ends m.logged subject p q report := ends_of_round hStop
    have hAfter : ∀ call ∈ after, call.Answered := by
      intro call hCall
      refine hSearched.answered call ?_
      rw [hSearched.log]
      exact List.mem_append_right _ hCall
    refine .kept report rfl (answered_append hAfter hEnds.answered) ?_ ?_
    · rw [hEnds.replacements hKept.counted, hEnds.accepted_eq, hLength]
    · exact hEnds.written hKept.ordered hKept.written
  | error fault =>
    have hFails : Fails m.logged subject template p fault := fails_of_round hStop
    obtain rfl | ⟨e, hAnswer, rfl⟩ :=
      hFails.of_spent (hKept.counted.spent hLength) hKept.ordered.start_le
    · exact absurd rfl hMemory
    · exact .lost (p.call m subject) e List.getLast?_concat hAnswer rfl rfl

theorem Pass.run_spent (state : σ) (offsets : MatchOffsets) {out : OutputBuffer} (limit : Nat)
    (m : Matcher σ) (subject : ByteArray) (template : Template) (patience : Nat)
    (hEmpty : out.bytes = .empty) :
    let run := (first (state, []) offsets out (some limit)).run m.logged subject template patience
    (∀ call ∈ run.1.state.2, ¬call.Slips subject.size) →
    run.2 ≠ .error (.error .outOfMemory) → run.1.accepted.length = limit →
    ∃ before after, run.1.state.2 = before ++ after ∧
      before.filterMap SearchCall.reported? = run.1.accepted.reverse ∧
      (∀ call ∈ before, call.Answered) ∧
      (∀ call ∈ after, ∀ a ∈ run.1.accepted.head?, a.span.stop ≤ call.start) ∧
      (after.length = 1 ∨ after.length = 2) ∧
      (Substitution.ofRun run).EndsSpent subject template limit after := by
  intro run hSlips hMemory hLength
  obtain ⟨q, hSteps, hLog, hEnd⟩ :=
    (first (state, []) offsets out (some limit)).run_ends_logged m subject template patience
  change run.1.state.2 = _ at hLog
  rw [hLog] at hSlips ⊢
  have hSlipsLast := hSlips _ (List.mem_append_right _ (List.mem_singleton_self _))
  have hKept : q.Kept subject template limit :=
    Steps.kept hSteps (fun call hCall => hSlips call (List.mem_append_left _ hCall))
      (kept_first state offsets limit subject template hEmpty)
  rcases hEnd with hStop | ⟨hNext, hFar, _⟩
  · have hSame : run.1.accepted = q.accepted := accepted_of_stop hStop
    obtain ⟨before, after, hSearched⟩ := hKept.searched
    refine ⟨before, after ++ [q.call m subject], ?_, ?_, ?_, ?_, ?_, ?_⟩
    · rw [hSearched.log, List.append_assoc]
    · rw [hSame]
      exact hSearched.reported
    · intro call hCall
      refine hSearched.answered call ?_
      rw [hSearched.log]
      exact List.mem_append_left _ hCall
    · rw [hSame]
      intro call hCall a ha
      rcases List.mem_append.mp hCall with hEarlier | hLast
      · exact hSearched.later call hEarlier a ha
      · rw [List.mem_singleton.mp hLast]
        exact hKept.ordered.last a ha
    · rcases hSearched.once with rfl | ⟨-, -, hOne⟩
      · exact .inl rfl
      · rw [List.length_append, hOne]
        exact .inr rfl
    · exact hKept.endsSpent hSearched (hSame ▸ hLength) hStop hMemory
  · -- The check lets no match through that would lead back, so the run does not stall.
    exact absurd ((guarded_of_call hSlipsLast).rank_lt (step_of_round hNext)) hFar

/-- A substitution that has used up its limit makes one or two more searches, behind the last match
replaced. It keeps its replacements and the rest of the subject if both are answered, and loses
them with the one that fails. -/
theorem substituteInto_spent (m : Matcher σ) (state : σ) (subject : ByteArray)
    (template : Template) (limit : Nat) (out : OutputBuffer) (patience captures : Nat)
    (hCaptures : m.captureCount state = .ok captures)
    (hSlips : ∀ call ∈ substituteCalls m state subject template (some limit) out patience,
      ¬call.Slips subject.size)
    (hMemory : (substituteInto m state subject template (some limit) out patience).result ≠
      .error (.error .outOfMemory))
    (hSpent : (substituteInto m state subject template (some limit) out patience).accepted.length =
      limit) :
    let s := substituteInto m state subject template (some limit) out patience
    ∃ before after,
      substituteCalls m state subject template (some limit) out patience = before ++ after ∧
      before.filterMap SearchCall.reported? = s.accepted ∧
      (∀ call ∈ before, call.Answered) ∧
      (∀ call ∈ after, ∀ a ∈ s.accepted.getLast?, a.span.stop ≤ call.start) ∧
      (after.length = 1 ∨ after.length = 2) ∧
      s.EndsSpent subject template limit after := by
  intro s
  obtain ⟨e, out', hCause, _, hEnd⟩ | ⟨offsets, grown, hRoom, hGrow, hEnd⟩ :=
    substituteInto_cases m.logged (state, []) subject template (some limit) out patience
  · have hOut : e = .outOfMemory := by
      rcases hCause with hOut | hFailed
      · exact hOut
      · cases hCaptures.symm.trans hFailed
    rw [substituteInto_logged m state [], hEnd, hOut] at hMemory
    exact absurd rfl hMemory
  · unfold substituteCalls at hSlips ⊢
    have hLogged := substituteInto_logged m state [] subject template (some limit) out patience
    rw [hLogged, hEnd] at hMemory hSpent
    rw [hEnd] at hSlips
    obtain ⟨before, after, hLog, hReported, hAnswered, hLater, hLength, hEnds⟩ :=
      Pass.run_spent state offsets limit m subject template patience
        (OutputBuffer.bytes_of_growExact hGrow) hSlips hMemory
        ((List.length_reverse).symm.trans hSpent)
    have hAccepted : s.accepted = ((Pass.first (state, []) offsets grown (some limit)).run m.logged
        subject template patience).1.accepted.reverse := by
      change (substituteInto m state subject template (some limit) out patience).accepted = _
      rw [hLogged, hEnd]
      rfl
    refine ⟨before, after, ?_, ?_, hAnswered, ?_, hLength, ?_⟩
    · rw [hEnd]
      exact hLog
    · rw [hAccepted]
      exact hReported
    · rw [hAccepted, List.getLast?_reverse]
      exact hLater
    · change (substituteInto m state subject template (some limit) out patience).EndsSpent subject
        template limit after
      rw [hLogged, hEnd]
      cases hEnds with
      | kept report hResult hAnswered hReplacements hBytes =>
        exact .kept report hResult hAnswered hReplacements hBytes
      | lost call e hLast hAnswer hResult hBytes => exact .lost call e hLast hAnswer hResult hBytes

theorem substituteInto_spent_runs :
    let s := substituteInto (Matcher.runsOf 98) () "abbc".toUTF8 (Template.parse "-".toUTF8) (some 1)
      {} 0
    let calls := substituteCalls (Matcher.runsOf 98) () "abbc".toUTF8 (Template.parse "-".toUTF8)
      (some 1) {} 0
    (∀ call ∈ calls, ¬call.Slips 4) ∧ s.result ≠ .error (.error .outOfMemory) ∧
      s.accepted.length = 1 ∧ ∃ before after, calls = before ++ after ∧
        before.filterMap SearchCall.reported? = s.accepted ∧
        (after.length = 1 ∨ after.length = 2) ∧
        s.EndsSpent "abbc".toUTF8 (Template.parse "-".toUTF8) 1 after := by
  intro s calls
  have hAnswers : calls.all (fun call => call.answer.toOption != some (.matched 0)) = true := by
    refine substituteInto_of_within 3 (m := (Matcher.runsOf 98).logged)
      (fun s => s.state.2.all fun call => call.answer.toOption != some (.matched 0)) ?_ 0
    decide +kernel
  have hSlips : ∀ call ∈ calls, ¬call.Slips 4 := by
    rintro call hCall ⟨hZero, _⟩
    have hAnswer := List.all_eq_true.mp hAnswers call hCall
    rw [hZero] at hAnswer
    cases hAnswer
  have hResult : s.result = .ok { replacements := 1 } := result_of_within 3 (by decide +kernel) 0
  have hMemory : s.result ≠ .error (.error .outOfMemory) := by
    rw [hResult]
    nofun
  have hLength : s.accepted.length = 1 :=
    substituteInto_of_within 3 (fun s => s.accepted.length) (by decide +kernel) 0
  obtain ⟨before, after, hCalls, hReported, _, _, hCount, hEnds⟩ := substituteInto_spent
    (Matcher.runsOf 98) () "abbc".toUTF8 (Template.parse "-".toUTF8) 1 {} 0 0 rfl hSlips hMemory
    hLength
  exact ⟨hSlips, hMemory, hLength, before, after, hCalls, hReported, hCount, hEnds⟩

/-- A search that fails behind the one replacement allowed takes it along, and one that fails where
none is allowed keeps the subject from being copied. -/
theorem substituteInto_spent_loses :
    let run := fun script => substituteInto (Matcher.scripted 0 1) script "aab".toUTF8
      (Template.parse "x".toUTF8)
    let found := (.ok (.matched 1), [⟨0, 1⟩])
    let failed := (.error EngineErrorKind.matchLimit, [])
    (run [found, failed] (some 1) {} 0).accepted.length = 1 ∧
      (run [found, failed] (some 1) {} 0).result =
        .error (.error (.engine EngineErrorKind.matchLimit)) ∧
      (run [found, failed] (some 1) {} 0).out.bytes.data = #[] ∧
      (run [failed] (some 0) {} 0).result =
        .error (.error (.engine EngineErrorKind.matchLimit)) := by
  intro run found failed
  refine ⟨?_, ?_, ?_, ?_⟩
  · exact substituteInto_of_within 3 (·.accepted.length) (by decide +kernel) 0
  · exact substituteInto_of_within 3 (·.result) (by decide +kernel) 0
  · exact substituteInto_of_within 3 (·.out.bytes.data) (by decide +kernel) 0
  · exact substituteInto_of_within 3 (·.result) (by decide +kernel) 0

end PerlPattern
