import PerlPattern.Occurrence
import PerlPattern.Proofs.Rounds

/-! # The searches that a loop makes

Any matcher can be given a log of the searches asked of it, with the answers it
gave. The log changes nothing else, so what the loops ask of a matcher can be
read off a run against the logged one.
-/

namespace PerlPattern

structure SearchCall where
  start : Nat
  mode : SearchMode
  answer : Except EngineError Outcome
  offsets : MatchOffsets
  /-- The width of the unit at `start`, as the matcher has it after the search. -/
  width : Nat

/-- The match that a search reported, with the count that goes with it: all the groups there is room
for, if there were more. -/
def SearchCall.reported? (call : SearchCall) : Option Accepted :=
  match call.answer, call.offsets.group 0 with
  | .ok (.matched count), some whole => some ⟨whole, call.offsets, count⟩
  | .ok .tooManySubstrings, some whole =>
    some ⟨whole, call.offsets, call.offsets.groupCapacity⟩
  | _, _ => none

theorem SearchCall.reported?_of_matchCount {start : Nat} {mode : SearchMode} {outcome : Outcome}
    {offsets : MatchOffsets} {width count : Nat} {whole : Span}
    (hCount : outcome.matchCount? offsets = some count) (hWhole : offsets.group 0 = some whole) :
    SearchCall.reported? ⟨start, mode, .ok outcome, offsets, width⟩ = some ⟨whole, offsets, count⟩ := by
  cases outcome <;> cases hCount <;> simp [reported?, hWhole]

theorem SearchCall.reported?_of_noCount {start : Nat} {mode : SearchMode} {outcome : Outcome}
    {offsets : MatchOffsets} {width : Nat} (hNone : outcome.matchCount? offsets = none) :
    SearchCall.reported? ⟨start, mode, .ok outcome, offsets, width⟩ = none := by
  cases outcome with
  | noMatch => rfl
  | matched count => cases hNone
  | tooManySubstrings => cases hNone

theorem SearchCall.reported?_eq_some_iff {call : SearchCall} {a : Accepted} :
    call.reported? = some a ↔ ∃ outcome, call.answer = .ok outcome ∧
      outcome.matchCount? call.offsets = some a.count ∧ call.offsets = a.offsets ∧
      a.offsets.group 0 = some a.span := by
  obtain ⟨start, mode, answer, offsets, width⟩ := call
  obtain ⟨span, after, count⟩ := a
  constructor
  · intro h
    unfold reported? at h
    split at h
    · rename_i hAnswer hWhole
      cases h
      exact ⟨_, hAnswer, rfl, rfl, hWhole⟩
    · rename_i hAnswer hWhole
      cases h
      exact ⟨_, hAnswer, rfl, rfl, hWhole⟩
    · cases h
  · rintro ⟨outcome, rfl, hCount, rfl, hWhole⟩
    exact reported?_of_matchCount hCount hWhole

abbrev Logged (σ : Type) := σ × List SearchCall

variable {σ : Type}

/-- A matcher that logs the searches asked of it. -/
def Matcher.logged (m : Matcher σ) : Matcher (Logged σ) where
  captureCount s := m.captureCount s.1
  groupIndex? s name := m.groupIndex? s.1 name
  exec subject start mode offsets s :=
    let (answer, offsets, state) := m.exec subject start mode offsets s.1
    (answer, offsets, state,
      s.2 ++ [⟨start, mode, answer, offsets, m.advance subject start state⟩])
  advance subject pos s := m.advance subject pos s.1

theorem Matcher.logged_exec {m : Matcher σ} {subject : ByteArray} {start : Nat} {mode : SearchMode}
    {offsets after : MatchOffsets} {s : Logged σ} {answer : Except EngineError Outcome} {state : σ}
    (h : m.exec subject start mode offsets s.1 = (answer, after, state)) :
    m.logged.exec subject start mode offsets s =
      (answer, after, state,
        s.2 ++ [⟨start, mode, answer, after, m.advance subject start state⟩]) := by
  simp only [logged, h]

theorem Matcher.exec_of_logged {m : Matcher σ} {subject : ByteArray} {start : Nat}
    {mode : SearchMode} {offsets after : MatchOffsets} {s s' : Logged σ}
    {answer : Except EngineError Outcome}
    (h : m.logged.exec subject start mode offsets s = (answer, after, s')) :
    m.exec subject start mode offsets s.1 = (answer, after, s'.1) ∧
      s'.2 = s.2 ++ [⟨start, mode, answer, after, m.advance subject start s'.1⟩] := by
  cases h
  exact ⟨rfl, rfl⟩

theorem Matcher.CountsWhole.logged {m : Matcher σ} {subject : ByteArray}
    (hCounts : m.CountsWhole subject) : m.logged.CountsWhole subject :=
  fun start mode offsets s hStart => hCounts start mode offsets s.1 hStart

theorem Matcher.Honours.logged {m : Matcher σ} {subject : ByteArray}
    (hHonours : m.Honours subject) : m.logged.Honours subject where
  whole := fun hStart hExec => hHonours.whole hStart (exec_of_logged hExec).1
  advance := fun pos s => hHonours.advance pos s.1

/-- The search that a pass makes next, as it is logged. -/
def Pass.call (p : Pass (Logged σ)) (m : Matcher σ) (subject : ByteArray) : SearchCall :=
  ⟨p.start, { notEmptyAtStart := p.notEmpty }, (p.search m.logged subject).1,
    (p.search m.logged subject).2.1, m.advance subject p.start (p.search m.logged subject).2.2.1⟩

theorem Pass.log_search (p : Pass (Logged σ)) (m : Matcher σ) (subject : ByteArray) :
    (p.search m.logged subject).2.2.2 = p.state.2 ++ [p.call m subject] := rfl

theorem Pass.Step.log_eq {m : Matcher σ} {subject : ByteArray} {template : Template}
    {p q : Pass (Logged σ)} (h : Step m.logged subject template p q) :
    q.state.2 = p.state.2 ++ [p.call m subject] := by
  rw [h.state_eq, log_search]

theorem Pass.log_round (p : Pass (Logged σ)) (m : Matcher σ) (subject : ByteArray)
    (template : Template) : (p.round m.logged subject template).pass.state.2 =
      p.state.2 ++ [p.call m subject] := by
  rw [state_round, log_search]

/-- A logged run logs the searches of its rounds, and last that of the round that stops it or brings
it no nearer to its end. -/
theorem Pass.run_ends_logged (p : Pass (Logged σ)) (m : Matcher σ) (subject : ByteArray)
    (template : Template) (patience : Nat) :
    let run := p.run m.logged subject template patience
    ∃ q, Steps m.logged subject template p q ∧ run.1.state.2 = q.state.2 ++ [q.call m subject] ∧
      (q.round m.logged subject template = .stop run.1 run.2 ∨
        q.round m.logged subject template = .next run.1 ∧
          ¬run.1.rank subject.size < q.rank subject.size ∧ run.2 = .error .stalled) := by
  intro run
  obtain ⟨q, hSteps, hEnd⟩ := p.run_ends m.logged subject template patience
  refine ⟨q, hSteps, ?_, hEnd⟩
  rw [← q.log_round m subject template]
  rcases hEnd with hStop | ⟨hNext, _⟩
  · rw [hStop]
    rfl
  · rw [hNext]
    rfl

/-- What holds of the next search of every pass that a run goes through holds of all its searches. -/
theorem Pass.forall_call_run {m : Matcher σ} {subject : ByteArray} {template : Template}
    {I : Pass (Logged σ) → Prop} {C : SearchCall → Prop}
    (hStep : ∀ p q, Step m.logged subject template p q → I p → I q)
    (hCall : ∀ p, I p → C (p.call m subject)) {p : Pass (Logged σ)} (hFirst : I p)
    (hLog : ∀ call ∈ p.state.2, C call) (patience : Nat) :
    ∀ call ∈ (p.run m.logged subject template patience).1.state.2, C call := by
  obtain ⟨q, hSteps, hEnd, -⟩ := p.run_ends_logged m subject template patience
  have hBoth : I q ∧ ∀ call ∈ q.state.2, C call := by
    refine hSteps.preserves (P := fun r => I r ∧ ∀ call ∈ r.state.2, C call) ?_ ⟨hFirst, hLog⟩
    rintro r r' hOne ⟨hHere, hCalls⟩
    refine ⟨hStep r r' hOne hHere, ?_⟩
    rw [hOne.log_eq]
    exact List.forall_mem_append.mpr ⟨hCalls, List.forall_mem_singleton.mpr (hCall r hHere)⟩
  rw [hEnd]
  exact List.forall_mem_append.mpr ⟨hBoth.2, List.forall_mem_singleton.mpr (hCall q hBoth.1)⟩

theorem Pass.log_of_search {m : Matcher σ} {subject : ByteArray} {p : Pass (Logged σ)}
    {outcome : Outcome} {offsets : MatchOffsets} {s : Logged σ}
    (hSearch : p.search m.logged subject = (.ok outcome, offsets, s)) :
    s.2 = p.state.2 ++ [⟨p.start, { notEmptyAtStart := p.notEmpty }, .ok outcome, offsets,
      m.advance subject p.start s.1⟩] :=
  (Matcher.exec_of_logged hSearch).2

/-- The searches made by a substitution. -/
def substituteCalls (m : Matcher σ) (state : σ) (subject : ByteArray) (template : Template)
    (limit : Option Nat) (out : OutputBuffer) (patience : Nat) : List SearchCall :=
  (substituteInto m.logged (state, []) subject template limit out patience).state.2

def occurrenceCalls (m : Matcher σ) (state : σ) (subject : ByteArray) (occurrence : Nat) :
    List SearchCall :=
  (findOccurrence m.logged (state, []) subject occurrence).2.2

theorem forall_substituteCalls {m : Matcher σ} {state : σ} {subject : ByteArray}
    {template : Template} {limit : Option Nat} {I : Pass (Logged σ) → Prop} {C : SearchCall → Prop}
    (hFirst : ∀ offsets out, (m.captureCount state).bind MatchOffsets.ofCaptureCount = .ok offsets →
      I (.first (state, []) offsets out limit))
    (hStep : ∀ p q, Pass.Step m.logged subject template p q → I p → I q)
    (hCall : ∀ p, I p → C (p.call m subject)) (out : OutputBuffer) (patience : Nat) :
    ∀ call ∈ substituteCalls m state subject template limit out patience, C call := by
  unfold substituteCalls
  obtain ⟨e, out', -, -, hEnd⟩ | ⟨offsets, grown, hOffsets, -, hEnd⟩ :=
    substituteInto_cases m.logged (state, []) subject template limit out patience
  · rw [hEnd]
    exact fun _ hMember => nomatch hMember
  · rw [hEnd]
    exact Pass.forall_call_run hStep hCall (hFirst offsets grown hOffsets)
      (fun _ hMember => nomatch hMember) patience

namespace Pass

def unlogged (p : Pass (Logged σ)) : Pass σ where
  state := p.state.1
  offsets := p.offsets
  out := p.out
  remaining := p.remaining
  start := p.start
  notEmpty := p.notEmpty
  report := p.report
  accepted := p.accepted

end Pass

namespace Round

def unlogged : Round (Logged σ) → Round σ
  | .next p => .next p.unlogged
  | .stop p result => .stop p.unlogged result

end Round

namespace Pass

variable (m : Matcher σ) (subject : ByteArray) (template : Template)

theorem unlogged_replace (p : Pass (Logged σ)) (count : Nat) :
    (p.replace subject template count).unlogged = p.unlogged.replace subject template count := by
  obtain ⟨⟨state, log⟩, offsets, out, remaining, start, notEmpty, report, accepted⟩ := p
  dsimp only [replace, unlogged]
  cases checkedMatch offsets count start subject.size notEmpty with
  | error e => rfl
  | ok whole =>
    dsimp only
    cases out.growFor (out.size + (whole.start - start) +
      template.expandedSize subject offsets count) maxAllocation with
    | error e => rfl
    | ok grown =>
      by_cases hInside : start ≤ whole.start ∧ whole.start ≤ subject.size
      · simp only [if_pos hInside]
        rfl
      · simp only [if_neg hInside]
        rfl

theorem unlogged_copy (p : Pass (Logged σ)) :
    (p.copy m.logged subject).unlogged = p.unlogged.copy m subject := by
  obtain ⟨⟨state, log⟩, offsets, out, remaining, start, notEmpty, report, accepted⟩ := p
  dsimp only [copy, unlogged, Matcher.logged]
  by_cases hRetry : notEmpty = true ∧ start < subject.size
  · simp only [if_pos hRetry]
    cases out.growFor (out.size + max 1 (min (m.advance subject start state)
      (subject.size - start))) maxAllocation <;> rfl
  · simp only [if_neg hRetry]
    by_cases hInside : start ≤ subject.size
    · simp only [if_pos hInside]
      cases out.growExact (out.size + (subject.size - start)) maxAllocation <;> rfl
    · simp only [if_neg hInside]
      rfl

theorem unlogged_round (p : Pass (Logged σ)) :
    (p.round m.logged subject template).unlogged = p.unlogged.round m subject template := by
  rcases hExec : m.exec subject p.start { notEmptyAtStart := p.notEmpty } p.offsets p.state.1 with
    ⟨answer | outcome, after, state⟩
  · have hPlain : m.exec subject p.unlogged.start { notEmptyAtStart := p.unlogged.notEmpty }
        p.unlogged.offsets p.unlogged.state = (.error answer, after, state) := hExec
    rw [round, round, Matcher.logged_exec hExec, hPlain]
    rfl
  · have hPlain : m.exec subject p.unlogged.start { notEmptyAtStart := p.unlogged.notEmpty }
        p.unlogged.offsets p.unlogged.state = (.ok outcome, after, state) := hExec
    rw [round, round, Matcher.logged_exec hExec, hPlain]
    dsimp only
    cases outcome.matchCount? after with
    | none => exact unlogged_copy m subject _
    | some count =>
      by_cases hSpent : p.remaining = some 0
      · exact (congrArg Round.unlogged (if_pos hSpent)).trans
          ((unlogged_copy m subject _).trans (if_pos hSpent).symm)
      · exact (congrArg Round.unlogged (if_neg hSpent)).trans
          ((unlogged_replace subject template _ _).trans (if_neg hSpent).symm)

theorem unlogged_run (p : Pass (Logged σ)) (patience : Nat) :
    p.unlogged.run m subject template patience =
      ((p.run m.logged subject template patience).1.unlogged,
        (p.run m.logged subject template patience).2) := by
  fun_induction run p m.logged subject template patience with
  | case1 p patience q result hRound =>
    have hStop := unlogged_round m subject template p
    rw [hRound] at hStop
    exact run_of_stop hStop.symm patience
  | case2 p patience q hRound hNearer ih =>
    have hNext := unlogged_round m subject template p
    rw [hRound] at hNext
    exact (run_of_nearer hNext.symm hNearer patience).trans ih
  | case3 p q hRound hFar =>
    have hNext := unlogged_round m subject template p
    rw [hRound] at hNext
    exact run_of_far_zero hNext.symm hFar
  | case4 p q hRound hFar patience ih =>
    have hNext := unlogged_round m subject template p
    rw [hRound] at hNext
    exact (run_of_far_succ hNext.symm hFar patience).trans ih

end Pass

/-- A log changes nothing about a substitution. -/
theorem substituteInto_logged (m : Matcher σ) (state : σ) (log : List SearchCall)
    (subject : ByteArray) (template : Template) (limit : Option Nat) (out : OutputBuffer)
    (patience : Nat) :
    substituteInto m state subject template limit out patience =
      let s := substituteInto m.logged (state, log) subject template limit out patience
      { result := s.result, out := s.out, state := s.state.1, accepted := s.accepted } := by
  unfold substituteInto
  dsimp only
  split
  · rfl
  · rename_i out' hGrow
    simp only [Matcher.logged]
    split
    · rfl
    · rename_i offsets hOffsets
      have hRun := Pass.unlogged_run m subject template
        { state := (state, log), offsets, out := out', remaining := limit } patience
      simp only [Pass.unlogged] at hRun
      simp only [hRun, Matcher.logged]
      split <;> rfl

/-- A match that one of the searches reported, whose groups lie within `len` bytes as far as they
count. -/
def Accepted.Backed (calls : List SearchCall) (len : Nat) (a : Accepted) : Prop :=
  (∃ call ∈ calls, call.reported? = some a) ∧
    ∀ g < a.count, ∀ span, a.offsets.group g = some span → span.Within len

theorem Accepted.Backed.append {calls : List SearchCall} {len : Nat} {a : Accepted}
    (h : a.Backed calls len) (more : List SearchCall) : a.Backed (calls ++ more) len := by
  obtain ⟨⟨call, hCall, hReported⟩, hWithin⟩ := h
  exact ⟨⟨call, List.mem_append_left more hCall, hReported⟩, hWithin⟩

theorem Pass.Step.backed {m : Matcher σ} {subject : ByteArray} {template : Template}
    {p q : Pass (Logged σ)} (h : Step m.logged subject template p q)
    (hBacked : ∀ a ∈ p.accepted, a.Backed p.state.2 subject.size) :
    ∀ a ∈ q.accepted, a.Backed q.state.2 subject.size := by
  have hEarlier : ∀ a ∈ p.accepted, a.Backed q.state.2 subject.size := by
    rw [h.log_eq]
    exact fun a ha => (hBacked a ha).append _
  cases h with
  | replaced outcome offsets s count whole out hSearch hCount hLeft hChecked hGrow hInside =>
    refine List.forall_mem_cons.mpr ⟨⟨⟨⟨p.start, { notEmptyAtStart := p.notEmpty }, .ok outcome,
      offsets, m.advance subject p.start s.1⟩, ?_, SearchCall.reported?_of_matchCount hCount hChecked.group⟩, ?_⟩, hEarlier⟩
    · rw [log_of_search hSearch]
      exact List.mem_append_right _ (List.mem_singleton_self _)
    · intro g hCounted span hGroup
      have hFits := MatchOffsets.lt_groupCapacity_of_group hGroup
      exact hChecked.within g (Nat.lt_min.mpr ⟨hCounted, hFits⟩) span hGroup
  | stepped => exact hEarlier

/-- Every match replaced was reported by a search, whatever comes of the substitution. -/
theorem accepted_backed (m : Matcher σ) (state : σ) (subject : ByteArray) (template : Template)
    (limit : Option Nat) (out : OutputBuffer) (patience : Nat) :
    ∀ a ∈ (substituteInto m state subject template limit out patience).accepted,
      a.Backed (substituteCalls m state subject template limit out patience) subject.size := by
  rw [substituteInto_logged m state []]
  unfold substituteCalls
  obtain ⟨e, out', -, -, hEnd⟩ | ⟨offsets, grown, -, -, hEnd⟩ :=
    substituteInto_cases m.logged (state, []) subject template limit out patience
  · rw [hEnd]
    exact fun _ ha => nomatch ha
  · rw [hEnd]
    obtain ⟨q, hSteps, hLog, hLast⟩ := Pass.run_ends_logged (.first (state, []) offsets grown limit)
      m subject template patience
    have hBacked : ∀ a ∈ q.accepted, a.Backed q.state.2 subject.size :=
      hSteps.preserves (fun _ _ hStep hBefore => hStep.backed hBefore) (fun _ ha => nomatch ha)
    intro a ha
    rcases hLast with hStop | ⟨hNext, -, -⟩
    · rw [Substitution.ofRun, List.mem_reverse, Pass.accepted_of_stop hStop] at ha
      rw [Substitution.ofRun, hLog]
      exact (hBacked a ha).append _
    · exact (Pass.step_of_round hNext).backed hBacked a (List.mem_reverse.mp ha)

theorem Occurrence.findFrom_logged (m : Matcher σ) (subject : ByteArray) (left start : Nat)
    (notEmpty : Bool) (offsets : MatchOffsets) (s : Logged σ) :
    findFrom m subject left start notEmpty offsets s.1 =
      ((findFrom m.logged subject left start notEmpty offsets s).1,
        (findFrom m.logged subject left start notEmpty offsets s).2.1) := by
  fun_induction findFrom m.logged subject left start notEmpty offsets s with
  | case1 left start notEmpty offsets s e after s' hExec =>
    rw [findFrom, (Matcher.exec_of_logged hExec).1]
  | case2 left start offsets s outcome after s' hNone hInside hExec ih =>
    rw [findFrom, (Matcher.exec_of_logged hExec).1]
    simp only [hNone, if_pos hInside]
    exact ih
  | case3 left start offsets s outcome after s' hNone hOutside hExec =>
    rw [findFrom, (Matcher.exec_of_logged hExec).1]
    simp only [hNone, if_neg hOutside]
  | case4 left start offsets s outcome after s' hNone hExec =>
    rw [findFrom, (Matcher.exec_of_logged hExec).1]
    simp only [hNone]
  | case5 left start notEmpty offsets s outcome after s' hExec count hCount hWhole =>
    rw [findFrom, (Matcher.exec_of_logged hExec).1]
    simp only [hCount, hWhole]
  | case6 start notEmpty offsets s outcome after s' hExec count hCount whole hWhole =>
    rw [findFrom, (Matcher.exec_of_logged hExec).1]
    simp only [hCount, hWhole]
  | case7 start notEmpty offsets s outcome after s' hExec count hCount whole hWhole left ih =>
    rw [findFrom, (Matcher.exec_of_logged hExec).1]
    simp only [hCount, hWhole]
    exact ih

/-- A log changes nothing about the search for one match. -/
theorem findOccurrence_logged (m : Matcher σ) (state : σ) (log : List SearchCall)
    (subject : ByteArray) (occurrence : Nat) :
    findOccurrence m state subject occurrence =
      ((findOccurrence m.logged (state, log) subject occurrence).1,
        (findOccurrence m.logged (state, log) subject occurrence).2.1) := by
  unfold findOccurrence
  simp only [Matcher.logged]
  cases (m.captureCount state).bind MatchOffsets.ofCaptureCount with
  | error e => rfl
  | ok offsets => exact Occurrence.findFrom_logged m subject _ _ _ offsets (state, log)

end PerlPattern
