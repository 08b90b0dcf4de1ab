import PerlPattern.Proofs.Reservation
import PerlPattern.Proofs.Scans

/-! # Sums of lengths in words

The loops add lengths and offsets up in machine words, and nothing is left of a
loop that comes to a sum which no word holds. Here both loops are run with sums
of words. As a sum is the larger the more is added to it, adding up step by step
fails exactly where the whole sum is too large; so a loop in words is the loop
itself, unless it has to add up to more than a word.

In substitution only a replacement can take it that far. What is written and the
subject both have room in the buffer, which is far smaller than a word can count,
but a template may refer to a long match as often as it likes.
-/

namespace PerlPattern

namespace OutputBuffer

/-- The sum of two numbers of bytes, if a word holds it. -/
def wordAdd? (m n : Nat) : Option Nat := if m + n ≤ maxWord then some (m + n) else none

variable {m n k : Nat}

theorem wordAdd?_eq_some_iff : wordAdd? m n = some k ↔ m + n = k ∧ k ≤ maxWord := by
  unfold wordAdd?
  split
  · simp only [Option.some.injEq]
    omega
  · simp only [reduceCtorEq, false_iff]
    omega

theorem wordAdd?_eq_none_iff : wordAdd? m n = none ↔ maxWord < m + n := by
  unfold wordAdd?
  split
  · simp only [reduceCtorEq, false_iff]
    omega
  · simp only [true_iff]
    omega

/-- Numbers added up one by one are checked as if only their sum were. -/
theorem foldlM_wordAdd? {α : Type} (size : α → Nat) (items : List α) (hStart : n ≤ maxWord) :
    items.foldlM (fun sum item => wordAdd? sum (size item)) n =
      wordAdd? n (items.foldr (fun item sum => size item + sum) 0) := by
  induction items generalizing n with
  | nil => exact (wordAdd?_eq_some_iff.mpr ⟨Nat.add_zero n, hStart⟩).symm
  | cons item items ih =>
    rw [List.foldlM_cons, List.foldr_cons]
    cases hHere : wordAdd? n (size item) with
    | none =>
      have hBeyond := wordAdd?_eq_none_iff.mp hHere
      exact (wordAdd?_eq_none_iff.mpr (by omega)).symm
    | some sum =>
      obtain ⟨rfl, hFits⟩ := wordAdd?_eq_some_iff.mp hHere
      refine (ih hFits).trans ?_
      unfold wordAdd?
      rw [Nat.add_assoc]

/-- There is room for what a buffer holds, with a byte to spare, and for twice `len` bytes, but no
more than memory has. -/
structure Roomy (len : Nat) (b : OutputBuffer) : Prop where
  spare : b.size + 1 ≤ b.capacity
  twice : 2 * len + 1 ≤ b.capacity
  granted : b.capacity ≤ maxAllocation + 1

variable {b out : OutputBuffer} {len : Nat}

theorem capacity_bounds_of_growFor {required bound : Nat} (h : b.growFor required bound = .ok out) :
    b.capacity ≤ out.capacity ∧ out.capacity ≤ max b.capacity bound := by
  unfold growFor reserve at h
  split at h
  · split at h
    · cases h
    · cases h
      dsimp only
      omega
  · cases h
    omega

theorem Roomy.growFor {required : Nat} (h : b.Roomy len)
    (hGrow : b.growFor required maxAllocation = .ok out) : out.Roomy len := by
  obtain ⟨hSpare, hTwice, hGranted⟩ := h
  obtain ⟨hLeast, hMost⟩ := capacity_bounds_of_growFor hGrow
  have hSize := (room_of_growFor hGrow).1
  exact ⟨by omega, by omega, by omega⟩

theorem Roomy.fills {pieces : List ByteArray} (h : b.Roomy len) (hFills : b.Fills pieces out) :
    out.Roomy len := by
  induction hFills with
  | nil => exact h
  | cons b piece pieces out hRoom hKept _ ih =>
    exact ih ⟨hKept ▸ hRoom, hKept ▸ h.twice, hKept ▸ h.granted⟩

theorem roomy_start (hCapacity : b.capacity ≤ maxAllocation + 1)
    (hGrow : b.clear.growExact (2 * len) maxAllocation = .ok out) : out.Roomy len := by
  have hReached := capacity_of_growExact hGrow
  have hEmpty : out.size = 0 := (room_of_growExact hGrow).1
  have hGranted : out.capacity ≤ maxAllocation + 1 := by
    unfold growExact reserve at hGrow
    split at hGrow
    · split at hGrow
      · cases hGrow
      · cases hGrow
        dsimp only
        omega
    · cases hGrow
      exact hCapacity
  exact ⟨by omega, by omega, hGranted⟩

end OutputBuffer

open OutputBuffer (maxWord wordAdd? wordAdd?_eq_some_iff wordAdd?_eq_none_iff)

def Template.wordSize? (t : Template) (subject : ByteArray) (offsets : MatchOffsets)
    (count : Nat) : Option Nat :=
  t.tokens.foldlM (fun size token => wordAdd? size (tokenSize subject offsets count token)) 0

theorem Template.wordSize?_eq (t : Template) (subject : ByteArray) (offsets : MatchOffsets)
    (count : Nat) : t.wordSize? subject offsets count =
      wordAdd? 0 (t.expandedSize subject offsets count) :=
  OutputBuffer.foldlM_wordAdd? (tokenSize subject offsets count) t.tokens (Nat.zero_le _)

variable {σ : Type} {m : Matcher σ} {subject : ByteArray} {template : Template}

namespace Pass

def wordRequired? (p : Pass σ) (subject : ByteArray) (template : Template) (offsets : MatchOffsets)
    (count : Nat) (whole : Span) : Option Nat := do
  let before ← wordAdd? p.out.size (whole.start - p.start)
  let expansion ← template.wordSize? subject offsets count
  wordAdd? before expansion

theorem wordRequired?_eq (p : Pass σ) (subject : ByteArray) (template : Template)
    (offsets : MatchOffsets) (count : Nat) (whole : Span) :
    p.wordRequired? subject template offsets count whole =
      wordAdd? 0 (p.required subject template offsets count whole) := by
  unfold wordRequired? required
  rw [Template.wordSize?_eq]
  cases hBefore : wordAdd? p.out.size (whole.start - p.start) with
  | none =>
    have := wordAdd?_eq_none_iff.mp hBefore
    exact (wordAdd?_eq_none_iff.mpr (by omega)).symm
  | some before =>
    obtain ⟨rfl, -⟩ := wordAdd?_eq_some_iff.mp hBefore
    cases hExpansion : wordAdd? 0 (template.expandedSize subject offsets count) with
    | none =>
      have := wordAdd?_eq_none_iff.mp hExpansion
      exact (wordAdd?_eq_none_iff.mpr (by omega)).symm
    | some expansion =>
      obtain ⟨rfl, -⟩ := wordAdd?_eq_some_iff.mp hExpansion
      simp [wordAdd?]

/-- `Pass.replace`, once the length that it asks room for is added up. -/
def wordReplace? (p : Pass σ) (subject : ByteArray) (template : Template) (count : Nat) :
    Option (Round σ) :=
  match checkedMatch p.offsets count p.start subject.size p.notEmpty with
  | .error e => some (p.fail (.engine e))
  | .ok whole => do
    let _ ← p.wordRequired? subject template p.offsets count whole
    some (p.replace subject template count)

def wordCopy? (p : Pass σ) (m : Matcher σ) (subject : ByteArray) : Option (Round σ) :=
  if p.notEmpty ∧ p.start < subject.size then do
    let _ ← wordAdd? p.out.size (stepWidth m subject p.start p.state)
    let _ ← wordAdd? p.start (stepWidth m subject p.start p.state)
    some (p.copy m subject)
  else do
    let _ ← wordAdd? p.out.size (subject.size - p.start)
    some (p.copy m subject)

/-- A round in words: none if it comes to a sum that no word holds. -/
def wordRound? (p : Pass σ) (m : Matcher σ) (subject : ByteArray) (template : Template) :
    Option (Round σ) :=
  match p.search m subject with
  | (.error e, offsets, state) => some ({ p with offsets, state }.fail (.engine e))
  | (.ok outcome, offsets, state) =>
    let p := { p with offsets, state, report := warned p.report outcome }
    match outcome.matchCount? offsets with
    | some count =>
      if p.remaining = some 0 then p.wordCopy? m subject else p.wordReplace? subject template count
    | none => p.wordCopy? m subject

/-- A run in words, which goes no further than the first sum that no word holds. -/
def wordRun? (p : Pass σ) (m : Matcher σ) (subject : ByteArray) (template : Template)
    (patience : Nat) : Option (Pass σ × Except PassFault SubstitutionReport) :=
  match p.wordRound? m subject template with
  | none => none
  | some (.stop q result) => some (q, result)
  | some (.next q) =>
    if q.rank subject.size < p.rank subject.size then q.wordRun? m subject template patience
    else
      match patience with
      | 0 => some (q, .error .stalled)
      | patience + 1 => q.wordRun? m subject template patience
termination_by (patience, p.rank subject.size)

/-- A match is to be replaced, and no word holds the length of the output with the replacement. -/
inductive Overflows (m : Matcher σ) (subject : ByteArray) (template : Template) (p : Pass σ) : Prop
  | replacing (outcome : Outcome) (offsets : MatchOffsets) (state : σ) (count : Nat) (whole : Span)
      (hSearch : p.search m subject = (.ok outcome, offsets, state))
      (hCount : outcome.matchCount? offsets = some count) (hLeft : p.remaining ≠ some 0)
      (hChecked : Checked offsets count p.start subject.size p.notEmpty whole)
      (hBeyond : maxWord < p.required subject template offsets count whole)

theorem wordReplace?_cases {p : Pass σ} {outcome : Outcome} {offsets : MatchOffsets} {state : σ}
    {count : Nat} (hSearch : p.search m subject = (.ok outcome, offsets, state))
    (hCount : outcome.matchCount? offsets = some count) (hLeft : p.remaining ≠ some 0) :
    let q := { p with offsets, state, report := warned p.report outcome }
    q.wordReplace? subject template count = some (q.replace subject template count) ∨
      q.wordReplace? subject template count = none ∧ p.Overflows m subject template := by
  intro q
  unfold wordReplace?
  cases hMatch : checkedMatch offsets count p.start subject.size p.notEmpty with
  | error e =>
    left
    unfold replace
    rw [hMatch]
  | ok whole =>
    dsimp only
    rw [wordRequired?_eq]
    cases hSum : wordAdd? 0 (q.required subject template offsets count whole) with
    | some required => exact .inl rfl
    | none =>
      refine .inr ⟨rfl, .replacing outcome offsets state count whole hSearch hCount hLeft
        (checkedMatch_eq_ok_iff.mp hMatch) ?_⟩
      have hBeyond := wordAdd?_eq_none_iff.mp hSum
      rwa [Nat.zero_add] at hBeyond

theorem wordCopy?_eq {p : Pass σ} (hRoomy : p.out.Roomy subject.size) :
    p.wordCopy? m subject = some (p.copy m subject) := by
  obtain ⟨hSpare, hTwice, hGranted⟩ := hRoomy
  have hWord : 2 * (maxAllocation + 1) ≤ maxWord := by decide
  unfold wordCopy?
  split
  · rename_i hRetry
    have hWidth := stepWidth_le m p.state hRetry.2
    rw [wordAdd?_eq_some_iff.mpr ⟨rfl, by omega⟩, wordAdd?_eq_some_iff.mpr ⟨rfl, by omega⟩]
    rfl
  · rw [wordAdd?_eq_some_iff.mpr ⟨rfl, by omega⟩]
    rfl

theorem wordRound?_cases {p : Pass σ} (hRoomy : p.out.Roomy subject.size) (m : Matcher σ)
    (template : Template) :
    p.wordRound? m subject template = some (p.round m subject template) ∨
      p.wordRound? m subject template = none ∧ p.Overflows m subject template := by
  unfold wordRound?
  split
  · rename_i e offsets state hSearch
    unfold search at hSearch
    unfold round
    rw [hSearch]
    exact .inl rfl
  · rename_i outcome offsets state hSearch
    dsimp only
    split
    · rename_i count hCount
      split
      · rename_i hSpent
        rw [round_of_uncounted hSearch (.inr hSpent)]
        exact .inl (wordCopy?_eq hRoomy)
      · rename_i hLeft
        rw [round_of_counted hSearch hCount hLeft]
        exact wordReplace?_cases hSearch hCount hLeft
    · rename_i hCount
      rw [round_of_uncounted hSearch (.inl hCount)]
      exact .inl (wordCopy?_eq hRoomy)

theorem Step.roomy {p q : Pass σ} (h : Step m subject template p q)
    (hRoomy : p.out.Roomy subject.size) : q.out.Roomy subject.size := by
  cases h with
  | replaced outcome offsets state count whole grown hSearch hCount hLeft hChecked hGrow =>
    exact (hRoomy.growFor hGrow).fills (fills_replace hGrow)
  | stepped outcome offsets state grown hSearch hNone hNotEmpty hInside hGrow =>
    obtain ⟨hSize, hRoom⟩ := OutputBuffer.room_of_growFor hGrow
    exact (hRoomy.growFor hGrow).fills (OutputBuffer.fills_extract hSize hRoom (by omega))

theorem wordRun?_of_overflow {p : Pass σ} (h : p.wordRound? m subject template = none)
    (patience : Nat) : p.wordRun? m subject template patience = none := by
  rw [wordRun?, h]

/-- A run in words is the run, unless a replacement on the way is longer than a word can count. -/
theorem wordRun?_cases {p : Pass σ} (hRoomy : p.out.Roomy subject.size) (m : Matcher σ)
    (template : Template) (patience : Nat) :
    p.wordRun? m subject template patience = some (p.run m subject template patience) ∨
      p.wordRun? m subject template patience = none ∧
        ∃ q ∈ p.passes m subject template patience, q.Overflows m subject template := by
  fun_induction passes p m subject template patience with
  | case1 p patience q result hRound =>
    obtain hSame | ⟨hNone, hOver⟩ := wordRound?_cases hRoomy m template
    · rw [wordRun?, hSame, hRound, run_of_stop hRound]
      exact .inl rfl
    · exact .inr ⟨wordRun?_of_overflow hNone _, p, List.mem_singleton_self p, hOver⟩
  | case2 p patience q hRound hNearer ih =>
    obtain hSame | ⟨hNone, hOver⟩ := wordRound?_cases hRoomy m template
    · rw [wordRun?, run_of_nearer hRound hNearer]
      simp only [hSame, hRound, if_pos hNearer, List.mem_cons, exists_eq_or_imp]
      exact (ih ((step_of_round hRound).roomy hRoomy)).imp_right (And.imp_right .inr)
    · exact .inr ⟨wordRun?_of_overflow hNone _, p, List.mem_cons_self, hOver⟩
  | case3 p q hRound hFar =>
    obtain hSame | ⟨hNone, hOver⟩ := wordRound?_cases hRoomy m template
    · rw [wordRun?, hSame, hRound, run_of_far_zero hRound hFar]
      exact .inl (if_neg hFar)
    · exact .inr ⟨wordRun?_of_overflow hNone _, p, List.mem_singleton_self p, hOver⟩
  | case4 p q hRound hFar patience ih =>
    obtain hSame | ⟨hNone, hOver⟩ := wordRound?_cases hRoomy m template
    · rw [wordRun?, run_of_far_succ hRound hFar]
      simp only [hSame, hRound, if_neg hFar, List.mem_cons, exists_eq_or_imp]
      exact (ih ((step_of_round hRound).roomy hRoomy)).imp_right (And.imp_right .inr)
    · exact .inr ⟨wordRun?_of_overflow hNone _, p, List.mem_cons_self, hOver⟩

end Pass

def substituteWords? (m : Matcher σ) (state : σ) (subject : ByteArray) (template : Template)
    (limit : Option Nat) (out : OutputBuffer) (patience : Nat) : Option (Substitution σ) :=
  match out.clear.growExact (2 * subject.size) maxAllocation with
  | .error e => some { result := .error (.error e), out := out.clear, state }
  | .ok grown =>
    match (m.captureCount state).bind MatchOffsets.ofCaptureCount with
    | .error e => some { result := .error (.error e), out := grown, state }
    | .ok offsets =>
      ((Pass.first state offsets grown limit).wordRun? m subject template patience).map .ofRun

theorem substituteWords?_cases (m : Matcher σ) (state : σ) (subject : ByteArray)
    (template : Template) (limit : Option Nat) {out : OutputBuffer}
    (hCapacity : out.capacity ≤ maxAllocation + 1) (patience : Nat) :
    substituteWords? m state subject template limit out patience =
        some (substituteInto m state subject template limit out patience) ∨
      substituteWords? m state subject template limit out patience = none ∧
        ∃ p ∈ substitutePasses m state subject template limit out patience,
          p.Overflows m subject template := by
  unfold substituteWords? substitutePasses
  cases hGrow : out.clear.growExact (2 * subject.size) maxAllocation with
  | error e =>
    left
    unfold substituteInto
    dsimp only
    rw [hGrow]
  | ok grown =>
    cases hOffsets : (m.captureCount state).bind MatchOffsets.ofCaptureCount with
    | error e =>
      left
      unfold substituteInto
      dsimp only
      rw [hGrow, hOffsets]
    | ok offsets =>
      rw [substituteInto_of_first hGrow hOffsets]
      dsimp only
      obtain hSame | ⟨hNone, hOver⟩ :=
        Pass.wordRun?_cases (p := .first state offsets grown limit)
          (OutputBuffer.roomy_start hCapacity hGrow) m template patience
      · rw [hSame]
        exact .inl rfl
      · rw [hNone]
        exact .inr ⟨rfl, hOver⟩

/-- The search finds no match after an empty one, and no word holds the offset after the unit that is
stepped over then. -/
def SearchCall.Overflows (call : SearchCall) (len : Nat) : Prop :=
  call.answer = .ok .noMatch ∧ call.mode.notEmptyAtStart = true ∧ call.start < len ∧
    maxWord < call.start + max 1 call.width

theorem Scan.log_prefix_find (p : Scan (Logged σ)) (m : Matcher σ) (subject : ByteArray) :
    p.state.2 <+: (p.find m.logged subject).2.2 := by
  obtain ⟨q, hSteps, -, hState⟩ := p.find_ends m.logged subject
  have hBefore : p.state.2 <+: q.state.2 := by
    refine hSteps.preserves (P := fun r => p.state.2 <+: r.state.2) ?_ (List.prefix_refl _)
    intro r r' hStep hHere
    rw [hStep.log_eq]
    exact hHere.trans (List.prefix_append _ _)
  rw [hState, q.log_search m subject]
  exact hBefore.trans (List.prefix_append _ _)

namespace Occurrence

def wordFindFrom? (m : Matcher σ) (subject : ByteArray) (left start : Nat) (notEmpty : Bool)
    (offsets : MatchOffsets) (state : σ) : Option (Result (Option Occurrence) × σ) :=
  match m.exec subject start { notEmptyAtStart := notEmpty } offsets state with
  | (.error e, _, state) => some (.error (.engine e), state)
  | (.ok outcome, offsets, state) =>
    match outcome.matchCount? offsets with
    | none =>
      match notEmpty with
      | true =>
        if start < subject.size then do
          let next ← wordAdd? start (max 1 (m.advance subject start state))
          wordFindFrom? m subject left next false offsets state
        else some (.ok none, state)
      | false => some (.ok none, state)
    | some matchCount =>
      match wholeWithin? offsets start subject.size with
      | none => some (.error (.engine EngineErrorKind.internal), state)
      | some whole =>
        match left with
        | 0 => some (.ok (some { offsets, matchCount }), state)
        | left + 1 => wordFindFrom? m subject left whole.stop whole.isEmpty offsets state
termination_by (left, notEmpty.toNat)

theorem wordFindFrom?_cases (m : Matcher σ) (subject : ByteArray) (left start : Nat)
    (notEmpty : Bool) (offsets : MatchOffsets) (s : Logged σ) :
    wordFindFrom? m subject left start notEmpty offsets s.1 =
        some (findFrom m subject left start notEmpty offsets s.1) ∨
      wordFindFrom? m subject left start notEmpty offsets s.1 = none ∧
        ∃ call ∈ (findFrom m.logged subject left start notEmpty offsets s).2.2,
          call.Overflows subject.size := by
  fun_induction findFrom m.logged subject left start notEmpty offsets s with
  | case1 left start notEmpty offsets s e after s' hExec =>
    rw [findFrom, wordFindFrom?, (Matcher.exec_of_logged hExec).1]
    exact .inl rfl
  | case2 left start offsets s outcome after s' hNone hInside hExec ih =>
    obtain ⟨hPlain, hLog⟩ := Matcher.exec_of_logged hExec
    rw [findFrom, wordFindFrom?, hPlain]
    simp only [hNone, if_pos hInside]
    cases hNext : wordAdd? start (max 1 (m.advance subject start s'.1)) with
    | none =>
      have hOver : SearchCall.Overflows ⟨start, { notEmptyAtStart := true }, .ok outcome, after,
          m.advance subject start s'.1⟩ subject.size :=
        ⟨congrArg Except.ok (Outcome.matchCount?_eq_none_iff.mp hNone), rfl, hInside,
          wordAdd?_eq_none_iff.mp hNext⟩
      refine .inr ⟨rfl, _, ?_, hOver⟩
      -- The search is logged before the next one is made.
      refine (Scan.log_prefix_find ⟨s', after, left, _, false⟩ m subject).subset ?_
      rw [hLog]
      exact List.mem_append_right _ (List.mem_singleton_self _)
    | some next =>
      obtain ⟨rfl, -⟩ := wordAdd?_eq_some_iff.mp hNext
      exact ih
  | case3 left start offsets s outcome after s' hNone hOutside hExec =>
    rw [findFrom, wordFindFrom?, (Matcher.exec_of_logged hExec).1]
    simp [hNone, hOutside]
  | case4 left start offsets s outcome after s' hNone hExec =>
    rw [findFrom, wordFindFrom?, (Matcher.exec_of_logged hExec).1]
    simp [hNone]
  | case5 left start notEmpty offsets s outcome after s' hExec count hCount hWhole =>
    rw [findFrom, wordFindFrom?, (Matcher.exec_of_logged hExec).1]
    simp [hCount, hWhole]
  | case6 start notEmpty offsets s outcome after s' hExec count hCount whole hWhole =>
    rw [findFrom, wordFindFrom?, (Matcher.exec_of_logged hExec).1]
    simp [hCount, hWhole]
  | case7 start notEmpty offsets s outcome after s' hExec count hCount whole hWhole left ih =>
    rw [findFrom, wordFindFrom?, (Matcher.exec_of_logged hExec).1]
    simp only [hCount, hWhole]
    exact ih

end Occurrence

def findOccurrenceWords? (m : Matcher σ) (state : σ) (subject : ByteArray) (occurrence : Nat) :
    Option (Result (Option Occurrence) × σ) :=
  match (m.captureCount state).bind MatchOffsets.ofCaptureCount with
  | .error e => some (.error e, state)
  | .ok offsets => Occurrence.wordFindFrom? m subject (occurrence - 1) 0 false offsets state

theorem findOccurrenceWords?_cases (m : Matcher σ) (state : σ) (subject : ByteArray)
    (occurrence : Nat) :
    findOccurrenceWords? m state subject occurrence =
        some (findOccurrence m state subject occurrence) ∨
      findOccurrenceWords? m state subject occurrence = none ∧
        ∃ call ∈ occurrenceCalls m state subject occurrence, call.Overflows subject.size := by
  unfold findOccurrenceWords? findOccurrence occurrenceCalls
  cases hOffsets : (m.captureCount state).bind MatchOffsets.ofCaptureCount with
  | error e => exact .inl rfl
  | ok offsets =>
    have hLogged : (m.logged.captureCount (state, [])).bind MatchOffsets.ofCaptureCount =
        .ok offsets := hOffsets
    rw [findOccurrence_of_first hLogged]
    exact Occurrence.wordFindFrom?_cases m subject _ 0 false offsets (state, [])

end PerlPattern
