import PerlPattern.Proofs.CaptureAndPosition
import PerlPattern.Proofs.LimitedRuns
import PerlPattern.Proofs.SessionFunctions

/-! # Whether there is a match

The test for a match leaves room for one group, the position of a match for all
of them, and replacement goes through its own loop. All three go by the first
search of the subject, and whether it finds something does not depend on the
room for groups.
-/

namespace PerlPattern

def Outcome.isMatch (outcome : Outcome) : Bool := outcome ≠ .noMatch

theorem Outcome.isMatch_of_matchCount {outcome : Outcome} {offsets : MatchOffsets} {count : Nat}
    (h : outcome.matchCount? offsets = some count) : outcome.isMatch = true :=
  decide_eq_true (ne_noMatch h)

namespace Engine

theorem isMatch_record (offsets offsets' : MatchOffsets) (start : Nat) (mode : SearchMode)
    (groups : Groups) : (record offsets start mode groups).1.isMatch =
      (record offsets' start mode groups).1.isMatch := by
  unfold record
  split
  · split
    · rfl
    · dsimp only
      split <;> split <;> rfl
  · rfl

/-- The room for groups decides what is recorded, and not whether there is a match. -/
theorem isMatch_exec (e : Engine) (subject : ByteArray) (start : Nat) (mode : SearchMode)
    (offsets offsets' : MatchOffsets) :
    (e.exec subject start mode offsets).1.map Outcome.isMatch =
      (e.exec subject start mode offsets').1.map Outcome.isMatch := by
  obtain hBeyond | hStart := Nat.lt_or_ge subject.size start
  · rw [e.exec_of_beyond hBeyond, e.exec_of_beyond hBeyond]
  · obtain ⟨error, -, hExec⟩ | ⟨found, -, hExec⟩ := e.exec_cases mode hStart
    · rw [hExec, hExec]
    · rw [hExec, hExec]
      exact congrArg Except.ok (isMatch_record _ _ start mode _)

/-- No span that is reported ends behind the subject. -/
def EndsInside (e : Engine) (subject : ByteArray) : Prop :=
  ∀ start ≤ subject.size, ∀ span ∈ e.reported subject start, span.stop ≤ subject.size

instance (e : Engine) (subject : ByteArray) : Decidable (e.EndsInside subject) :=
  inferInstanceAs (Decidable (∀ start ≤ subject.size, ∀ _ ∈ e.reported subject start, _))

end Engine

namespace CompiledPattern

variable {p : CompiledPattern} {subject : ByteArray}

/-- Does the first search of a subject find a match? -/
def found (p : CompiledPattern) (subject : ByteArray) : Except EngineError Bool :=
  (p.engine.exec subject 0 (p.modeOf {}) ⟨#[]⟩).1.map Outcome.isMatch

theorem found_of_exec {offsets after : MatchOffsets} {answer : Except EngineError Outcome}
    {state : Unit} (h : p.matcher.exec subject 0 {} offsets () = (answer, after, state)) :
    p.found subject = answer.map Outcome.isMatch := by
  have hAnswer : (p.engine.exec subject 0 (p.modeOf {}) offsets).1 = answer := congrArg Prod.fst h
  rw [← hAnswer]
  exact p.engine.isMatch_exec subject 0 (p.modeOf {}) _ _

end CompiledPattern

namespace Query

variable {p : CompiledPattern} {subject : ByteArray}

theorem isMatch_eq (hFilled : subject.size ≠ 0) :
    (isMatch p.matcher () subject).1 = (p.found subject).mapError PatternError.engine := by
  unfold isMatch
  rw [if_neg hFilled]
  cases hRoom : MatchOffsets.ofGroupCapacity 1 with
  | error e => cases hRoom
  | ok offsets =>
    dsimp only
    rcases hExec : p.matcher.exec subject 0 {} offsets () with ⟨answer, after, state⟩
    rw [CompiledPattern.found_of_exec hExec]
    cases answer with
    | error e => rfl
    | ok outcome => rfl

theorem isSome_position {offsets : MatchOffsets} (hFilled : subject.size ≠ 0)
    (hRoom : p.newOffsets = .ok offsets) (hEngine : p.engine.EndsInside subject) :
    (position p.matcher () subject (.index 0) 1).1.map Option.isSome =
      (isMatch p.matcher () subject).1 := by
  rw [isMatch_eq hFilled]
  have hFind : findOccurrence p.matcher () subject 1 =
      (Scan.first () offsets 1).find p.matcher subject := by
    unfold findOccurrence
    rw [show (p.matcher.captureCount ()).bind MatchOffsets.ofCaptureCount = .ok offsets from hRoom]
    rfl
  have hCapacity : 0 < offsets.groupCapacity := by
    rw [MatchOffsets.groupCapacity_of_ofGroupCapacity hRoom]
    omega
  unfold position
  dsimp only
  rw [locate_eq rfl, hFind]
  obtain ⟨q, hSteps, hEnds, -⟩ := (Scan.first () offsets 1).find_ends p.matcher subject
  -- The first match is looked for, and no empty one has been found before it.
  have hFirst : Scan.first () offsets 1 = q := by
    obtain hSame | ⟨next, hStep, -⟩ := hSteps.cases_head
    · exact hSame
    · cases hStep with
      | passed _ _ _ _ _ _ _ _ _ hLeft => cases hLeft
      | stepped _ _ _ hNotEmpty => cases hNotEmpty
  subst hFirst
  generalize (Scan.first () offsets 1).find p.matcher subject = answer at hEnds ⊢
  obtain ⟨result, state⟩ := answer
  cases hEnds with
  | engine e after state hSearch =>
    rw [CompiledPattern.found_of_exec hSearch]
    rfl
  | misplaced outcome after state count hSearch hCount hWhole =>
    obtain ⟨hSame, hAnswers⟩ := CompiledPattern.answers_of_exec hSearch
    obtain ⟨whole, hGroup, hReported, -⟩ := hAnswers.whole hCount (hSame ▸ hCapacity)
    have hInside : Occurrence.wholeWithin? after 0 subject.size = some whole :=
      Occurrence.wholeWithin?_eq_some_iff.mpr
        ⟨hGroup, Nat.zero_le _, hEngine 0 (Nat.zero_le _) whole hReported⟩
    cases hInside.symm.trans hWhole
  | found outcome after state count whole hSearch hCount hWhole hLeft =>
    obtain ⟨hSame, hAnswers⟩ := CompiledPattern.answers_of_exec hSearch
    obtain ⟨whole', hGroup, -, hCounted⟩ := hAnswers.whole hCount (hSame ▸ hCapacity)
    rw [CompiledPattern.found_of_exec hSearch]
    simp [Except.map, Except.mapError, Occurrence.group, hCounted, hGroup,
      Outcome.isMatch_of_matchCount hCount]
  | noMore after state hSearch hLast =>
    rw [CompiledPattern.found_of_exec hSearch]
    rfl

end Query

/-- A substitution without limit that gives a report replaces something exactly if there is a
match. -/
theorem isMatch_of_substituted {p : CompiledPattern} {subject : ByteArray} {template : Template}
    {out : OutputBuffer} {patience : Nat} {report : SubstitutionReport}
    (hFilled : subject.size ≠ 0)
    (hOk : (substituteInto p.matcher () subject template none out patience).result = .ok report) :
    (Query.isMatch p.matcher () subject).1 = .ok (decide (0 < report.replacements)) := by
  obtain ⟨offsets, grown, q, qLast, -, -, hSteps, hEnds, -⟩ :=
    substituteInto_ends (p.matcher_countsWhole subject) hOk
  have hCounted : q.Counted none :=
    hSteps.preserves (fun _ _ hStep hBefore => hStep.counted hBefore) (Pass.counted_first _ _ _ _)
  rw [Query.isMatch_eq hFilled, hEnds.replacements hCounted, hEnds.accepted_eq]
  rcases hSearch : (Pass.first () offsets grown none).search p.matcher subject with
    ⟨answer, after, state⟩
  rw [CompiledPattern.found_of_exec hSearch]
  -- Either the first search ends the pass, having found nothing, or it leads to a replacement.
  obtain hSame | ⟨next, hStep, hRest⟩ := hSteps.cases_head
  · subst hSame
    cases hEnds with
    | copied outcome _ _ _ hSearch' hNone =>
      cases hSearch.symm.trans hSearch'
      cases Outcome.matchCount?_eq_none_iff.mp (hNone.resolve_right nofun)
      rfl
  · cases hStep with
    | replaced outcome _ _ count whole _ hSearch' hCount =>
      cases hSearch.symm.trans hSearch'
      have hLength := (Pass.Steps.suffix hRest).length_le
      rw [List.length_cons] at hLength
      have hSome : 0 < min q.accepted.length maxReplacements :=
        Nat.lt_min.mpr ⟨Nat.lt_of_lt_of_le (Nat.succ_pos _) hLength, by decide⟩
      rw [decide_eq_true hSome]
      exact congrArg Except.ok (Outcome.isMatch_of_matchCount hCount)
    | stepped _ _ _ _ _ _ hNotEmpty => cases hNotEmpty

namespace Host

variable {settings : Settings} {P S : ByteArray} {row : Arguments}

theorem Rlike.call_eq (f : Rlike) (hSubject : row.bytes? 1 = some S) (hFilled : S.size ≠ 0) :
    call f row = match f.session.patternFor (row.bytes? 0) with
      | .error e => compileFailed name e
      | .ok pattern =>
        match (Query.isMatch pattern.matcher () S).1 with
        | .ok found => .value found.toNat
        | .error e => .failed name e.message := by
  have hText : (row.bytes? 1).filter (·.size ≠ 0) = some S := by
    rw [hSubject, Option.filter_some, if_pos (decide_eq_true hFilled)]
  unfold call
  split
  · rename_i hNone
    cases hText.symm.trans hNone
  · rename_i subject hSome
    cases hText.symm.trans hSome
    cases f.session.patternFor (row.bytes? 0) <;> rfl

theorem isNullLiteral_of_toBytes? {v : Value} {b : ByteArray} (h : v.toBytes? = some b) :
    v.isNullLiteral = false := by
  cases v with
  | nullLiteral => cases h
  | null | bytes | int | real => rfl

section Pair

variable {pattern subject : Argument}

theorem not_null_pair (hPattern : pattern.value.toBytes? = some P)
    (hSubject : subject.value.toBytes? = some S) (nullHandling : NullHandling) :
    ¬(nullHandling = .modern ∧ (Arguments.isNullLiteral [pattern, subject] 0 = true ∨
      Arguments.isNullLiteral [pattern, subject] 1 = true ∨
      Arguments.isNullLiteral [pattern, subject] 2 = true)) := by
  rintro ⟨-, hNull | hNull | hNull⟩
  · exact Bool.false_ne_true ((isNullLiteral_of_toBytes? hPattern).symm.trans hNull)
  · exact Bool.false_ne_true ((isNullLiteral_of_toBytes? hSubject).symm.trans hNull)
  · cases hNull

theorem Position.call_eq (f : GroupFunction) (hPattern : pattern.value.toBytes? = some P)
    (hSubject : subject.value.toBytes? = some S) :
    call f [pattern, subject] = match f.session.patternFor (some P) with
      | .error e => compileFailed name e
      | .ok p =>
        match (Query.position p.matcher () S (.index 0) 1).1 with
        | .ok found => .ofOption (found.map (min · maxPosition))
        | .error e => .failed name e.message := by
  have hRaw : Arguments.bytes? [pattern, subject] 0 = some P := hPattern
  have hText : Arguments.bytes? [pattern, subject] 1 = some S := hSubject
  have hGroup : groupRef? ([pattern, subject] : Arguments)[2]? = some (.index 0) := rfl
  have hOccurrence : ((Arguments.int? [pattern, subject] 3).map Int.toNat).getD 1 = 1 := rfl
  unfold call groupQuery
  rw [if_neg (not_null_pair hPattern hSubject f.nullHandling), hRaw, hText, hGroup, hOccurrence]
  cases f.session.patternFor (some P) with
  | error e => rfl
  | ok p =>
    dsimp only
    cases (Query.position p.matcher () S (.index 0) 1).1 <;> rfl

end Pair

theorem Replace.call_of_report {f : Replace} {row : Arguments} {out : Replaced}
    (h : (f.call row).1 = .value out) : ∃ p report, f.session.patternFor (row.bytes? 0) = .ok p ∧
      (substituteInto p.matcher () ((row.bytes? 2).getD .empty)
        (Template.parse ((row.bytes? 1).getD .empty)) (limit? row) f.session.buffer 0).result =
          .ok report ∧ out.count = report.replacements := by
  have hRuns : ¬f.Skips row := by
    intro hSkips
    rw [call_of_skips hSkips] at h
    cases h
  rw [call_of_runs hRuns] at h
  cases hPattern : f.session.patternFor (row.bytes? 0) with
  | error e =>
    rw [run, Session.replace_of_error hPattern] at h
    cases h
  | ok p =>
    rw [run, Session.replace_of_pattern hPattern] at h
    unfold answerOf at h
    dsimp only at h
    split at h
    · rename_i report hReport
      split at h
      · cases h
      · cases h
        exact ⟨p, report, rfl, hReport, rfl⟩
    · cases h

theorem Replace.value_or_error (f : Replace) {row : Arguments}
    (hLiteral : ∀ index ∈ [0, 1, 2], row.isNullLiteral index = false) :
    (∃ out, (f.call row).1 = .value out) ∨ ∃ message, (f.call row).1 = .error message := by
  have hRuns : ¬f.Skips row := by
    rintro ⟨-, hNull | hNull⟩
    · exact Bool.false_ne_true ((hLiteral 2 (by decide)).symm.trans hNull)
    · exact Bool.false_ne_true ((hLiteral 0 (by decide)).symm.trans hNull)
  rw [call_of_runs hRuns]
  unfold answerOf
  split
  · rw [if_neg]
    · exact .inl ⟨_, rfl⟩
    · rintro ⟨-, hNull, -⟩
      exact Bool.false_ne_true ((hLiteral 1 (by decide)).symm.trans hNull)
  · exact .inr ⟨_, rfl⟩

/-- Where a replacement without limit gives a value, the test for a match tells whether anything was
replaced. -/
theorem Rlike.call_of_replaced {f : Rlike} {g : Replace} {row row' : Arguments} {out : Replaced}
    (hSame : f.session.patternFor (row.bytes? 0) = g.session.patternFor (row'.bytes? 0))
    (hSubject : row.bytes? 1 = some S) (hSubject' : row'.bytes? 2 = some S) (hFilled : S.size ≠ 0)
    (hLimit : Replace.limit? row' = none) (h : (g.call row').1 = .value out) :
    call f row = .value (decide (0 < out.count)).toNat := by
  obtain ⟨p, report, hFound, hReport, hCount⟩ := Replace.call_of_report h
  rw [hLimit, hSubject'] at hReport
  rw [call_eq f hSubject hFilled, hSame, hFound]
  dsimp only
  rw [isMatch_of_substituted hFilled hReport, hCount]

theorem Rlike.call_of_position {f : Rlike} {g : GroupFunction} {pattern subject : Argument}
    (hPattern : pattern.value.toBytes? = some P) (hSubject : subject.value.toBytes? = some S)
    (hFilled : S.size ≠ 0) (hSame : f.session.patternFor (some P) = g.session.patternFor (some P))
    (hEngine : ∀ p, f.session.patternFor (some P) = .ok p →
      p.engine.EndsInside S ∧ ∃ offsets, p.newOffsets = .ok offsets) :
    (call f [pattern, subject] = .value 1 ↔
        ∃ pos, Position.call g [pattern, subject] = .value pos) ∧
      (call f [pattern, subject] = .value 0 ↔ Position.call g [pattern, subject] = .null) ∧
      ((∃ message, call f [pattern, subject] = .error message) ↔
        ∃ message, Position.call g [pattern, subject] = .error message) := by
  have hRaw : Arguments.bytes? [pattern, subject] 0 = some P := hPattern
  have hText : Arguments.bytes? [pattern, subject] 1 = some S := hSubject
  rw [call_eq f hText hFilled, Position.call_eq g hPattern hSubject, hRaw, ← hSame]
  cases hFound : f.session.patternFor (some P) with
  | error e => simp [compileFailed, Answer.failed]
  | ok p =>
    obtain ⟨hInside, offsets, hRoom⟩ := hEngine p hFound
    dsimp only
    rw [← Query.isSome_position hFilled hRoom hInside]
    cases (Query.position p.matcher () S (.index 0) 1).1 with
    | error e => simp [Except.map, Answer.failed]
    | ok located =>
      cases located with
      | none => simp [Except.map, Answer.ofOption]
      | some pos => simp [Except.map, Answer.ofOption]

/-- The test for a match, the position of one and replacement agree on every row, whatever rows the
replacement has answered before. The engine is assumed to report no span that ends behind the
subject, and memory to have room for the groups of the pattern. -/
theorem functions_agree {first : Argument} {restOfRlike restOfPosition restOfReplace : Arguments}
    {rlike : Rlike} {position : GroupFunction} {replace : Replace}
    (hRlike : Rlike.init (first :: restOfRlike) settings = .ok rlike)
    (hPosition : Position.init (first :: restOfPosition) settings = .ok position)
    (hReplace : Replace.init (first :: restOfReplace) settings = .ok replace)
    (hConstant : first.isConstant = true → first.value.toBytes? = some P)
    (pattern subject replacement : Argument) (limit : Arguments) {R : ByteArray}
    (hPattern : pattern.value.toBytes? = some P) (hSubject : subject.value.toBytes? = some S)
    (hFilled : S.size ≠ 0) (hReplacement : replacement.value.toBytes? = some R)
    (hLimit : Replace.limit? (pattern :: replacement :: subject :: limit) = none)
    (hEngine : ∀ p, CompiledPattern.ofDelimited P settings.session.limits = .ok p →
      p.engine.EndsInside S ∧ ∃ offsets, p.newOffsets = .ok offsets) (rows : List Arguments) :
    let tested := Rlike.call rlike [pattern, subject]
    let found := Position.call position [pattern, subject]
    let replaced :=
      ((replace.afterRows rows).call (pattern :: replacement :: subject :: limit)).1
    (tested = .value 1 ↔ ∃ pos, found = .value pos) ∧ (tested = .value 0 ↔ found = .null) ∧
      ((∃ message, tested = .error message) ↔ ∃ message, found = .error message) ∧
      ((∃ message, tested = .error message) → ∃ message, replaced = .error message) ∧
      ∀ out, replaced = .value out → (tested = .value 1 ↔ 0 < out.count) := by
  intro tested found replaced
  have hTested : rlike.session.patternFor (some P) =
      CompiledPattern.ofDelimited P settings.session.limits :=
    SessionFunction.patternFor_after (F := .rlike) (SessionFunction.accepts_of_init hRlike)
      hConstant hRlike []
  have hFound : position.session.patternFor (some P) =
      CompiledPattern.ofDelimited P settings.session.limits :=
    SessionFunction.patternFor_after (F := .position) (SessionFunction.accepts_of_init hPosition)
      hConstant hPosition []
  have hReplaced : (replace.afterRows rows).session.patternFor (some P) =
      CompiledPattern.ofDelimited P settings.session.limits :=
    SessionFunction.patternFor_after (F := .replace) (SessionFunction.accepts_of_init hReplace)
      hConstant hReplace rows
  rw [← hTested] at hEngine
  obtain ⟨hValue, hNone, hError⟩ := Rlike.call_of_position hPattern hSubject hFilled
    (hTested.trans hFound.symm) hEngine
  have hOut : ∀ out, replaced = .value out → tested = .value (decide (0 < out.count)).toNat := by
    intro out hOut
    have hRaw : Arguments.bytes? (pattern :: replacement :: subject :: limit) 0 = some P := hPattern
    have hText : Arguments.bytes? (pattern :: replacement :: subject :: limit) 2 = some S := hSubject
    have hRaw' : Arguments.bytes? [pattern, subject] 0 = some P := hPattern
    have hText' : Arguments.bytes? [pattern, subject] 1 = some S := hSubject
    refine Rlike.call_of_replaced ?_ hText' hText hFilled hLimit hOut
    rw [hRaw, hRaw', hTested, hReplaced]
  refine ⟨hValue, hNone, hError, ?_, ?_⟩
  · rintro ⟨message, hMessage⟩
    have hLiteral : ∀ index ∈ [0, 1, 2], Arguments.isNullLiteral
        (pattern :: replacement :: subject :: limit) index = false := by
      simp [Arguments.isNullLiteral, isNullLiteral_of_toBytes? hPattern,
        isNullLiteral_of_toBytes? hReplacement, isNullLiteral_of_toBytes? hSubject]
    obtain ⟨out, hGiven⟩ | hFails := (replace.afterRows rows).value_or_error hLiteral
    · cases hMessage.symm.trans (hOut out hGiven)
    · exact hFails
  · intro out hGiven
    rw [hOut out hGiven]
    simp

theorem functions_agree_texts :
    let column := Argument.ofValue (.null .string)
    let text := fun s : String => Argument.ofValue (.bytes s.toUTF8)
    let session : Session := ⟨none, { capacity := 1024000 }, {}⟩
    let tested := Rlike.call ⟨session⟩ [text "/b/", text "abbc"]
    let found := Position.call ⟨session, .modern⟩ [text "/b/", text "abbc"]
    let replaced := (Replace.call ⟨session, .modern⟩ [text "/b/", text "x", text "abbc"]).1
    Rlike.init [column, column] {} = .ok ⟨session⟩ ∧
      Position.init [column, column] {} = .ok ⟨session, .modern⟩ ∧
      Replace.init [column, column, column] {} = .ok ⟨session, .modern⟩ ∧
      (tested = .value 1 ↔ ∃ pos, found = .value pos) ∧ (tested = .value 0 ↔ found = .null) ∧
      ∀ out, replaced = .value out → (tested = .value 1 ↔ 0 < out.count) := by
  intro column text session tested found replaced
  have hRlike : Rlike.init [column, column] {} = .ok ⟨session⟩ := rfl
  have hPosition : Position.init [column, column] {} = .ok ⟨session, .modern⟩ := rfl
  have hReplace : Replace.init [column, column, column] {} = .ok ⟨session, .modern⟩ := rfl
  have hEngine : ∀ p, CompiledPattern.ofDelimited "/b/".toUTF8 default = .ok p →
      p.engine.EndsInside "abbc".toUTF8 ∧ ∃ offsets, p.newOffsets = .ok offsets := by
    intro p hCompiles
    have hChecked : (CompiledPattern.ofDelimited "/b/".toUTF8 default).toOption.all (fun p =>
        decide (p.engine.EndsInside "abbc".toUTF8) && p.newOffsets.isOk) = true := by
      decide +kernel
    rw [hCompiles] at hChecked
    obtain ⟨hInside, hRoom⟩ := (Bool.and_eq_true _ _).mp hChecked
    refine ⟨of_decide_eq_true hInside, ?_⟩
    cases hOffsets : p.newOffsets with
    | ok offsets => exact ⟨offsets, rfl⟩
    | error e =>
      rw [hOffsets] at hRoom
      cases hRoom
  have hVaries : column.isConstant = true → column.value.toBytes? = some "/b/".toUTF8 := nofun
  obtain ⟨hValue, hNone, -, -, hCount⟩ := functions_agree hRlike hPosition hReplace hVaries
    (text "/b/") (text "abbc") (text "x") [] rfl rfl (by decide) rfl rfl hEngine []
  exact ⟨hRlike, hPosition, hReplace, hValue, hNone, hCount⟩

end Host

end PerlPattern
