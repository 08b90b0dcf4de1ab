import PerlPattern.Proofs.LimitedRuns
import PerlPattern.Proofs.Reservation
import PerlPattern.Proofs.Rows

/-! # The literal NULL as replacement

A match that is replaced by nothing takes its bytes away. What a pass has
written and what it has taken away add up to what it has gone through, so the
output is the subject itself exactly if every match replaced was empty. By that
the host function decides between `NULL` and the subject.
-/

namespace PerlPattern

variable {σ : Type} {m : Matcher σ} {subject : ByteArray} {template : Template}

theorem Span.width_eq_zero_iff (s : Span) : s.width = 0 ↔ s.isEmpty = true := by
  simp [width, isEmpty, Nat.sub_eq_zero_iff_le]

/-- The bytes that matches take up. -/
def Accepted.total (l : List Accepted) : Nat := (l.map (·.span.width)).sum

@[simp] theorem Accepted.total_cons (a : Accepted) (l : List Accepted) :
    total (a :: l) = a.span.width + total l := rfl

@[simp] theorem Accepted.total_reverse (l : List Accepted) : total l.reverse = total l := by
  simp [total]

theorem Accepted.total_eq_zero_iff (l : List Accepted) :
    total l = 0 ↔ ∀ a ∈ l, a.span.isEmpty = true := by
  simp [total, List.sum_eq_zero_iff_forall_eq_nat, Span.width_eq_zero_iff]

theorem Template.expandInto_of_nil (hNothing : template.tokens = []) (b : OutputBuffer)
    (offsets : MatchOffsets) (count : Nat) :
    template.expandInto b subject offsets count = b := by
  simp [expandInto, hNothing]

namespace Pass

/-- What is written and what is taken away make up the subject before the current offset. -/
structure Removes (subject : ByteArray) (p : Pass σ) : Prop where
  size : p.out.size + Accepted.total p.accepted = p.start
  same : Accepted.total p.accepted = 0 → p.out.bytes = subject.extract 0 p.start

theorem removes_first (state : σ) (offsets : MatchOffsets) {out : OutputBuffer}
    (limit : Option Nat) (subject : ByteArray) (hEmpty : out.bytes = .empty) :
    (first state offsets out limit).Removes subject where
  size := by simp [first, OutputBuffer.size, hEmpty, Accepted.total]
  same := by simp [first, hEmpty]

theorem Step.removes (hNothing : template.tokens = []) (hCounts : m.CountsWhole subject)
    {p q : Pass σ} (h : Step m subject template p q) (hStart : p.start ≤ subject.size)
    (hRemoves : p.Removes subject) : q.Removes subject := by
  obtain ⟨hSize, hSame⟩ := hRemoves
  cases h with
  | replaced outcome offsets state count whole out hSearch hCount hLeft hChecked hGrow hInside =>
    have hOrder := hChecked.start_le
    have hWithin := (whole_within hCounts hStart hSearch hCount hChecked).1
    have hBytes := OutputBuffer.bytes_of_growFor hGrow
    have hOut := OutputBuffer.size_of_bytes_eq hBytes
    constructor
    · simp only [Template.expandInto_of_nil hNothing, OutputBuffer.size_extend,
        ByteArray.size_extract, Accepted.total_cons, Span.width]
      omega
    · intro hEmpty
      simp only [Accepted.total_cons, Nat.add_eq_zero_iff, Span.width] at hEmpty
      have hStop : whole.stop = whole.start := by omega
      simp only [Template.expandInto_of_nil hNothing, OutputBuffer.bytes_extend, hBytes,
        hSame hEmpty.2, hStop]
      exact (ByteArray.extract_eq_extract_append_extract _ (Nat.zero_le _) hOrder).symm
  | stepped outcome offsets state out hSearch hNone hNotEmpty hInside hGrow =>
    have hWidth := stepWidth_le m state hInside
    have hBytes := OutputBuffer.bytes_of_growFor hGrow
    have hOut := OutputBuffer.size_of_bytes_eq hBytes
    constructor
    · simp only [OutputBuffer.size_extend, ByteArray.size_extract]
      omega
    · intro hEmpty
      simp only [OutputBuffer.bytes_extend, hBytes, hSame hEmpty]
      exact (ByteArray.extract_eq_extract_append_extract _ (Nat.zero_le _)
        (Nat.le_add_right _ _)).symm

theorem Ends.removes {p q : Pass σ} {report : SubstitutionReport}
    (h : Ends m subject p q report) (hRemoves : p.Removes subject) :
    q.out.size + Accepted.total q.accepted = subject.size ∧
      (Accepted.total q.accepted = 0 → q.out.bytes = subject) := by
  obtain ⟨hSize, hSame⟩ := hRemoves
  cases h with
  | copied outcome offsets state out hSearch hNone hLast hInside hGrow =>
    have hBytes := OutputBuffer.bytes_of_growExact hGrow
    have hOut := OutputBuffer.size_of_bytes_eq hBytes
    constructor
    · simp only [OutputBuffer.size_extend, ByteArray.size_extract]
      omega
    · intro hEmpty
      simp only [OutputBuffer.bytes_extend, hBytes, hSame hEmpty]
      rw [← ByteArray.extract_eq_extract_append_extract _ (Nat.zero_le _) hInside,
        ByteArray.extract_zero_size]

end Pass

/-- Where matches are replaced by nothing, the output is the subject exactly if all of them were
empty. -/
theorem substituteInto_removes (hNothing : template.tokens = []) (hCounts : m.CountsWhole subject)
    {state : σ} {limit : Option Nat} {out : OutputBuffer} {patience : Nat}
    {report : SubstitutionReport}
    (hOk : (substituteInto m state subject template limit out patience).result = .ok report) :
    let s := substituteInto m state subject template limit out patience
    report.replacements = min s.accepted.length maxReplacements ∧
      (s.out.bytes = subject ↔ ∀ a ∈ s.accepted, a.span.isEmpty = true) := by
  intro s
  obtain ⟨offsets, grown, q, qLast, -, hEmpty, hSteps, hEnds, hRun⟩ :=
    substituteInto_ends hCounts hOk
  have hLast : q.start ≤ subject.size ∧ q.Removes subject ∧ q.Counted limit := by
    refine hSteps.preserves
      (P := fun r => r.start ≤ subject.size ∧ r.Removes subject ∧ r.Counted limit) ?_
      ⟨Pass.start_first_le _ _ _ _ _, Pass.removes_first _ _ _ _ hEmpty, Pass.counted_first _ _ _ _⟩
    rintro r r' hStep ⟨hStart, hRemoves, hCounted⟩
    exact ⟨(hStep.start_le hCounts hStart).2, hStep.removes hNothing hCounts hStart hRemoves,
      hStep.counted hCounted⟩
  obtain ⟨-, hRemoves, hCounted⟩ := hLast
  obtain ⟨hSize, hSame⟩ := hEnds.removes hRemoves
  have hAccepted : s.accepted = qLast.accepted.reverse := congrArg Substitution.accepted hRun
  have hOut : s.out = qLast.out := congrArg Substitution.out hRun
  rw [← Accepted.total_eq_zero_iff, hAccepted, hOut, List.length_reverse, Accepted.total_reverse]
  refine ⟨hEnds.replacements hCounted, ?_, hSame⟩
  intro hBytes
  have hAll : qLast.out.size = subject.size := congrArg ByteArray.size hBytes
  omega

namespace Host.Replace

variable {args : Arguments} {settings : Settings} {f : Replace}

theorem bytes?_of_nullLiteral {row : Arguments} {index : Nat}
    (h : row.isNullLiteral index = true) : row.bytes? index = none := by
  unfold Arguments.isNullLiteral at h
  unfold Arguments.bytes?
  cases hArgument : row[index]? with
  | none => rfl
  | some argument =>
    rw [hArgument] at h
    cases hValue : argument.value <;> simp_all [Value.isNullLiteral, Value.toBytes?]

theorem answerOf_of_nullReplacement {row : Arguments} (hHandling : f.nullHandling = .modern)
    (hReplacement : row.isNullLiteral 1 = true) (report : SubstitutionReport) (session : Session) :
    let subject := (row.bytes? 2).getD .empty
    (session.output ≠ subject → f.answerOf row (.ok report, session) = .null) ∧
      (session.output = subject → f.answerOf row (.ok report, session) =
        .value { bytes := subject, count := report.replacements }) := by
  intro subject
  unfold answerOf
  constructor
  · intro hOther
    have hData : session.output.data ≠ subject.data := mt ByteArray.ext hOther
    exact if_pos ⟨hHandling, hReplacement, hData⟩
  · intro hSame
    simp [hSame, subject]

/-- Under modern handling, a literal `NULL` as replacement gives `NULL` exactly if a match that is
not empty was replaced, and else the subject, with the number of the empty ones. -/
theorem call_of_nullReplacement (hInit : init args settings = .ok f)
    (hModern : settings.nullHandling = .modern) (rows : List Arguments) {row : Arguments}
    (hReplacement : row.isNullLiteral 1 = true) (hPattern : row.isNullLiteral 0 = false)
    (hSubject : row.isNullLiteral 2 = false) {report : SubstitutionReport}
    (hOk : ((f.afterRows rows).run row).1 = .ok report) :
    let subject := (row.bytes? 2).getD .empty
    let answer := ((f.afterRows rows).call row).1
    ∃ pattern, (f.afterRows rows).session.patternFor (row.bytes? 0) = .ok pattern ∧
      let s := substituteInto pattern.matcher () subject (Template.parse .empty) (limit? row)
        (f.afterRows rows).session.buffer 0
      s.result = .ok report ∧ report.replacements = min s.accepted.length maxReplacements ∧
      (answer = .null ↔ ∃ a ∈ s.accepted, a.span.isEmpty = false) ∧
      ((∀ a ∈ s.accepted, a.span.isEmpty = true) →
        answer = .value { bytes := subject, count := report.replacements }) := by
  intro subject answer
  have hHandling : (f.afterRows rows).nullHandling = .modern :=
    (f.alike_afterRows rows).nullHandling.trans ((session_of_init hInit).2.trans hModern)
  have hRuns : ¬(f.afterRows rows).Skips row := by
    rintro ⟨-, hNull | hNull⟩
    · exact Bool.false_ne_true (hSubject.symm.trans hNull)
    · exact Bool.false_ne_true (hPattern.symm.trans hNull)
  have hAnswer : answer = (f.afterRows rows).answerOf row ((f.afterRows rows).run row) :=
    congrArg Prod.fst (call_of_runs hRuns)
  rw [hAnswer]
  generalize f.afterRows rows = g at hHandling hOk
  have hEmpty : (row.bytes? 1).getD .empty = .empty := by
    rw [bytes?_of_nullLiteral hReplacement]
    rfl
  cases hFound : g.session.patternFor (row.bytes? 0) with
  | error e =>
    rw [run, Session.replace_of_error hFound] at hOk
    cases hOk
  | ok pattern =>
    let s := substituteInto pattern.matcher () subject (Template.parse .empty) (limit? row)
      g.session.buffer 0
    have hRun : g.run row = (s.result, { g.session with buffer := s.out }) := by
      rw [run, hEmpty, Session.replace_of_pattern hFound]
    have hResult : s.result = .ok report := by rwa [hRun] at hOk
    have hNothing : (Template.parse .empty).tokens = [] := by
      simp [Template.parse, Template.tokensFrom, Template.literalToken]
    obtain ⟨hCount, hSame⟩ :=
      substituteInto_removes hNothing (pattern.matcher_countsWhole subject) hResult
    obtain ⟨hNull, hValue⟩ := answerOf_of_nullReplacement hHandling hReplacement report
      { g.session with buffer := s.out }
    rw [hRun, hResult]
    refine ⟨pattern, rfl, hResult, hCount, ?_, fun hAll => hValue (hSame.mpr hAll)⟩
    by_cases hAll : ∀ a ∈ s.accepted, a.span.isEmpty = true
    · rw [hValue (hSame.mpr hAll)]
      simpa using hAll
    · rw [hNull (mt hSame.mp hAll)]
      simpa using hAll

def nullRow (pattern subject : String) : Arguments :=
  [.bytes pattern.toUTF8, .nullLiteral, .bytes subject.toUTF8].map .ofValue

theorem accepted_of_within (rounds : Nat) {row : Arguments} (empty : Bool)
    (h : ((f.session.patternFor (row.bytes? 0)).toOption.bind fun pattern =>
      (substituteWithin rounds pattern.matcher () ((row.bytes? 2).getD .empty)
        (Template.parse .empty) (limit? row) f.session.buffer).map
          fun s => s.accepted.all (·.span.isEmpty)) = some empty)
    {pattern : CompiledPattern} (hFound : f.session.patternFor (row.bytes? 0) = .ok pattern) :
    (substituteInto pattern.matcher () ((row.bytes? 2).getD .empty) (Template.parse .empty)
      (limit? row) f.session.buffer 0).accepted.all (·.span.isEmpty) = empty := by
  rw [hFound] at h
  exact substituteInto_of_within rounds (fun s => s.accepted.all (·.span.isEmpty)) h 0

theorem call_of_nullReplacement_runs :
    let args : Arguments := List.replicate 3 (.ofValue (.null .string))
    let f : Replace := ⟨⟨none, { capacity := 1024000 }, {}⟩, .modern⟩
    init args {} = .ok f ∧ (∀ pattern, (nullRow pattern "abc").isNullLiteral 1 = true ∧
        (nullRow pattern "abc").isNullLiteral 0 = false ∧
        (nullRow pattern "abc").isNullLiteral 2 = false) ∧
      (f.run (nullRow "/b*/" "abc")).1 = .ok { replacements := 4 } ∧
      (f.call (nullRow "/b*/" "abc")).1 = .null ∧
      (f.run (nullRow "/x*/" "abc")).1 = .ok { replacements := 4 } ∧
      (f.call (nullRow "/x*/" "abc")).1 = .value { bytes := "abc".toUTF8, count := 4 } := by
  intro args f
  have hInit : init args {} = .ok f := rfl
  have hDeleted : f.run (nullRow "/b*/" "abc") =
      (.ok { replacements := 4 }, ⟨none, ⟨⟨#[97, 99]⟩, 1024000⟩, {}⟩) :=
    run_of_within 9 (by decide +kernel)
  have hKept : f.run (nullRow "/x*/" "abc") =
      (.ok { replacements := 4 }, ⟨none, ⟨⟨#[97, 98, 99]⟩, 1024000⟩, {}⟩) :=
    run_of_within 9 (by decide +kernel)
  have hDeletes := congrArg Prod.fst hDeleted
  have hKeeps := congrArg Prod.fst hKept
  refine ⟨hInit, fun _ => ⟨rfl, rfl, rfl⟩, hDeletes, ?_, hKeeps, ?_⟩
  · obtain ⟨pattern, hFound, -, -, hNull, -⟩ :=
      call_of_nullReplacement hInit rfl [] rfl rfl rfl hDeletes
    have hSome := accepted_of_within 9 false (by decide +kernel) hFound
    exact hNull.mpr (by simpa using hSome)
  · obtain ⟨pattern, hFound, -, -, -, hValue⟩ :=
      call_of_nullReplacement hInit rfl [] rfl rfl rfl hKeeps
    have hAll := accepted_of_within 9 true (by decide +kernel) hFound
    exact hValue (by simpa using hAll)

end Host.Replace

end PerlPattern
