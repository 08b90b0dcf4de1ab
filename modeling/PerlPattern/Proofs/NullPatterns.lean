import PerlPattern.Proofs.MatchAgreement
import PerlPattern.Proofs.NullReplacement

/-! # The literal NULL as pattern

Under modern handling, replacement and the functions that ask about a group
answer the literal `NULL` in the place of the pattern by `NULL`, before they
look at anything else. The test for a match does not look for it. To that
function the literal is a missing pattern like any other: it goes by the
constant pattern, if there is one, and fails for want of a pattern if not.
-/

namespace PerlPattern.Host

variable {args row : Arguments} {settings : Settings}

theorem groupQuery_of_nullPattern {α : Type} (hNull : row.isNullLiteral 0 = true)
    (function : String) (session : Session) (ask : GroupQuery → Result (Option α)) :
    groupQuery function session .modern row ask = .null := if_pos ⟨rfl, .inl hNull⟩

theorem SessionFunction.call_of_nullPattern {F : SessionFunction} (hOther : F ≠ .rlike)
    (s : Session) (hNull : row.isNullLiteral 0 = true) :
    (F.call (F.state .modern s) row).1 = .null := by
  cases F with
  | replace => exact congrArg Prod.fst (Replace.call_of_skips ⟨rfl, .inr hNull⟩)
  | capture =>
    change Capture.call ⟨s, .modern⟩ row = .null
    exact groupQuery_of_nullPattern hNull Capture.name s _
  | position =>
    change Position.call ⟨s, .modern⟩ row = .null
    exact groupQuery_of_nullPattern hNull Position.name s _
  | rlike => exact absurd rfl hOther

namespace Rlike

/-- How the test for a match answers a row that has no pattern of its own. -/
inductive AnswersMissing (args : Arguments) (settings : Settings) (row : Arguments) :
    Answer Nat → Prop
  | nothing (hSubject : ∀ subject ∈ row.bytes? 1, subject.size = 0) :
      AnswersMissing args settings row (.value 0)
  | refused (subject : ByteArray) (hSubject : row.bytes? 1 = some subject)
      (hFilled : subject.size ≠ 0) (hNone : args.declared? = none) :
      AnswersMissing args settings row
        (.error "preg_rlike: compile failed: Empty regular expression")
  | tested (subject raw : ByteArray) (pattern : CompiledPattern) (found : Bool)
      (hSubject : row.bytes? 1 = some subject) (hFilled : subject.size ≠ 0)
      (hDeclared : args.declared? = some raw)
      (hCompiles : CompiledPattern.ofDelimited raw settings.session.limits = .ok pattern)
      (hFound : (Query.isMatch pattern.matcher () subject).1 = .ok found) :
      AnswersMissing args settings row (.value found.toNat)
  | failed (subject raw : ByteArray) (pattern : CompiledPattern) (e : PatternError)
      (hSubject : row.bytes? 1 = some subject) (hFilled : subject.size ≠ 0)
      (hDeclared : args.declared? = some raw)
      (hCompiles : CompiledPattern.ofDelimited raw settings.session.limits = .ok pattern)
      (hFails : (Query.isMatch pattern.matcher () subject).1 = .error e) :
      AnswersMissing args settings row (.failed name e.message)

theorem AnswersMissing.ne_null {answer : Answer Nat} (h : AnswersMissing args settings row answer) :
    answer ≠ .null := by
  cases h <;> nofun

theorem call_of_unfilled (f : Rlike) (hSubject : ∀ subject ∈ row.bytes? 1, subject.size = 0) :
    call f row = .value 0 := by
  have hNothing : (row.bytes? 1).filter (·.size ≠ 0) = none := by
    rw [Option.filter_eq_none_iff]
    intro subject hMember
    simp [hSubject subject hMember]
  unfold call
  rw [hNothing]

theorem compiles_of_init {f : Rlike} {raw : ByteArray} (hInit : init args settings = .ok f)
    (hDeclared : args.declared? = some raw) :
    ∃ pattern, CompiledPattern.ofDelimited raw settings.session.limits = .ok pattern := by
  have hNull : args.isNullLiteral 0 = false := by
    by_contra hLiteral
    have hMissing := Replace.bytes?_of_nullLiteral (Bool.eq_true_of_not_eq_false hLiteral)
    unfold Arguments.declared? at hDeclared
    rw [hMissing, ite_self] at hDeclared
    cases hDeclared
  cases hCompiles : CompiledPattern.ofDelimited raw settings.session.limits with
  | ok pattern => exact ⟨pattern, rfl⟩
  | error e =>
    have hAccepts : SessionFunction.rlike.Accepts args :=
      SessionFunction.accepts_of_init (F := .rlike) hInit
    have hRefused : init args settings = .error (.pattern e) :=
      (SessionFunction.init_eq_error_iff hAccepts hNull).mpr ⟨raw, e, hDeclared, hCompiles, rfl⟩
    cases hInit.symm.trans hRefused

theorem answersMissing_call {f : Rlike} (hInit : init args settings = .ok f)
    (hMissing : row.bytes? 0 = none) : AnswersMissing args settings row (call f row) := by
  by_cases hSubject : ∀ subject ∈ row.bytes? 1, subject.size = 0
  · rw [call_of_unfilled f hSubject]
    exact .nothing hSubject
  obtain ⟨subject, hText, hFilled⟩ : ∃ subject, row.bytes? 1 = some subject ∧ subject.size ≠ 0 := by
    simpa using hSubject
  obtain ⟨s, hState, hFound⟩ := SessionFunction.state_of_init (F := .rlike)
    (SessionFunction.accepts_of_init (F := .rlike) hInit) hInit
  have hSession : f.session = s := congrArg Rlike.session hState
  rw [call_eq f hText hFilled, hSession, hMissing, hFound none, Option.or_none]
  cases hDeclared : args.declared? with
  | none => exact .refused subject hText hFilled hDeclared
  | some raw =>
    obtain ⟨pattern, hCompiles⟩ := compiles_of_init hInit hDeclared
    dsimp only
    rw [hCompiles]
    dsimp only
    cases hTest : (Query.isMatch pattern.matcher () subject).1 with
    | ok found => exact .tested subject raw pattern found hText hFilled hDeclared hCompiles hTest
    | error e => exact .failed subject raw pattern e hText hFilled hDeclared hCompiles hTest

/-- Rows leave nothing behind. -/
theorem after_eq (f : Rlike) (rows : List Arguments) : SessionFunction.rlike.after f rows = f := by
  induction rows with
  | nil => rfl
  | cons row rows ih => exact ih

end Rlike

/-- The answers to the literal `NULL` as pattern, under modern handling and after any rows. Of the
four functions only the test for a match never gives `NULL`. -/
theorem nullPattern_answers (hModern : settings.nullHandling = .modern)
    (hNull : row.isNullLiteral 0 = true) (rows : List Arguments) :
    (∀ F : SessionFunction, F ≠ .rlike → ∀ f, F.init args settings = .ok f →
        (F.call (F.after f rows) row).1 = .null) ∧
      ∀ f, Rlike.init args settings = .ok f →
        let answer := Rlike.call (SessionFunction.rlike.after f rows) row
        Rlike.AnswersMissing args settings row answer ∧ answer ≠ .null := by
  refine ⟨?_, ?_⟩
  · intro F hOther f hInit
    have hAccepts : F.Accepts args := SessionFunction.accepts_of_init hInit
    obtain ⟨s, rfl, -⟩ := SessionFunction.state_of_init hAccepts hInit
    obtain ⟨s', hAfter, -⟩ := F.after_state settings.nullHandling s rows
    rw [hAfter, hModern]
    exact SessionFunction.call_of_nullPattern hOther s' hNull
  · intro f hInit answer
    have hAnswer : answer = Rlike.call f row := congrArg (Rlike.call · row) (Rlike.after_eq f rows)
    have hMissing := Rlike.answersMissing_call hInit (Replace.bytes?_of_nullLiteral hNull)
    rw [hAnswer]
    exact ⟨hMissing, hMissing.ne_null⟩

theorem nullPattern_answers_text :
    let literal := Argument.ofValue .nullLiteral
    let text := fun s : String => Argument.ofValue (.bytes s.toUTF8)
    let row : Arguments := [literal, text "b", text "abc"]
    let s : Session := ⟨none, { capacity := 1024000 }, {}⟩
    (Replace.call ⟨s, .modern⟩ row).1 = .null ∧ Capture.call ⟨s, .modern⟩ row = .null ∧
      Position.call ⟨s, .modern⟩ row = .null ∧
      Rlike.AnswersMissing [literal, text "b"] {} row (Rlike.call ⟨s⟩ row) := by
  intro literal text row s
  obtain ⟨hGroups, -⟩ := @nullPattern_answers row row {} rfl rfl []
  obtain ⟨-, hTest⟩ := @nullPattern_answers [literal, text "b"] row {} rfl rfl []
  exact ⟨hGroups .replace nofun ⟨s, .modern⟩ rfl, hGroups .capture nofun ⟨s, .modern⟩ rfl,
    hGroups .position nofun ⟨s, .modern⟩ rfl, (hTest ⟨s⟩ rfl).1⟩

theorem nullPattern_refused :
    let literal := Argument.ofValue .nullLiteral
    let text := fun s : String => Argument.ofValue (.bytes s.toUTF8)
    ∃ f, Rlike.init [literal, text "a"] {} = .ok f ∧
      Rlike.call f [literal, text "a"] =
        .error "preg_rlike: compile failed: Empty regular expression" ∧
      Rlike.call f [literal, text ""] = .value 0 := by
  intro literal text
  exact ⟨⟨⟨none, { capacity := 1024000 }, {}⟩⟩, rfl, by decide +kernel, by decide +kernel⟩

end PerlPattern.Host
