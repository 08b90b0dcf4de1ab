import PerlPattern.Proofs.EngineSearch
import PerlPattern.Proofs.Scans
import PerlPattern.Proofs.ShortRuns

/-! # Searches between characters

The backtracking engine searches text, and fails inside a character. The loops
guess the width of a character by its first byte alone. Over text the guess is
right, so that a search that starts between two characters is followed by one
that does, as long as the engine reports such spans only.
-/

namespace PerlPattern

namespace Utf8

/-- Does a character of a text start at an offset, or does the text end there? -/
def OnBoundary (text : String) (pos : Nat) : Prop := (String.Pos.Raw.mk pos).IsValid text

instance (text : String) (pos : Nat) : Decidable (OnBoundary text pos) :=
  inferInstanceAs (Decidable (String.Pos.Raw.IsValid _ _))

/-- The bytes between two offsets are one whole character of a text. -/
def IsCharacter (text : String) (start stop : Nat) : Prop :=
  ∃ (pos : text.Pos) (h : pos ≠ text.endPos), start = pos.offset.byteIdx ∧
    stop = (pos.next h).offset.byteIdx ∧
    text.toUTF8.extract start stop = [pos.get h].utf8Encode

theorem onBoundary_zero (text : String) : OnBoundary text 0 := text.startPos.isValid

theorem OnBoundary.le {text : String} {pos : Nat} (h : OnBoundary text pos) :
    pos ≤ text.toUTF8.size := by
  rw [String.toUTF8_eq_toByteArray, String.size_toByteArray]
  exact String.Pos.Raw.IsValid.le_utf8ByteSize h

theorem IsCharacter.onBoundary {text : String} {start stop : Nat} (h : IsCharacter text start stop) :
    OnBoundary text stop := by
  obtain ⟨pos, hEnd, -, rfl, -⟩ := h
  exact (pos.next hEnd).isValid

theorem IsCharacter.of_pos {text : String} {pos : text.Pos} (h : pos ≠ text.endPos) :
    IsCharacter text pos.offset.byteIdx (pos.offset.byteIdx + (pos.get h).utf8Size) := by
  refine ⟨pos, h, rfl, (pos.byteIdx_offset_next h).symm, ?_⟩
  rw [String.toUTF8_eq_toByteArray, pos.utf8Encode_get_eq_extract h]

/-- The width that a first byte announces is the one that it has by its leading bits. -/
theorem widthOfLead_eq {lead : UInt8} (h : lead.IsUTF8FirstByte) :
    widthOfLead lead = lead.utf8ByteSize h := by
  -- The tests on ranges and the tests on bits are compared on each of the 256 bytes.
  have hAll : ∀ n : Fin 256, (UInt8.ofFin n).IsUTF8FirstByte → widthOfLead (UInt8.ofFin n) =
      if UInt8.ofFin n &&& 0x80 = 0 then 1 else if UInt8.ofFin n &&& 0xe0 = 0xc0 then 2
        else if UInt8.ofFin n &&& 0xf0 = 0xe0 then 3 else 4 := by
    unfold UInt8.IsUTF8FirstByte
    decide +kernel
  exact hAll lead.toFin h

theorem not_isContinuation {lead : UInt8} (h : lead.IsUTF8FirstByte) :
    isContinuation lead = false := by
  have hAll : ∀ n : Fin 256, (UInt8.ofFin n).IsUTF8FirstByte →
      isContinuation (UInt8.ofFin n) = false := by
    unfold UInt8.IsUTF8FirstByte
    decide +kernel
  exact hAll lead.toFin h

theorem getElem_of_pos {text : String} {pos : text.Pos} (h : pos ≠ text.endPos) :
    text.toUTF8[pos.offset.byteIdx]? = some (pos.byte h) := by
  have hInside : pos.offset.byteIdx < text.toUTF8.size := by
    rw [String.toUTF8_eq_toByteArray, String.size_toByteArray]
    exact pos.byteIdx_lt_utf8ByteSize h
  rw [getElem?_pos text.toUTF8 _ hInside, ← String.Pos.getUTF8Byte_offset]
  rfl

theorem charWidthAt_eq {text : String} {pos : text.Pos} (h : pos ≠ text.endPos) :
    charWidthAt text.toUTF8 pos.offset.byteIdx = (pos.get h).utf8Size := by
  have hWhole := (IsCharacter.of_pos h).onBoundary.le
  unfold charWidthAt
  rw [getElem_of_pos h]
  dsimp only
  rw [widthOfLead_eq String.Pos.isUTF8FirstByte_byte, String.Pos.utf8ByteSize_byte]
  omega

theorem exists_pos {text : String} {start : Nat} (hStart : OnBoundary text start)
    (hInside : start < text.toUTF8.size) :
    ∃ (pos : text.Pos) (_ : pos ≠ text.endPos), start = pos.offset.byteIdx := by
  refine ⟨⟨⟨start⟩, hStart⟩, ?_, rfl⟩
  intro hEnd
  have hLast : start = text.utf8ByteSize := congrArg (fun pos => pos.offset.byteIdx) hEnd
  rw [String.toUTF8_eq_toByteArray, String.size_toByteArray] at hInside
  omega

theorem IsCharacter.lt {text : String} {start stop : Nat} (h : IsCharacter text start stop) :
    start < stop := by
  obtain ⟨pos, hEnd, rfl, rfl, -⟩ := h
  rw [pos.byteIdx_offset_next hEnd]
  exact Nat.lt_add_of_pos_right (pos.get hEnd).utf8Size_pos

theorem isCharacter_charWidthAt {text : String} {start : Nat} (hStart : OnBoundary text start)
    (hInside : start < text.toUTF8.size) :
    IsCharacter text start (start + charWidthAt text.toUTF8 start) := by
  obtain ⟨pos, hEnd, rfl⟩ := exists_pos hStart hInside
  rw [charWidthAt_eq hEnd]
  exact .of_pos hEnd

theorem isBoundary_of_onBoundary {text : String} {start : Nat} (hStart : OnBoundary text start) :
    isBoundary text.toUTF8 start = true := by
  unfold isBoundary
  obtain hLast | hInside := Nat.eq_or_lt_of_le hStart.le
  · simp [hLast]
  · obtain ⟨pos, hEnd, rfl⟩ := exists_pos hStart hInside
    rw [getElem_of_pos hEnd]
    simp [not_isContinuation String.Pos.isUTF8FirstByte_byte]

end Utf8

open Utf8 (OnBoundary IsCharacter)

/-- The errors of a search that was not made within a text, or not between its characters. -/
def EngineErrorKind.misplaced : List EngineErrorKind := [.badUtf8, .badUtf8Offset, .badOffset]

theorem EngineErrorKind.internal_ne_misplaced : ∀ kind ∈ misplaced,
    EngineError.ofKind .internal ≠ EngineError.ofKind kind := by decide

/-- A search between two characters of a text is answered, reports matches that end between
characters, and is followed by one behind a whole character where it finds none. -/
structure Matcher.KeepsBoundaries {σ : Type} (m : Matcher σ) (text : String) : Prop where
  answer : ∀ {start mode offsets state}, OnBoundary text start →
    ∀ kind ∈ EngineErrorKind.misplaced,
    (m.exec text.toUTF8 start mode offsets state).1 ≠ .error (EngineError.ofKind kind)
  whole : ∀ {start mode offsets state outcome after state' count whole}, OnBoundary text start →
    m.exec text.toUTF8 start mode offsets state = (.ok outcome, after, state') →
    outcome.matchCount? after = some count → after.group 0 = some whole →
    OnBoundary text whole.stop
  advance : ∀ {start} (state), OnBoundary text start → start < text.toUTF8.size →
    IsCharacter text start (start + m.advance text.toUTF8 start state)

theorem Matcher.KeepsBoundaries.logged {σ : Type} {m : Matcher σ} {text : String}
    (h : m.KeepsBoundaries text) : m.logged.KeepsBoundaries text where
  answer := fun hStart kind hKind => h.answer hStart kind hKind
  whole := fun hStart hExec => h.whole hStart (exec_of_logged hExec).1
  advance := fun state hStart hInside => h.advance state.1 hStart hInside

variable {σ : Type} {m : Matcher σ} {text : String} {template : Template}

namespace Pass

theorem isCharacter_stepWidth (hKeeps : m.KeepsBoundaries text) {start : Nat} (state : σ)
    (hStart : OnBoundary text start) (hInside : start < text.toUTF8.size) :
    IsCharacter text start (start + stepWidth m text.toUTF8 start state) := by
  have hChar := hKeeps.advance state hStart hInside
  have hWidth : stepWidth m text.toUTF8 start state = m.advance text.toUTF8 start state := by
    have hFits := hChar.onBoundary.le
    have hSome := hChar.lt
    unfold stepWidth
    omega
  rw [hWidth]
  exact hChar

theorem Step.onBoundary (hKeeps : m.KeepsBoundaries text) {p q : Pass σ}
    (h : Step m text.toUTF8 template p q) (hStart : OnBoundary text p.start) :
    OnBoundary text q.start := by
  cases h with
  | replaced outcome offsets state count whole out hSearch hCount hLeft hChecked hGrow hInside =>
    exact hKeeps.whole hStart hSearch hCount hChecked.group
  | stepped outcome offsets state out hSearch hNone hNotEmpty hInside hGrow =>
    exact (isCharacter_stepWidth hKeeps state hStart hInside).onBoundary

/-- A round that leads on without a replacement copies one whole character. -/
theorem Step.copies (hKeeps : m.KeepsBoundaries text) {p q : Pass σ}
    (h : Step m text.toUTF8 template p q) (hStart : OnBoundary text p.start)
    (hSame : q.accepted = p.accepted) : IsCharacter text p.start q.start ∧
      q.out.bytes = p.out.bytes ++ text.toUTF8.extract p.start q.start := by
  cases h with
  | replaced outcome offsets state count whole out hSearch hCount hLeft hChecked hGrow hInside =>
    exact absurd hSame (List.cons_ne_self _ _)
  | stepped outcome offsets state out hSearch hNone hNotEmpty hInside hGrow =>
    refine ⟨isCharacter_stepWidth hKeeps state hStart hInside, ?_⟩
    simp only [OutputBuffer.bytes_extend, OutputBuffer.bytes_of_growFor hGrow]

theorem Steps.onBoundary (hKeeps : m.KeepsBoundaries text) {p q : Pass σ}
    (h : Steps m text.toUTF8 template p q) (hStart : OnBoundary text p.start) :
    OnBoundary text q.start :=
  h.preserves (P := fun r => OnBoundary text r.start)
    (fun _ _ hStep hBefore => hStep.onBoundary hKeeps hBefore) hStart

theorem Fails.not_misplaced (hKeeps : m.KeepsBoundaries text) {p : Pass σ} {fault : PassFault}
    (h : Fails m text.toUTF8 template p fault) (hStart : OnBoundary text p.start) :
    ∀ kind ∈ EngineErrorKind.misplaced,
      fault ≠ .error (.engine (EngineError.ofKind kind)) := by
  intro kind hKind hFault
  cases h with
  | engine e offsets state hSearch =>
    cases hFault
    exact hKeeps.answer hStart kind hKind (congrArg Prod.fst hSearch)
  | rejected =>
    injection hFault with hError
    injection hError with hInternal
    exact EngineErrorKind.internal_ne_misplaced kind hKind hInternal
  | memory | matchOutside | startOutside => cases hFault

theorem run_not_misplaced (hKeeps : m.KeepsBoundaries text) {p : Pass σ} (template : Template)
    (patience : Nat) (hStart : OnBoundary text p.start) : ∀ kind ∈ EngineErrorKind.misplaced,
    (p.run m text.toUTF8 template patience).2 ≠
      .error (.error (.engine (EngineError.ofKind kind))) := by
  intro kind hKind hResult
  obtain ⟨q, hSteps, hStop | ⟨-, -, hStalled⟩⟩ := p.run_ends m text.toUTF8 template patience
  · rw [hResult] at hStop
    exact (fails_of_round hStop).not_misplaced hKeeps (hSteps.onBoundary hKeeps hStart) kind hKind rfl
  · cases hResult.symm.trans hStalled

end Pass

namespace Scan

theorem Step.passes (hKeeps : m.KeepsBoundaries text) {p q : Scan σ} (h : Step m text.toUTF8 p q)
    (hStart : OnBoundary text p.start) (hSame : q.left = p.left) :
    IsCharacter text p.start q.start := by
  cases h with
  | passed outcome offsets state count whole left hSearch hCount hWhole hLeft =>
    dsimp only at hSame
    omega
  | stepped offsets state hSearch hNotEmpty hInside =>
    have hChar := hKeeps.advance state hStart hInside
    have hWidth : max 1 (m.advance text.toUTF8 p.start state) =
        m.advance text.toUTF8 p.start state := by
      have hSome := hChar.lt
      omega
    dsimp only
    rw [hWidth]
    exact hChar

theorem Step.onBoundary (hKeeps : m.KeepsBoundaries text) {p q : Scan σ}
    (h : Step m text.toUTF8 p q) (hStart : OnBoundary text p.start) : OnBoundary text q.start := by
  cases h with
  | passed outcome offsets state count whole left hSearch hCount hWhole hLeft =>
    exact hKeeps.whole hStart hSearch hCount (Occurrence.wholeWithin?_eq_some_iff.mp hWhole).1
  | stepped offsets state hSearch hNotEmpty hInside =>
    exact (Step.stepped offsets state hSearch hNotEmpty hInside).passes hKeeps hStart rfl
      |>.onBoundary

theorem Steps.onBoundary (hKeeps : m.KeepsBoundaries text) {p q : Scan σ}
    (h : Steps m text.toUTF8 p q) (hStart : OnBoundary text p.start) : OnBoundary text q.start :=
  h.preserves (P := fun r => OnBoundary text r.start)
    (fun _ _ hStep hBefore => hStep.onBoundary hKeeps hBefore) hStart

theorem Ends.not_misplaced (hKeeps : m.KeepsBoundaries text) {p : Scan σ}
    {result : Result (Option Occurrence)} (h : Ends m text.toUTF8 p result)
    (hStart : OnBoundary text p.start) : ∀ kind ∈ EngineErrorKind.misplaced,
    result ≠ .error (.engine (EngineError.ofKind kind)) := by
  intro kind hKind hResult
  cases h with
  | engine e offsets state hSearch =>
    cases hResult
    exact hKeeps.answer hStart kind hKind (congrArg Prod.fst hSearch)
  | misplaced =>
    injection hResult with hError
    injection hError with hInternal
    exact EngineErrorKind.internal_ne_misplaced kind hKind hInternal
  | found | noMore => cases hResult

end Scan

theorem substituteCalls_onBoundary (hKeeps : m.KeepsBoundaries text) (state : σ)
    (template : Template) (limit : Option Nat) (out : OutputBuffer) (patience : Nat) :
    ∀ call ∈ substituteCalls m state text.toUTF8 template limit out patience,
      OnBoundary text call.start := by
  refine forall_substituteCalls (I := fun r => OnBoundary text r.start) ?_ ?_ (fun _ hHere => hHere)
    out patience
  · exact fun _ _ _ => Utf8.onBoundary_zero text
  · exact fun _ _ hStep hBefore => hStep.onBoundary hKeeps.logged hBefore

theorem occurrenceCalls_onBoundary (hKeeps : m.KeepsBoundaries text) (state : σ)
    (occurrence : Nat) :
    ∀ call ∈ occurrenceCalls m state text.toUTF8 occurrence, OnBoundary text call.start := by
  refine forall_occurrenceCalls (I := fun r => OnBoundary text r.start) ?_ ?_ (fun _ hHere => hHere)
  · exact fun _ _ => Utf8.onBoundary_zero text
  · exact fun _ _ hStep hBefore => hStep.onBoundary hKeeps.logged hBefore

namespace Engine

/-- The spans reported for a search between two characters lie between characters of the text. -/
def ReportsBoundaries (e : Engine) (text : String) : Prop :=
  ∀ start ≤ text.toUTF8.size, OnBoundary text start → ∀ span ∈ e.reported text.toUTF8 start,
    OnBoundary text span.start ∧ OnBoundary text span.stop

instance (e : Engine) (text : String) : Decidable (e.ReportsBoundaries text) :=
  inferInstanceAs (Decidable (∀ start ≤ text.toUTF8.size, OnBoundary text start →
    ∀ span ∈ e.reported text.toUTF8 start, _ ∧ _))

theorem errorOf_ne_misplaced (fault : Backtrack.SearchFault) : ∀ kind ∈ EngineErrorKind.misplaced,
    errorOf fault ≠ EngineError.ofKind kind := by
  cases fault <;> decide

theorem exec_ne_misplaced (e : Engine) {start : Nat} (hStart : OnBoundary text start)
    (mode : SearchMode) (offsets : MatchOffsets) : ∀ kind ∈ EngineErrorKind.misplaced,
    (e.exec text.toUTF8 start mode offsets).1 ≠ .error (EngineError.ofKind kind) := by
  intro kind hKind hError
  have hValid : text.toUTF8.validateUTF8 = true :=
    ByteArray.validateUTF8_eq_true_iff.mpr text.isValidUTF8
  unfold exec at hError
  rw [if_neg (Nat.not_lt.mpr hStart.le)] at hError
  simp only [hValid, Utf8.isBoundary_of_onBoundary hStart, Bool.not_true, Bool.false_eq_true,
    and_false, if_false] at hError
  -- The checks in front of the search have passed, so that the search itself is at fault.
  split at hError
  · injection hError with hSame
    exact errorOf_ne_misplaced _ kind hKind hSame
  · cases hError
  · cases hError

end Engine

namespace CompiledPattern

variable {p : CompiledPattern}

/-- The backtracking engine steps over whole characters, whether the pattern is UTF-8 or not. -/
theorem advance_eq (hKind : p.engine.kind = .backtracking) (subject : ByteArray) (pos : Nat) :
    p.advance subject pos = Utf8.charWidthAt subject pos := by
  unfold advance Engine.advance
  rw [hKind]
  split <;> rfl

theorem keepsBoundaries (hKind : p.engine.kind = .backtracking)
    (hEngine : p.engine.ReportsBoundaries text) : p.matcher.KeepsBoundaries text where
  answer := by
    intro start mode offsets state hStart
    exact p.engine.exec_ne_misplaced hStart (p.modeOf mode) offsets
  whole := by
    intro start mode offsets state outcome after state' count whole hStart hExec hCount hWhole
    obtain ⟨-, hAnswers⟩ := answers_of_exec hExec
    obtain ⟨whole', hGroup, hReported, -⟩ :=
      hAnswers.whole hCount (MatchOffsets.lt_groupCapacity_of_group hWhole)
    cases hWhole.symm.trans hGroup
    exact (hEngine start hStart.le hStart whole hReported).2
  advance := by
    intro start _ hStart hInside
    have hChar := Utf8.isCharacter_charWidthAt hStart hInside
    rw [← p.advance_eq hKind] at hChar
    exact hChar

theorem substituteInto_not_misplaced (hKeeps : p.matcher.KeepsBoundaries text)
    (template : Template) (limit : Option Nat) (out : OutputBuffer) (patience : Nat) :
    ∀ kind ∈ EngineErrorKind.misplaced,
      (substituteInto p.matcher () text.toUTF8 template limit out patience).result ≠
        .error (.error (.engine (EngineError.ofKind kind))) := by
  intro kind hKind
  obtain ⟨e, out', hCause, -, hEnd⟩ | ⟨offsets, grown, -, -, hEnd⟩ :=
    substituteInto_cases p.matcher () text.toUTF8 template limit out patience
  · rw [hEnd]
    rcases hCause with rfl | hFailed
    · exact fun hError => nomatch hError
    · cases hFailed
  · rw [hEnd]
    exact Pass.run_not_misplaced hKeeps template patience (Utf8.onBoundary_zero text) kind hKind

theorem findOccurrence_not_misplaced (hKeeps : p.matcher.KeepsBoundaries text)
    (occurrence : Nat) : ∀ kind ∈ EngineErrorKind.misplaced,
    (findOccurrence p.matcher () text.toUTF8 occurrence).1 ≠
      .error (.engine (EngineError.ofKind kind)) := by
  intro kind hKind
  unfold findOccurrence
  cases hRoom : (p.matcher.captureCount ()).bind MatchOffsets.ofCaptureCount with
  | error e =>
    rw [MatchOffsets.error_of_ofGroupCapacity hRoom]
    exact fun hError => nomatch hError
  | ok offsets =>
    obtain ⟨q, hSteps, hEnds, -⟩ := (Scan.first () offsets occurrence).find_ends p.matcher text.toUTF8
    exact hEnds.not_misplaced hKeeps (hSteps.onBoundary hKeeps (Utf8.onBoundary_zero text)) kind hKind

end CompiledPattern

/-- Over text, both loops search between characters only, so that no search fails for where it was
made. Where they go on without a match, they leave exactly one whole character behind, which
substitution copies. The backtracking engine is assumed to report spans between characters. -/
theorem loops_keep_boundaries {p : CompiledPattern} (hKind : p.engine.kind = .backtracking)
    (hEngine : p.engine.ReportsBoundaries text) :
    (∀ template limit out patience,
      (∀ call ∈ substituteCalls p.matcher () text.toUTF8 template limit out patience,
        call.start ≤ text.toUTF8.size ∧ OnBoundary text call.start) ∧
      ∀ kind ∈ EngineErrorKind.misplaced,
        (substituteInto p.matcher () text.toUTF8 template limit out patience).result ≠
          .error (.error (.engine (EngineError.ofKind kind)))) ∧
    (∀ template offsets out limit q q',
      Pass.Steps p.matcher text.toUTF8 template (.first () offsets out limit) q →
      Pass.Step p.matcher text.toUTF8 template q q' → q'.accepted = q.accepted →
      IsCharacter text q.start q'.start ∧
        q'.out.bytes = q.out.bytes ++ text.toUTF8.extract q.start q'.start) ∧
    (∀ occurrence,
      (∀ call ∈ occurrenceCalls p.matcher () text.toUTF8 occurrence,
        call.start ≤ text.toUTF8.size ∧ OnBoundary text call.start) ∧
      ∀ kind ∈ EngineErrorKind.misplaced,
        (findOccurrence p.matcher () text.toUTF8 occurrence).1 ≠
          .error (.engine (EngineError.ofKind kind))) ∧
    ∀ offsets occurrence q q',
      Scan.Steps p.matcher text.toUTF8 (.first () offsets occurrence) q →
      Scan.Step p.matcher text.toUTF8 q q' → q'.left = q.left →
      IsCharacter text q.start q'.start := by
  have hKeeps := CompiledPattern.keepsBoundaries hKind hEngine
  have hZero := Utf8.onBoundary_zero text
  refine ⟨?_, ?_, ?_, ?_⟩
  · intro template limit out patience
    refine ⟨?_, CompiledPattern.substituteInto_not_misplaced hKeeps template limit out patience⟩
    intro call hCall
    have hHere := substituteCalls_onBoundary hKeeps () template limit out patience call hCall
    exact ⟨hHere.le, hHere⟩
  · intro template offsets out limit q q' hSteps hStep hSame
    exact hStep.copies hKeeps (hSteps.onBoundary hKeeps hZero) hSame
  · intro occurrence
    refine ⟨?_, CompiledPattern.findOccurrence_not_misplaced hKeeps occurrence⟩
    intro call hCall
    have hHere := occurrenceCalls_onBoundary hKeeps () occurrence call hCall
    exact ⟨hHere.le, hHere⟩
  · intro offsets occurrence q q' hSteps hStep hSame
    exact hStep.passes hKeeps (hSteps.onBoundary hKeeps hZero) hSame

theorem loops_keep_boundaries_ahead :
    ∃ p, CompiledPattern.ofDelimited "/(?=€)/".toUTF8 default = .ok p ∧
      p.engine.kind = .backtracking ∧ p.engine.ReportsBoundaries "é€b" ∧
      (∀ call ∈ substituteCalls p.matcher () "é€b".toUTF8 (Template.parse "-".toUTF8) none {} 0,
        call.start ≤ 6 ∧ OnBoundary "é€b" call.start) ∧
      ∀ kind ∈ EngineErrorKind.misplaced, (findOccurrence p.matcher () "é€b".toUTF8 2).1 ≠
        .error (.engine (EngineError.ofKind kind)) := by
  have hChecked : (CompiledPattern.ofDelimited "/(?=€)/".toUTF8 default).toOption.any (fun p =>
      decide (p.engine.kind = .backtracking) && decide (p.engine.ReportsBoundaries "é€b")) =
        true := by
    decide +kernel
  cases hCompiles : CompiledPattern.ofDelimited "/(?=€)/".toUTF8 default with
  | error e =>
    rw [hCompiles] at hChecked
    cases hChecked
  | ok p =>
    rw [hCompiles] at hChecked
    obtain ⟨hKind, hReports⟩ := (Bool.and_eq_true _ _).mp hChecked
    have hKind : p.engine.kind = .backtracking := of_decide_eq_true hKind
    have hEngine : p.engine.ReportsBoundaries "é€b" := of_decide_eq_true hReports
    obtain ⟨hSubstitute, -, hFind, -⟩ := loops_keep_boundaries hKind hEngine
    have hSize : "é€b".toUTF8.size = 6 := by decide
    refine ⟨p, rfl, hKind, hEngine, ?_, (hFind 2).2⟩
    rw [← hSize]
    exact (hSubstitute (Template.parse "-".toUTF8) none {} 0).1

end PerlPattern
