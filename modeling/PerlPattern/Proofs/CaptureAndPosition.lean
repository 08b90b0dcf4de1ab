import PerlPattern.Query
import PerlPattern.Proofs.Scans

/-! # The text and the position of a group

Both questions find the same span. The text is cut out of the subject only if
the span lies within it, while the position is read off the span as it is: the
answers differ where a matcher reported a group that lies elsewhere.
-/

namespace PerlPattern

variable {σ : Type}

/-- A position and a text that describe the same bytes of a subject, or nothing at all. -/
inductive SameText (subject : ByteArray) : Result (Option Nat) → Result (Option ByteArray) → Prop
  | failed (e : PatternError) : SameText subject (.error e) (.error e)
  | absent : SameText subject (.ok none) (.ok none)
  | found (pos : Nat) (bytes : ByteArray) (hPos : 1 ≤ pos)
      (hInside : pos - 1 + bytes.size ≤ subject.size)
      (hBytes : bytes = subject.extract (pos - 1) (pos - 1 + bytes.size)) :
      SameText subject (.ok (some pos)) (.ok (some bytes))

theorem SameText.of_within {subject : ByteArray} {span : Span} (h : span.Within subject.size) :
    SameText subject (.ok (some (span.start + 1)))
      (.ok (some (subject.extract span.start span.stop))) := by
  obtain ⟨hOrder, hStop⟩ := h
  have hSize : (subject.extract span.start span.stop).size = span.stop - span.start := by
    rw [ByteArray.size_extract, Nat.min_eq_left hStop]
  have hEnd : span.start + (span.stop - span.start) = span.stop := by omega
  refine .found _ _ (Nat.le_add_left _ _) ?_ ?_
  · rw [hSize, Nat.add_sub_cancel, hEnd]
    exact hStop
  · rw [hSize, Nat.add_sub_cancel, hEnd]

namespace Query

theorem locate_eq {m : Matcher σ} {state : σ} {ref : GroupRef} {index : Nat}
    (hIndex : ref.resolve m state = .ok (some index)) (subject : ByteArray) (occurrence : Nat) :
    (locate m state subject ref occurrence).1 =
      (findOccurrence m state subject occurrence).1.map fun found =>
        found.bind fun o => o.group index := by
  unfold locate
  rw [hIndex]

/-- A span that is located is that of a group of a match that one of the searches reported. -/
theorem locate_found {m : Matcher σ} {state : σ} {subject : ByteArray} {ref : GroupRef}
    {occurrence : Nat} {span : Span}
    (h : (locate m state subject ref occurrence).1 = .ok (some span)) :
    ∃ index, ref.resolve m state = .ok (some index) ∧
      ∃ call ∈ occurrenceCalls m state subject occurrence,
        call.offsets.group index = some span := by
  cases hIndex : ref.resolve m state with
  | error e =>
    unfold locate at h
    rw [hIndex] at h
    cases h
  | ok resolved =>
    cases resolved with
    | none =>
      unfold locate at h
      rw [hIndex] at h
      cases h
    | some index =>
      rw [locate_eq hIndex] at h
      cases hFound : (findOccurrence m state subject occurrence).1 with
      | error e =>
        rw [hFound] at h
        cases h
      | ok found =>
        rw [hFound] at h
        obtain ⟨o, rfl, hGroup⟩ := Option.bind_eq_some_iff.mp (Except.ok.inj h)
        obtain ⟨call, hLast, _, _, _, hOffsets, _⟩ := findOccurrence_found hFound
        refine ⟨index, rfl, call, List.mem_of_getLast? hLast, ?_⟩
        rw [hOffsets]
        unfold Occurrence.group at hGroup
        split at hGroup
        · exact hGroup
        · cases hGroup

/-- The text and the position of a group describe the same bytes, unless the matcher reported that
group outside the subject: then it has a position and no text. -/
theorem capture_position (m : Matcher σ) (state : σ) (subject : ByteArray) (ref : GroupRef)
    (occurrence : Nat) :
    SameText subject (position m state subject ref occurrence).1
        (capture m state subject ref occurrence).1 ∨
      ∃ index, ref.resolve m state = .ok (some index) ∧
        ∃ call ∈ occurrenceCalls m state subject occurrence, ∃ span,
          call.offsets.group index = some span ∧ ¬span.Within subject.size ∧
          (position m state subject ref occurrence).1 = .ok (some (span.start + 1)) ∧
          (capture m state subject ref occurrence).1 = .ok none := by
  unfold position capture
  dsimp only
  cases hLocated : (locate m state subject ref occurrence).1 with
  | error e => exact .inl (.failed e)
  | ok located =>
    cases located with
    | none => exact .inl .absent
    | some span =>
      by_cases hWithin : span.Within subject.size
      · have hSlice : span.slice? subject = some (subject.extract span.start span.stop) :=
          if_pos hWithin
        refine .inl ?_
        simp only [Except.map, Option.map_some, Option.bind_some, hSlice]
        exact .of_within hWithin
      · have hSlice : span.slice? subject = none := if_neg hWithin
        obtain ⟨index, hIndex, call, hCall, hGroup⟩ := locate_found hLocated
        refine .inr ⟨index, hIndex, call, hCall, span, hGroup, hWithin, rfl, ?_⟩
        simp only [Except.map, Option.bind_some, hSlice]

/-- A group behind the end of the subject, and a match that ends before it starts. -/
theorem capture_position_apart :
    let beyond := [(.ok (.matched 2), [⟨0, 1⟩, ⟨5, 9⟩])]
    let backwards := [(.ok (.matched 1), [⟨2, 1⟩])]
    (position (Matcher.scripted 1 1) beyond "abc".toUTF8 (.index 1) 1).1 = .ok (some 6) ∧
      (capture (Matcher.scripted 1 1) beyond "abc".toUTF8 (.index 1) 1).1 = .ok none ∧
      (position (Matcher.scripted 0 1) backwards "abc".toUTF8 (.index 0) 1).1 = .ok (some 3) ∧
      (capture (Matcher.scripted 0 1) backwards "abc".toUTF8 (.index 0) 1).1 = .ok none := by
  intro beyond backwards
  have hBeyond : (locate (Matcher.scripted 1 1) beyond "abc".toUTF8 (.index 1) 1).1 =
      .ok (some ⟨5, 9⟩) := by
    have hFound : findOccurrence (Matcher.scripted 1 1) beyond "abc".toUTF8 1 = _ :=
      Scan.find_of_steps (p := .first _ ⟨Array.replicate 6 none⟩ 1) .refl
        (.found _ _ _ _ _ rfl rfl rfl rfl)
    rw [locate_eq rfl, hFound]
    rfl
  have hBackwards : (locate (Matcher.scripted 0 1) backwards "abc".toUTF8 (.index 0) 1).1 =
      .ok (some ⟨2, 1⟩) := by
    have hFound : findOccurrence (Matcher.scripted 0 1) backwards "abc".toUTF8 1 = _ :=
      Scan.find_of_steps (p := .first _ ⟨Array.replicate 3 none⟩ 1) .refl
        (.found _ _ _ _ _ rfl rfl rfl rfl)
    rw [locate_eq rfl, hFound]
    rfl
  unfold position capture
  dsimp only
  rw [hBeyond, hBackwards]
  exact ⟨rfl, rfl, rfl, rfl⟩

end Query

end PerlPattern
