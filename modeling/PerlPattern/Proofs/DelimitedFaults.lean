import PerlPattern.Proofs.DelimitedGrammar

/-! # What a delimited pattern is refused for

A text is refused for the first thing that is wrong with it: nothing but blanks,
a byte that opens no pattern, a body that is never closed, a byte that is no
modifier. An empty body counts last of all, after the modifiers behind it.
-/

namespace PerlPattern.Delimited

/-- The first byte that is no blank is `opener`, and `rest` follows it. -/
def Opens (raw : List UInt8) (opener : UInt8) (rest : List UInt8) : Prop :=
  ∃ before, raw = before ++ opener :: rest ∧ (∀ b ∈ before, b ∈ blanks) ∧ opener ∉ blanks

def OpensNothing (b : UInt8) : Prop := (Char.ofUInt8 b).isAlphanum = true ∨ b = '\\'.toUInt8

def closing (opener : UInt8) : UInt8 := (brackets.lookup opener).getD opener

/-- What follows `opener` is a body with its escapes, the delimiter that closes it, and `tail`. -/
def Divides (opener : UInt8) (rest body tail : List UInt8) : Prop :=
  rest = body ++ closing opener :: tail ∧
    ∃ plain, Escapes body plain ∧ Encloses opener (closing opener) plain

/-- The first fault of a text, or none. -/
inductive Verdict (raw : List UInt8) : Option PatternError → Prop
  | blank (hBlank : ∀ b ∈ raw, b ∈ blanks) : Verdict raw (some .emptyPattern)
  | badDelimiter (opener : UInt8) (rest : List UInt8) (hOpens : Opens raw opener rest)
      (hNothing : OpensNothing opener) : Verdict raw (some .badDelimiter)
  | unterminated (opener : UInt8) (rest : List UInt8) (hOpens : Opens raw opener rest)
      (hOpener : ¬OpensNothing opener) (hNever : ∀ body tail, ¬Divides opener rest body tail) :
      Verdict raw (some (.unterminated (closing opener)))
  | unknownModifier (opener : UInt8) (rest body known : List UInt8) (b : UInt8)
      (after : List UInt8) (hOpens : Opens raw opener rest) (hOpener : ¬OpensNothing opener)
      (hDivides : Divides opener rest body (known ++ b :: after))
      (hKnown : ∀ c ∈ known, Char.ofUInt8 c ∈ "imsxADUXuS \n".toList)
      (hUnknown : Char.ofUInt8 b ∉ "imsxADUXuS \n".toList) :
      Verdict raw (some (.unknownModifier b))
  | emptyBody (opener : UInt8) (rest tail : List UInt8) (hOpens : Opens raw opener rest)
      (hOpener : ¬OpensNothing opener) (hDivides : Divides opener rest [] tail)
      (hKnown : ∀ c ∈ tail, Char.ofUInt8 c ∈ "imsxADUXuS \n".toList) :
      Verdict raw (some .emptyPattern)
  | accepted (opener : UInt8) (rest body tail : List UInt8) (hOpens : Opens raw opener rest)
      (hOpener : ¬OpensNothing opener) (hDivides : Divides opener rest body tail)
      (hKnown : ∀ c ∈ tail, Char.ofUInt8 c ∈ "imsxADUXuS \n".toList) (hBody : body ≠ []) :
      Verdict raw none

variable {raw rest body tail : List UInt8} {opener : UInt8}

theorem exists_first {α : Type} {P : α → Prop} [DecidablePred P] {l : List α}
    (h : ¬∀ a ∈ l, P a) :
    ∃ before a after, l = before ++ a :: after ∧ (∀ b ∈ before, P b) ∧ ¬P a := by
  have hSome : (l.find? fun a => !decide (P a)).isSome = true := by simpa using h
  obtain ⟨a, hFind⟩ := Option.isSome_iff_exists.mp hSome
  obtain ⟨ha, before, after, hList, hBefore⟩ := List.find?_eq_some_iff_append.mp hFind
  exact ⟨before, a, after, hList, by simpa using hBefore, by simpa using ha⟩

theorem Opens.dropWhile (h : Opens raw opener rest) : raw.dropWhile isBlank = opener :: rest := by
  obtain ⟨before, rfl, hBefore, hOpener⟩ := h
  simp only [← isBlank_iff] at hBefore hOpener
  rw [List.dropWhile_append_of_pos hBefore, List.dropWhile_cons_of_neg hOpener]

theorem isDelimiter_iff_not (b : UInt8) : isDelimiter b = true ↔ ¬OpensNothing b := by
  simp [isDelimiter_iff, OpensNothing]

theorem closerOf_eq_closing (b : UInt8) : closerOf b = closing b := closerOf_eq b

theorem divides_iff (hOpener : ¬OpensNothing opener) : Divides opener rest body tail ↔
    splitBody opener (closerOf opener) 0 rest = some (body, tail) := by
  simp only [Divides, ← closerOf_eq_closing, ← closes_iff_encloses]
  constructor
  · rintro ⟨rfl, plain, hEscapes, hCloses⟩
    have hNoEscape := closerOf_ne_backslash opener fun h => hOpener (.inr h)
    exact splitBody_complete hNoEscape tail hEscapes hCloses
  · exact splitBody_sound

theorem readModifiers_append {known : List UInt8}
    (hKnown : ∀ b ∈ known, Char.ofUInt8 b ∈ "imsxADUXuS \n".toList) (set : Modifiers)
    (study : Bool) : ∃ set' study', ∀ rest,
      readModifiers set study (known ++ rest) = readModifiers set' study' rest := by
  induction known generalizing set study with
  | nil => exact ⟨set, study, fun _ => rfl⟩
  | cons b known ih =>
    obtain ⟨hByte, hRest⟩ := List.forall_mem_cons.mp hKnown
    simp only [List.cons_append]
    rcases (isModifier_iff b).mp hByte with rfl | hBlank | ⟨m, hLetter⟩
    · simpa only [readModifiers_study] using ih hRest set true
    · simpa only [readModifiers_blank set study hBlank] using ih hRest set study
    · obtain rfl := (ofByte?_eq_some_iff b m).mp hLetter
      simpa only [readModifiers_letter] using ih hRest (set.insert m) study

theorem readModifiers_known (hKnown : ∀ b ∈ tail, Char.ofUInt8 b ∈ "imsxADUXuS \n".toList) :
    ∃ set study, readModifiers ∅ false tail = .ok (set, study) := by
  obtain ⟨set, study, hRead⟩ := readModifiers_append hKnown ∅ false
  refine ⟨set, study, ?_⟩
  simpa [readModifiers] using hRead []

theorem readModifiers_unknown {known after : List UInt8} {b : UInt8}
    (hKnown : ∀ c ∈ known, Char.ofUInt8 c ∈ "imsxADUXuS \n".toList)
    (hUnknown : Char.ofUInt8 b ∉ "imsxADUXuS \n".toList) :
    readModifiers ∅ false (known ++ b :: after) = .error (.unknownModifier b) := by
  obtain ⟨set, study, hRead⟩ := readModifiers_append hKnown ∅ false
  rw [hRead, readModifiers_other set study hUnknown]

def fault? {α : Type} : Result α → Option PatternError
  | .ok _ => none
  | .error e => some e

theorem Verdict.fault?_eq {verdict : Option PatternError} (h : Verdict raw verdict) :
    fault? (parseBytes raw) = verdict := by
  unfold parseBytes
  cases h with
  | blank hBlank =>
    simp only [← isBlank_iff] at hBlank
    simp [List.dropWhile_eq_nil_iff.mpr hBlank, fault?]
  | badDelimiter opener rest hOpens hNothing =>
    have hOpener : isDelimiter opener = false :=
      Bool.eq_false_iff.mpr fun h => (isDelimiter_iff_not opener).mp h hNothing
    simp [hOpens.dropWhile, hOpener, fault?]
  | unterminated opener rest hOpens hOpener hNever =>
    have hSplit : splitBody opener (closerOf opener) 0 rest = none := by
      refine Option.eq_none_iff_forall_ne_some.mpr ?_
      rintro ⟨body, tail⟩ hSplit
      exact hNever body tail ((divides_iff hOpener).mpr hSplit)
    rw [← closerOf_eq_closing]
    simp [hOpens.dropWhile, (isDelimiter_iff_not opener).mpr hOpener, hSplit, fault?]
  | unknownModifier opener rest body known b after hOpens hOpener hDivides hKnown hUnknown =>
    simp [hOpens.dropWhile, (isDelimiter_iff_not opener).mpr hOpener,
      (divides_iff hOpener).mp hDivides, readModifiers_unknown hKnown hUnknown, fault?]
  | emptyBody opener rest tail hOpens hOpener hDivides hKnown =>
    obtain ⟨set, study, hRead⟩ := readModifiers_known hKnown
    simp [hOpens.dropWhile, (isDelimiter_iff_not opener).mpr hOpener,
      (divides_iff hOpener).mp hDivides, hRead, PatternSpec.make, ByteArray.size, fault?]
  | accepted opener rest body tail hOpens hOpener hDivides hKnown hBody =>
    obtain ⟨set, study, hRead⟩ := readModifiers_known hKnown
    simp [hOpens.dropWhile, (isDelimiter_iff_not opener).mpr hOpener,
      (divides_iff hOpener).mp hDivides, hRead, PatternSpec.make, ByteArray.size, hBody, fault?]

theorem exists_verdict (raw : List UInt8) : ∃ verdict, Verdict raw verdict := by
  -- The faults in the order in which they count; only the last two go by the body.
  by_cases hBlank : ∀ b ∈ raw, b ∈ blanks
  · exact ⟨_, .blank hBlank⟩
  obtain ⟨before, opener, rest, hRaw, hBefore, hFirst⟩ := exists_first hBlank
  have hOpens : Opens raw opener rest := ⟨before, hRaw, hBefore, hFirst⟩
  by_cases hOpener : OpensNothing opener
  · exact ⟨_, .badDelimiter opener rest hOpens hOpener⟩
  by_cases hNever : ∀ body tail, ¬Divides opener rest body tail
  · exact ⟨_, .unterminated opener rest hOpens hOpener hNever⟩
  obtain ⟨body, tail, hDivides⟩ : ∃ body tail, Divides opener rest body tail := by
    simpa using hNever
  by_cases hKnown : ∀ b ∈ tail, Char.ofUInt8 b ∈ "imsxADUXuS \n".toList
  · by_cases hBody : body = []
    · subst hBody
      exact ⟨_, .emptyBody opener rest tail hOpens hOpener hDivides hKnown⟩
    · exact ⟨_, .accepted opener rest body tail hOpens hOpener hDivides hKnown hBody⟩
  · obtain ⟨known, b, after, rfl, hBefore, hUnknown⟩ := exists_first hKnown
    exact ⟨_, .unknownModifier opener rest body known b after hOpens hOpener hDivides hBefore
      hUnknown⟩

theorem verdict_iff {verdict : Option PatternError} :
    Verdict raw verdict ↔ fault? (parseBytes raw) = verdict := by
  constructor
  · exact Verdict.fault?_eq
  · rintro rfl
    obtain ⟨verdict, h⟩ := exists_verdict raw
    rwa [h.fault?_eq]

theorem fault?_eq_some_iff {α : Type} {result : Result α} {e : PatternError} :
    fault? result = some e ↔ result = .error e := by
  cases result <;> simp [fault?]

theorem fault?_eq_none_iff {α : Type} {result : Result α} :
    fault? result = none ↔ ∃ a, result = .ok a := by
  cases result <;> simp [fault?]

/-- A text is refused for its first fault, and accepted if it has none. The delimiter that closes a
body is the only one that can, so it is clear what its modifiers are. -/
theorem parse_verdict (raw : ByteArray) :
    (∀ e, parse raw = .error e ↔ Verdict raw.data.toList (some e)) ∧
    ((∃ spec, parse raw = .ok spec) ↔ Verdict raw.data.toList none) ∧
    ∀ opener rest, ¬OpensNothing opener → ∀ body tail body' tail',
      Divides opener rest body tail → Divides opener rest body' tail' →
        body = body' ∧ tail = tail' := by
  refine ⟨?_, ?_, ?_⟩
  · intro e
    rw [verdict_iff, fault?_eq_some_iff]
    rfl
  · rw [verdict_iff, fault?_eq_none_iff]
    rfl
  · intro opener rest hOpener body tail body' tail' hDivides hDivides'
    rw [divides_iff hOpener] at hDivides hDivides'
    simpa using hDivides.symm.trans hDivides'

example : fault? (parse "//e".toUTF8) = some (.unknownModifier 'e'.toUInt8) := by decide +kernel

example : fault? (parse "/abc\\".toUTF8) = some (.unterminated '/'.toUInt8) := by decide +kernel

end PerlPattern.Delimited
