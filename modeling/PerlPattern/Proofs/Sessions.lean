import PerlPattern.Proofs.BufferReuse
import PerlPattern.Session

/-! # Sessions from call to call

A session that has been used differs from a new one in its buffer alone, and a
buffer that has been used changes no result.
-/

namespace PerlPattern

namespace Session

variable {s : Session} {raw : Option ByteArray} {pattern : CompiledPattern}

theorem replace_of_error {e : PatternError} (h : s.patternFor raw = .error e) (subject : ByteArray)
    (template : Template) (limit : Option Nat) :
    s.replace raw subject template limit =
      (.error (.error e), { s with buffer := s.buffer.clear }) := by
  unfold replace
  rw [h]

theorem replace_of_pattern (h : s.patternFor raw = .ok pattern) (subject : ByteArray)
    (template : Template) (limit : Option Nat) :
    s.replace raw subject template limit =
      ((substituteInto pattern.matcher () subject template limit s.buffer 0).result,
        { s with
          buffer :=
            (substituteInto pattern.matcher () subject template limit s.buffer 0).out }) := by
  unfold replace
  rw [h]

/-- A session leaves its output empty on failure, and else holds what the substitution gives into
any buffer, a new one for instance. -/
theorem output_replace (s : Session) (raw : Option ByteArray) (subject : ByteArray)
    (template : Template) (limit : Option Nat) :
    (∀ fault, (s.replace raw subject template limit).1 = .error fault →
      (s.replace raw subject template limit).2.output = .empty) ∧
    ∀ report, (s.replace raw subject template limit).1 = .ok report →
      ∃ pattern, s.patternFor raw = .ok pattern ∧ ∀ out,
        (substituteInto pattern.matcher () subject template limit out 0).result ≠
          .error (.error .outOfMemory) →
        (substituteInto pattern.matcher () subject template limit out 0).result = .ok report ∧
        (substituteInto pattern.matcher () subject template limit out 0).out.bytes =
          (s.replace raw subject template limit).2.output := by
  cases hPattern : s.patternFor raw with
  | error e =>
    rw [replace_of_error hPattern]
    exact ⟨fun _ _ => rfl, fun _ h => nomatch h⟩
  | ok pattern =>
    rw [replace_of_pattern hPattern]
    refine ⟨fun fault hFault => bytes_substituteInto_of_error hFault, ?_⟩
    intro report hReport
    dsimp only at hReport
    refine ⟨pattern, rfl, ?_⟩
    intro out hMemory
    have hMemory' : (substituteInto pattern.matcher () subject template limit s.buffer 0).result ≠
        .error (.error .outOfMemory) := by
      rw [hReport]
      exact fun h => nomatch h
    have hAlike := substituteInto_alike pattern.matcher () subject template limit out s.buffer 0
      hMemory hMemory'
    exact ⟨hAlike.result.trans hReport, hAlike.bytes⟩

def Alike (s s' : Session) : Prop := ∃ buffer, s' = { s with buffer }

theorem alike_replace (s : Session) (raw : Option ByteArray) (subject : ByteArray)
    (template : Template) (limit : Option Nat) :
    s.Alike (s.replace raw subject template limit).2 := by
  cases hPattern : s.patternFor raw with
  | error e =>
    rw [replace_of_error hPattern]
    exact ⟨_, rfl⟩
  | ok pattern =>
    rw [replace_of_pattern hPattern]
    exact ⟨_, rfl⟩

theorem Alike.trans {s₁ s₂ s₃ : Session} (h : s₁.Alike s₂) (h' : s₂.Alike s₃) : s₁.Alike s₃ := by
  obtain ⟨_, rfl⟩ := h
  obtain ⟨buffer, rfl⟩ := h'
  exact ⟨buffer, rfl⟩

theorem Alike.patternFor {s s' : Session} (h : s.Alike s') (raw : Option ByteArray) :
    s'.patternFor raw = s.patternFor raw := by
  obtain ⟨_, rfl⟩ := h
  rfl

/-- Sessions that find the same pattern substitute alike, whatever their buffers were used for. -/
theorem replace_of_same_pattern {s s' : Session} {raw : Option ByteArray} {subject : ByteArray}
    {template : Template} {limit : Option Nat} (hSame : s'.patternFor raw = s.patternFor raw)
    (hMemory : (s.replace raw subject template limit).1 ≠ .error (.error .outOfMemory))
    (hMemory' : (s'.replace raw subject template limit).1 ≠ .error (.error .outOfMemory)) :
    (s'.replace raw subject template limit).1 = (s.replace raw subject template limit).1 ∧
      (s'.replace raw subject template limit).2.output =
        (s.replace raw subject template limit).2.output := by
  cases hPattern : s.patternFor raw with
  | error e =>
    rw [replace_of_error hPattern, replace_of_error (hSame.trans hPattern)]
    exact ⟨rfl, rfl⟩
  | ok pattern =>
    rw [replace_of_pattern hPattern] at hMemory ⊢
    rw [replace_of_pattern (hSame.trans hPattern)] at hMemory' ⊢
    have hAlike := substituteInto_alike pattern.matcher () subject template limit s'.buffer
      s.buffer 0 hMemory' hMemory
    exact ⟨hAlike.result, hAlike.bytes⟩

theorem patternFor_of_init {constant : Option ByteArray} {options : SessionOptions}
    {s : Session} (h : Session.init constant options = .ok s) (raw : Option ByteArray) :
    s.patternFor raw = match constant.or raw with
      | some raw => CompiledPattern.ofDelimited raw options.limits
      | none => .error .emptyPattern := by
  unfold Session.init at h
  cases constant with
  | none =>
    cases h
    cases raw <;> rfl
  | some text =>
    dsimp only at h
    cases hCompile : CompiledPattern.ofDelimited text options.limits with
    | error e =>
      rw [hCompile] at h
      cases h
    | ok pattern =>
      rw [hCompile] at h
      cases h
      exact hCompile.symm

/-- A session is refused for a constant pattern that does not compile, and for nothing else. -/
theorem init_eq_error_iff {constant : Option ByteArray} {options : SessionOptions}
    {e : PatternError} : Session.init constant options = .error e ↔
      ∃ raw, constant = some raw ∧ CompiledPattern.ofDelimited raw options.limits = .error e := by
  unfold Session.init
  cases constant with
  | none =>
    constructor
    · intro h
      cases h
    · rintro ⟨raw, hRaw, _⟩
      cases hRaw
  | some text =>
    dsimp only
    cases hCompile : CompiledPattern.ofDelimited text options.limits with
    | error e' =>
      constructor
      · intro h
        cases h
        exact ⟨text, rfl, hCompile⟩
      · rintro ⟨raw, hRaw, hError⟩
        cases hRaw
        exact congrArg Except.error (Except.error.inj (hCompile.symm.trans hError))
    | ok pattern =>
      constructor
      · intro h
        cases h
      · rintro ⟨raw, hRaw, hError⟩
        cases hRaw
        cases hCompile.symm.trans hError

end Session

end PerlPattern
