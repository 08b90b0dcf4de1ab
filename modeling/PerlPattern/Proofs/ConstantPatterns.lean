import PerlPattern.Proofs.SessionFunctions

/-! # Constant patterns

A pattern that is the same on every row may be declared constant. It is then
compiled once, at the start, and a pattern that does not compile is refused
there. No row is answered otherwise than by its own pattern, compiled for it.
-/

namespace PerlPattern.Host

theorem SessionFunction.accepts_cons {F : SessionFunction} {first first' : Argument}
    {rest : Arguments} (h : F.Accepts (first :: rest)) : F.Accepts (first' :: rest) := by
  cases F <;> exact h

/-- A constant answer of the check of patterns is that of every row with the same pattern. -/
theorem Check.call_of_constant {args row : Arguments} (hSame : row.bytes? 0 = args.bytes? 0) :
    call ⟨if args.isConstant 0 then some (answer args) else none⟩ row = .value (answer row) := by
  unfold call
  split
  · unfold answer
    rw [hSame]
    rfl
  · rfl

/-- Declaring the pattern constant changes nothing but when it is compiled. A function in a session
refuses to start with a constant pattern exactly if it does not compile under the session's limits;
else it answers each row with that pattern as one that was not told of it, whatever rows either has
answered before, unless a row ends for want of memory. The check of patterns always starts. -/
theorem constant_pattern (settings : Settings) (P : ByteArray) (first first' : Argument)
    (rest : Arguments) (hConstant : first.isConstant = true)
    (hBytes : first.value.toBytes? = some P) (hVaries : first'.isConstant = false)
    (hNull : first'.value.isNullLiteral = false) :
    (∀ F : SessionFunction, F.Accepts (first :: rest) →
      (∀ error, F.init (first :: rest) settings = .error error ↔
        ∃ e, error = .pattern e ∧
          CompiledPattern.ofDelimited P settings.session.limits = .error e) ∧
      ∃ g, F.init (first' :: rest) settings = .ok g ∧
        ∀ f, F.init (first :: rest) settings = .ok f → ∀ rows rows' row,
          row.bytes? 0 = some P → ¬F.RunsOut (F.after f rows) row →
          ¬F.RunsOut (F.after g rows') row →
          (F.call (F.after f rows) row).1 = (F.call (F.after g rows') row).1) ∧
    ((first :: rest).length = 1 →
      ∃ f g, Check.init (first :: rest) = .ok f ∧ Check.init (first' :: rest) = .ok g ∧
        ∀ row, row.bytes? 0 = some P → Check.call f row = Check.call g row) := by
  constructor
  · intro F hAccepts
    have hAccepts' : F.Accepts (first' :: rest) := SessionFunction.accepts_cons hAccepts
    have hText : Arguments.isNullLiteral (first :: rest) 0 = false := by
      change first.value.isNullLiteral = false
      cases hValue : first.value with
      | nullLiteral =>
        rw [hValue] at hBytes
        cases hBytes
      | null | bytes | int | real => rfl
    have hDeclared : Arguments.declared? (first :: rest) = some P :=
      (if_pos hConstant).trans hBytes
    have hPerRow : Arguments.declared? (first' :: rest) = none :=
      if_neg fun hOther => Bool.false_ne_true (hVaries.symm.trans hOther)
    constructor
    · intro error
      rw [SessionFunction.init_eq_error_iff hAccepts hText]
      constructor
      · rintro ⟨raw, e, hRaw, hError, rfl⟩
        cases hDeclared.symm.trans hRaw
        exact ⟨e, rfl, hError⟩
      · rintro ⟨e, rfl, hError⟩
        exact ⟨P, e, hDeclared, hError, rfl⟩
    · cases hOther : F.init (first' :: rest) settings with
      | error error =>
        obtain ⟨_, _, hRaw, _⟩ := (SessionFunction.init_eq_error_iff hAccepts' hNull).mp hOther
        cases hPerRow.symm.trans hRaw
      | ok g =>
        refine ⟨g, rfl, ?_⟩
        intro f hInit rows rows' row hRow hMemory hMemory'
        obtain ⟨s, rfl, hFound⟩ := SessionFunction.state_of_init hAccepts hInit
        obtain ⟨s', rfl, hFound'⟩ := SessionFunction.state_of_init hAccepts' hOther
        obtain ⟨t, hAfter, hAlike⟩ := F.after_state settings.nullHandling s rows
        obtain ⟨t', hAfter', hAlike'⟩ := F.after_state settings.nullHandling s' rows'
        rw [hAfter] at hMemory ⊢
        rw [hAfter'] at hMemory' ⊢
        refine F.call_of_same_pattern settings.nullHandling ?_ hMemory' hMemory
        -- One session finds the constant pattern, the other one that of the row.
        rw [hAlike.patternFor, hAlike'.patternFor, hFound, hFound', hRow, hDeclared, hPerRow]
        rfl
  · intro hCount
    refine ⟨_, _, if_neg (not_not_intro hCount), if_neg (not_not_intro hCount), ?_⟩
    intro row hRow
    have hSame : row.bytes? 0 = Arguments.bytes? (first :: rest) 0 := hRow.trans hBytes.symm
    have hPerRow : ¬(Arguments.isConstant (first' :: rest) 0 = true) :=
      fun hOther => Bool.false_ne_true (hVaries.symm.trans hOther)
    rw [Check.call_of_constant hSame, if_neg hPerRow]
    rfl

/-- A constant pattern, in front of two columns of text. -/
def declared (P : ByteArray) : Arguments :=
  (Argument.ofValue (.bytes P)).constant :: List.replicate 2 (.ofValue (.null .string))

theorem Replace.init_declared {P : ByteArray} {pattern : CompiledPattern}
    (h : CompiledPattern.ofDelimited P default = .ok pattern) : Replace.init (declared P) {} =
      .ok ⟨⟨some pattern, { capacity := 1024000 }, {}⟩, .modern⟩ := by
  have hStart : Session.init (some P) {} = .ok ⟨some pattern, { capacity := 1024000 }, {}⟩ := by
    unfold Session.init
    dsimp only
    rw [h]
    rfl
  have hSession : initSession (declared P) .modern {} =
      .ok ⟨some pattern, { capacity := 1024000 }, {}⟩ := initSession_eq_ok rfl hStart
  exact congrArg (Except.map fun session => Replace.mk session .modern) hSession

theorem constant_pattern_declared :
    let columns : Arguments := List.replicate 3 (.ofValue (.null .string))
    let row := Replace.textRow "/b/" "x" "abbc"
    ∃ f g, Replace.init (declared "/b/".toUTF8) {} = .ok f ∧ Replace.init columns {} = .ok g ∧
      ¬f.RunsOut row ∧ ¬g.RunsOut row ∧ (f.call row).1 = (g.call row).1 := by
  intro columns row
  cases hCompile : CompiledPattern.ofDelimited "/b/".toUTF8 default with
  | error e =>
    have hOk : (CompiledPattern.ofDelimited "/b/".toUTF8 default).isOk = true := by decide +kernel
    rw [hCompile] at hOk
    cases hOk
  | ok pattern =>
    let f : Replace := ⟨⟨some pattern, { capacity := 1024000 }, {}⟩, .modern⟩
    let g : Replace := ⟨⟨none, { capacity := 1024000 }, {}⟩, .modern⟩
    have hInit : Replace.init (declared "/b/".toUTF8) {} = .ok f := Replace.init_declared hCompile
    have hInit' : Replace.init columns {} = .ok g := rfl
    have hRuns : ((CompiledPattern.ofDelimited "/b/".toUTF8 default).toOption.bind fun pattern =>
        (substituteWithin 9 pattern.matcher () "abbc".toUTF8 (Template.parse "x".toUTF8) none
          { capacity := 1024000 }).map fun s => (s.result.toOption, s.out.bytes.data,
            s.out.capacity)) = some (some { replacements := 2 }, #[97, 120, 120, 99], 1024000) := by
      decide +kernel
    have hRun' : g.run row = (.ok { replacements := 2 }, _) := Replace.run_of_within 9 hRuns
    rw [hCompile] at hRuns
    have hRun : f.run row = (.ok { replacements := 2 }, _) := Replace.run_of_within 9 hRuns
    have hMemory : ¬f.RunsOut row := by
      rintro ⟨_, hFull⟩
      rw [hRun] at hFull
      cases hFull
    have hMemory' : ¬g.RunsOut row := by
      rintro ⟨_, hFull⟩
      rw [hRun'] at hFull
      cases hFull
    obtain ⟨hSessions, _⟩ := constant_pattern {} "/b/".toUTF8
      (Argument.ofValue (.bytes "/b/".toUTF8)).constant (.ofValue (.null .string))
      (List.replicate 2 (.ofValue (.null .string))) rfl rfl rfl rfl
    obtain ⟨_, g', hOther, hCalls⟩ := hSessions .replace ⟨by decide, by decide⟩
    cases hOther.symm.trans hInit'
    exact ⟨f, g, hInit, hInit', hMemory, hMemory', hCalls f hInit [] [] row rfl hMemory hMemory'⟩

end PerlPattern.Host
