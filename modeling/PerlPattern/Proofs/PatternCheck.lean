import PerlPattern.Proofs.ConstantPatterns

/-! # What the check of patterns tells about the other functions

The functions that work in a session compile a pattern under the limits of their
settings. The check of patterns compiles it under the default limits, whatever
the settings are. So it tells whether the others take a pattern as far as the
two limits agree on it.
-/

namespace PerlPattern

theorem Delimited.parse_eq_error_of_size {raw : ByteArray} (h : raw.size = 0) :
    parse raw = .error .emptyPattern := by
  have hEmpty : raw.data.toList = [] := List.length_eq_zero_iff.mp h
  unfold parse
  rw [hEmpty]
  rfl

theorem CompiledPattern.isOk_ofDelimited_iff {raw : ByteArray} {limits : MatchLimits} :
    (ofDelimited raw limits).isOk = true ↔ ∃ p, ofDelimited raw limits = .ok p := by
  cases ofDelimited raw limits with
  | ok p => exact iff_of_true rfl ⟨p, rfl⟩
  | error e => exact iff_of_false nofun nofun

theorem CompiledPattern.check_iff {raw : ByteArray} :
    check raw = true ↔ ∃ p, ofDelimited raw default = .ok p := by
  unfold check
  cases ofDelimited raw default with
  | ok p => simp
  | error e => simp

theorem CompiledPattern.check_eq_false_of_size {raw : ByteArray} (h : raw.size = 0) :
    check raw = false := by
  unfold check ofDelimited
  rw [Delimited.parse_eq_error_of_size h]
  rfl

namespace Host

theorem Check.answer_eq {row : Arguments} {P : ByteArray} (h : row.bytes? 0 = some P) :
    answer row = (CompiledPattern.check P).toNat := by
  unfold answer
  rw [h]
  by_cases hEmpty : P.size = 0
  · simp [Option.filter, hEmpty, CompiledPattern.check_eq_false_of_size hEmpty]
  · simp [Option.filter, hEmpty]

theorem Check.init_call (first : Argument) (row : Arguments) {P : ByteArray}
    (hConstant : first.isConstant = true → first.value.toBytes? = some P)
    (hRow : row.bytes? 0 = some P) : ∃ f, init [first] = .ok f ∧
      call f row = .value (CompiledPattern.check P).toNat := by
  refine ⟨_, rfl, ?_⟩
  rw [← answer_eq hRow]
  by_cases hFirst : first.isConstant = true
  · have hSame : row.bytes? 0 = Arguments.bytes? [first] 0 := hRow.trans (hConstant hFirst).symm
    exact call_of_constant hSame
  · unfold call
    rw [show Arguments.isConstant [first] 0 = first.isConstant from rfl, if_neg hFirst]
    rfl

namespace SessionFunction

/-- Does a function that is started with `args`, and has answered `rows`, find a pattern for a row
with the text `P`? One that refuses to start finds none. -/
def Finds (F : SessionFunction) (args : Arguments) (settings : Settings) (rows : List Arguments)
    (P : ByteArray) : Prop :=
  ∃ f p, F.init args settings = .ok f ∧
    (F.session (F.after f rows)).patternFor (some P) = .ok p

variable {F : SessionFunction} {args : Arguments} {settings : Settings} {P : ByteArray}

/-- A function finds the patterns that compile under the limits of its settings, and no others. -/
theorem finds_iff (hAccepts : F.Accepts args) (hNull : args.isNullLiteral 0 = false)
    (hConstant : args.isConstant 0 = true → args.bytes? 0 = some P) (rows : List Arguments) :
    F.Finds args settings rows P ↔
      ∃ p, CompiledPattern.ofDelimited P settings.session.limits = .ok p := by
  constructor
  · rintro ⟨f, p, hInit, hFound⟩
    exact ⟨p, (patternFor_after hAccepts hConstant hInit rows).symm.trans hFound⟩
  · rintro ⟨p, hCompiles⟩
    cases hInit : F.init args settings with
    | ok f => exact ⟨f, p, hInit, (patternFor_after hAccepts hConstant hInit rows).trans hCompiles⟩
    | error error =>
      obtain ⟨raw, e, hDeclared, hError, -⟩ := (init_eq_error_iff hAccepts hNull).mp hInit
      have hSame := declared?_or hConstant
      rw [hDeclared] at hSame
      cases hSame
      cases hCompiles.symm.trans hError

end SessionFunction

/-- The check answers 1 for the patterns that compile under the default limits, and 0 for all
others. A function in a session finds those that compile under the limits of its settings, so the
check foretells it exactly where both limits accept the pattern or both refuse it. -/
theorem check_foretells {F : SessionFunction} (settings : Settings) {P : ByteArray}
    (first : Argument) (args row : Arguments) (hAccepts : F.Accepts args)
    (hNull : args.isNullLiteral 0 = false)
    (hFirst : first.isConstant = true → first.value.toBytes? = some P)
    (hConstant : args.isConstant 0 = true → args.bytes? 0 = some P)
    (hRow : row.bytes? 0 = some P) (rows : List Arguments) :
    let Compiles (limits : MatchLimits) := ∃ p, CompiledPattern.ofDelimited P limits = .ok p
    ∃ f n, Check.init [first] = .ok f ∧ Check.call f row = .value n ∧ n ≤ 1 ∧
      (n = 1 ↔ Compiles default) ∧
      (F.Finds args settings rows P ↔ Compiles settings.session.limits) ∧
      ((n = 1 ↔ F.Finds args settings rows P) ↔
        (Compiles default ↔ Compiles settings.session.limits)) := by
  intro Compiles
  obtain ⟨f, hInit, hCall⟩ := Check.init_call first row hFirst hRow
  have hAnswer : (CompiledPattern.check P).toNat = 1 ↔ Compiles default :=
    Iff.trans (by simp) CompiledPattern.check_iff
  have hFinds : F.Finds args settings rows P ↔ Compiles settings.session.limits :=
    SessionFunction.finds_iff hAccepts hNull hConstant rows
  refine ⟨f, _, hInit, hCall, Bool.toNat_le _, hAnswer, hFinds, ?_⟩
  rw [hAnswer, hFinds]

def nestedTwice : Settings := Settings.withLimits {} (MatchLimits.withRecursionLimit default 2)

theorem check_foretells_columns :
    let column := Argument.ofValue (.null .string)
    let row : Arguments := [.ofValue (.bytes "/a(?=b)/".toUTF8)]
    ∃ f n, Check.init [column] = .ok f ∧ Check.call f row = .value n ∧ n = 1 ∧
      SessionFunction.rlike.Finds [column, column] nestedTwice [] "/a(?=b)/".toUTF8 := by
  intro column row
  obtain ⟨f, n, hInit, hCall, -, hAnswer, hFinds, -⟩ := check_foretells (F := .rlike) nestedTwice
    column [column, column] row rfl rfl (fun h => nomatch h) (fun h => nomatch h) rfl []
  have hDefault : (CompiledPattern.ofDelimited "/a(?=b)/".toUTF8 default).isOk = true := by
    decide +kernel
  have hNested : (CompiledPattern.ofDelimited "/a(?=b)/".toUTF8 nestedTwice.session.limits).isOk =
      true := by decide +kernel
  exact ⟨f, n, hInit, hCall, hAnswer.mpr (CompiledPattern.isOk_ofDelimited_iff.mp hDefault),
    hFinds.mpr (CompiledPattern.isOk_ofDelimited_iff.mp hNested)⟩

/-- Six groups one in the other. -/
def sixGroups : ByteArray := "/((((((a))))))/".toUTF8

/-- The check answers 1 where a function with the same settings finds no pattern. -/
theorem check_foretells_nothing_nested :
    let column := Argument.ofValue (.null .string)
    ∃ f, Check.init [column] = .ok f ∧ Check.call f [.ofValue (.bytes sixGroups)] = .value 1 ∧
      ¬SessionFunction.rlike.Finds [column, column] nestedTwice [] sixGroups := by
  intro column
  obtain ⟨f, hInit, hCall⟩ := Check.init_call column [.ofValue (.bytes sixGroups)] (P := sixGroups)
    (fun h => nomatch h) rfl
  have hChecked : CompiledPattern.check sixGroups = true := by decide +kernel
  have hNested : (CompiledPattern.ofDelimited sixGroups nestedTwice.session.limits).isOk = false := by
    decide +kernel
  rw [hChecked] at hCall
  refine ⟨f, hInit, hCall, ?_⟩
  intro hFinds
  have hAccepts : SessionFunction.rlike.Accepts [column, column] := rfl
  have hCompiles := (SessionFunction.finds_iff hAccepts rfl (fun h => nomatch h) []).mp hFinds
  exact Bool.false_ne_true (hNested.symm.trans (CompiledPattern.isOk_ofDelimited_iff.mpr hCompiles))

end Host

end PerlPattern
