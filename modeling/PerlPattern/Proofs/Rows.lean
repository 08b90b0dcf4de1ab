import PerlPattern.Host.Replace
import PerlPattern.Proofs.EngineSearch
import PerlPattern.Proofs.SearchBound
import PerlPattern.Proofs.Sessions
import PerlPattern.Proofs.ShortRuns

/-! # Rows of one query

All that one call of the replacement function leaves for the next is its buffer,
and no substitution depends on what its buffer was used for before. So every row
is answered as if it were the first one.
-/

namespace PerlPattern

theorem Host.init_of_initSession {args : Arguments} {nullHandling : NullHandling}
    {options : SessionOptions} {s : Session}
    (h : initSession args nullHandling options = .ok s) :
    Session.init (if args.isConstant 0 then args.bytes? 0 else none) options = .ok s := by
  unfold initSession at h
  split at h
  · cases h
  · dsimp only at h
    split at h
    · rename_i session hSession
      cases h
      exact hSession
    · cases h

namespace Host.Replace

/-- The substitution that a row asks of the session. -/
def run (f : Replace) (row : Arguments) : Except PassFault SubstitutionReport × Session :=
  f.session.replace (row.bytes? 0) ((row.bytes? 2).getD .empty)
    (Template.parse ((row.bytes? 1).getD .empty)) (limit? row)

/-- Is a row answered without any substitution? -/
def Skips (f : Replace) (row : Arguments) : Prop :=
  f.nullHandling = .modern ∧ (row.isNullLiteral 2 = true ∨ row.isNullLiteral 0 = true)

/-- Does a row end for want of memory? -/
def RunsOut (f : Replace) (row : Arguments) : Prop :=
  ¬f.Skips row ∧ (f.run row).1 = .error (.error .outOfMemory)

def afterRows (f : Replace) (rows : List Arguments) : Replace :=
  rows.foldl (fun f row => (f.call row).2) f

theorem call_of_skips {f : Replace} {row : Arguments} (h : f.Skips row) :
    f.call row = (.null, f) := if_pos h

def answerOf (f : Replace) (row : Arguments)
    (run : Except PassFault SubstitutionReport × Session) : Answer Replaced :=
  match run.1 with
  | .ok report =>
    if f.nullHandling = .modern ∧ row.isNullLiteral 1 = true ∧
        run.2.output.data ≠ ((row.bytes? 2).getD .empty).data then .null
    else .value { bytes := run.2.output, count := report.replacements }
  | .error fault => .failed name (faultMessage fault)

theorem call_of_runs {f : Replace} {row : Arguments} (h : ¬f.Skips row) :
    f.call row = (f.answerOf row (f.run row), { f with session := (f.run row).2 }) := by
  unfold call
  extract_lets modern replacement subject
  have hGoesOn : ¬(modern ∧ (row.isNullLiteral 2 = true ∨ row.isNullLiteral 0 = true)) := h
  rw [if_neg hGoesOn]
  rcases hRun : f.run row with ⟨result, session⟩
  rw [show f.session.replace (row.bytes? 0) subject (Template.parse replacement) (limit? row) =
    (result, session) from hRun]
  cases result with
  | error fault => rfl
  | ok report =>
    dsimp only
    split
    · rename_i hNull
      exact congrArg (·, _) (if_pos hNull).symm
    · rename_i hNull
      exact congrArg (·, _) (if_neg hNull).symm

structure Alike (f g : Replace) : Prop where
  session : f.session.Alike g.session
  nullHandling : g.nullHandling = f.nullHandling

theorem Alike.refl (f : Replace) : f.Alike f := ⟨⟨f.session.buffer, rfl⟩, rfl⟩

theorem Alike.trans {f g h : Replace} (hFirst : f.Alike g) (hThen : g.Alike h) : f.Alike h :=
  ⟨hFirst.session.trans hThen.session, hThen.nullHandling.trans hFirst.nullHandling⟩

/-- A row changes nothing but the buffer, whatever becomes of it. -/
theorem alike_call (f : Replace) (row : Arguments) : f.Alike (f.call row).2 := by
  by_cases hSkips : f.Skips row
  · rw [call_of_skips hSkips]
    exact .refl f
  · rw [call_of_runs hSkips]
    exact ⟨f.session.alike_replace _ _ _ _, rfl⟩

theorem alike_afterRows (f : Replace) (rows : List Arguments) : f.Alike (f.afterRows rows) := by
  induction rows generalizing f with
  | nil => exact .refl f
  | cons row rows ih => exact (f.alike_call row).trans (ih (f.call row).2)

/-- Functions that find the same pattern for a row answer it alike. -/
theorem call_of_same_pattern {f g : Replace} {row : Arguments}
    (hHandling : g.nullHandling = f.nullHandling)
    (hSame : g.session.patternFor (row.bytes? 0) = f.session.patternFor (row.bytes? 0))
    (hMemory : ¬f.RunsOut row) (hMemory' : ¬g.RunsOut row) : (g.call row).1 = (f.call row).1 := by
  have hSkipsIff : g.Skips row ↔ f.Skips row := by
    unfold Skips
    rw [hHandling]
  by_cases hSkips : f.Skips row
  · rw [call_of_skips hSkips, call_of_skips (hSkipsIff.mpr hSkips)]
  · have hSkips' : ¬g.Skips row := fun hOther => hSkips (hSkipsIff.mp hOther)
    obtain ⟨hResult, hOutput⟩ := Session.replace_of_same_pattern hSame
      (fun hFull => hMemory ⟨hSkips, hFull⟩) (fun hFull => hMemory' ⟨hSkips', hFull⟩)
    rw [call_of_runs hSkips, call_of_runs hSkips']
    unfold answerOf run
    rw [hHandling, hResult, hOutput]

theorem Alike.call_eq {f g : Replace} (h : f.Alike g) {row : Arguments} (hMemory : ¬f.RunsOut row)
    (hMemory' : ¬g.RunsOut row) : (g.call row).1 = (f.call row).1 :=
  call_of_same_pattern h.nullHandling (h.session.patternFor _) hMemory hMemory'

/-- The pattern of a row: the constant one that the function was started with, else its own. A
missing pattern is empty. -/
def patternOf (args : Arguments) (settings : Settings) (row : Arguments) :
    Result CompiledPattern :=
  match (if args.isConstant 0 then args.bytes? 0 else none).or (row.bytes? 0) with
  | some raw => CompiledPattern.ofDelimited raw settings.session.limits
  | none => .error .emptyPattern

/-- The substitution of a row by itself, into a new buffer. -/
def substituteRow (pattern : CompiledPattern) (row : Arguments) : Substitution Unit :=
  substitute pattern.matcher () ((row.bytes? 2).getD .empty)
    (Template.parse ((row.bytes? 1).getD .empty))
    (((row.int? 3).filter fun n : Int => 0 ≤ n ∧ n ≤ maxLimit).map Int.toNat) 0

/-- The answer to a row by itself. -/
inductive Answers (args : Arguments) (settings : Settings) (row : Arguments) :
    Answer Replaced → Prop
  | refused (e : PatternError) (hPattern : patternOf args settings row = .error e) :
    Answers args settings row (.failed name e.message)
  | replaced (pattern : CompiledPattern) (report : SubstitutionReport)
      (hPattern : patternOf args settings row = .ok pattern)
      (hResult : (substituteRow pattern row).result = .ok report) :
    Answers args settings row
      (.value { bytes := (substituteRow pattern row).out.bytes, count := report.replacements })
  | failed (pattern : CompiledPattern) (e : PatternError)
      (hPattern : patternOf args settings row = .ok pattern)
      (hResult : (substituteRow pattern row).result = .error (.error e)) :
    Answers args settings row (.failed name e.message)

theorem limit?_eq (row : Arguments) : limit? row =
    ((row.int? 3).filter fun n : Int => 0 ≤ n ∧ n ≤ maxLimit).map Int.toNat := by
  unfold limit?
  cases row.int? 3 with
  | none => rfl
  | some n =>
    dsimp only
    rw [Option.filter_some]
    by_cases hLimit : 0 ≤ n ∧ n ≤ maxLimit
    · rw [if_pos hLimit, if_pos (decide_eq_true hLimit)]
      rfl
    · rw [if_neg hLimit, if_neg (by simpa using hLimit)]
      rfl

theorem limits_options (args : Arguments) (o : SessionOptions) :
    (options args o).limits = o.limits := by
  unfold options
  dsimp only
  split <;> rfl

theorem session_of_init {args : Arguments} {settings : Settings} {f : Replace}
    (hInit : init args settings = .ok f) :
    initSession args settings.nullHandling (options args settings.session) = .ok f.session ∧
      f.nullHandling = settings.nullHandling := by
  unfold init at hInit
  split at hInit
  · cases hInit
  · split at hInit
    · cases hInit
    · cases hStart : initSession args settings.nullHandling (options args settings.session) with
      | error e =>
        rw [hStart] at hInit
        cases hInit
      | ok session =>
        rw [hStart] at hInit
        cases hInit
        exact ⟨rfl, rfl⟩

theorem patternFor_of_init {args : Arguments} {settings : Settings} {f : Replace}
    (hInit : init args settings = .ok f) (row : Arguments) :
    f.session.patternFor (row.bytes? 0) = patternOf args settings row := by
  rw [Session.patternFor_of_init (init_of_initSession (session_of_init hInit).1), limits_options]
  rfl

theorem answers_of_alike {args : Arguments} {settings : Settings} {f g : Replace}
    (hInit : init args settings = .ok f) (hAlike : f.Alike g) {row : Arguments}
    (hLiteral : ∀ index ∈ [0, 1, 2], row.isNullLiteral index = false) (hMemory : ¬g.RunsOut row)
    (hMemory' : ∀ pattern, patternOf args settings row = .ok pattern →
      (substituteRow pattern row).result ≠ .error (.error .outOfMemory)) :
    Answers args settings row (g.call row).1 := by
  have hSkips : ¬g.Skips row := by
    rintro ⟨_, hNull | hNull⟩
    · rw [hLiteral 2 (by decide)] at hNull
      cases hNull
    · rw [hLiteral 0 (by decide)] at hNull
      cases hNull
  have hFound : g.session.patternFor (row.bytes? 0) = patternOf args settings row :=
    (hAlike.session.patternFor _).trans (patternFor_of_init hInit row)
  have hNotNull : ¬(row.isNullLiteral 1 = true) := by
    rw [hLiteral 1 (by decide)]
    exact Bool.false_ne_true
  rw [call_of_runs hSkips]
  cases hPattern : patternOf args settings row with
  | error e =>
    rw [run, Session.replace_of_error (hFound.trans hPattern)]
    exact .refused e hPattern
  | ok pattern =>
    have hRun : g.run row = _ := Session.replace_of_pattern (hFound.trans hPattern) _ _ _
    have hAlone : (substituteInto pattern.matcher () ((row.bytes? 2).getD .empty)
        (Template.parse ((row.bytes? 1).getD .empty)) (limit? row) g.session.buffer 0).Alike
        (substituteRow pattern row) := by
      unfold substituteRow
      rw [← limit?_eq]
      refine substituteInto_alike pattern.matcher () _ _ _ _ {} 0 ?_ ?_
      · intro hFull
        refine hMemory ⟨hSkips, ?_⟩
        rw [hRun]
        exact hFull
      · rw [limit?_eq]
        exact hMemory' pattern hPattern
    have hOutput : (g.run row).2.output = (substituteRow pattern row).out.bytes := by
      rw [hRun]
      exact hAlone.bytes
    have hResult : (g.run row).1 = (substituteRow pattern row).result := by
      rw [hRun]
      exact hAlone.result
    unfold answerOf
    rw [hResult, hOutput]
    cases hEnd : (substituteRow pattern row).result with
    | ok report =>
      dsimp only
      rw [if_neg fun hNull => hNotNull hNull.2.1]
      exact .replaced pattern report hPattern hEnd
    | error fault =>
      obtain ⟨report, hReport⟩ | ⟨e, hError⟩ := substituteInto_result
        (pattern.matcher_countsWhole _) () (Template.parse ((row.bytes? 1).getD .empty))
        (((row.int? 3).filter fun n : Int => 0 ≤ n ∧ n ≤ maxLimit).map Int.toNat) {} 0
      · exact nomatch hEnd.symm.trans hReport
      · cases hEnd.symm.trans hError
        exact .failed pattern e hPattern hEnd

/-- Rows do not leak into each other. After any rows, a row is answered as by a function that has
just been started, and as by its own substitution into a new buffer; a session is left with nothing
but the output of the call that it answered last. -/
theorem calls_independent {args : Arguments} {settings : Settings} {f : Replace}
    (hInit : init args settings = .ok f) (rows : List Arguments) :
    (∀ row, ¬f.RunsOut row → ¬(f.afterRows rows).RunsOut row →
      ((f.afterRows rows).call row).1 = (f.call row).1) ∧
    (∀ row, (∀ index ∈ [0, 1, 2], row.isNullLiteral index = false) →
      ¬(f.afterRows rows).RunsOut row →
      (∀ pattern, patternOf args settings row = .ok pattern →
        (substituteRow pattern row).result ≠ .error (.error .outOfMemory)) →
      Answers args settings row ((f.afterRows rows).call row).1) ∧
    ∀ (s : Session) raw subject template limit,
      (∀ fault, (s.replace raw subject template limit).1 = .error fault →
        (s.replace raw subject template limit).2.output = .empty) ∧
      ∀ report, (s.replace raw subject template limit).1 = .ok report →
        ∃ pattern, s.patternFor raw = .ok pattern ∧ ∀ out,
          (substituteInto pattern.matcher () subject template limit out 0).result ≠
            .error (.error .outOfMemory) →
          (substituteInto pattern.matcher () subject template limit out 0).result = .ok report ∧
          (substituteInto pattern.matcher () subject template limit out 0).out.bytes =
            (s.replace raw subject template limit).2.output := by
  have hAlike := f.alike_afterRows rows
  refine ⟨?_, ?_, ?_⟩
  · intro row hMemory hMemory'
    exact hAlike.call_eq hMemory hMemory'
  · intro row hLiteral hMemory hMemory'
    exact answers_of_alike hInit hAlike hLiteral hMemory hMemory'
  · intro s raw subject template limit
    exact s.output_replace raw subject template limit

def textRow (pattern replacement subject : String) : Arguments :=
  [pattern, replacement, subject].map fun text => .ofValue (.bytes text.toUTF8)

theorem not_skips_textRow (f : Replace) (pattern replacement subject : String) :
    ¬f.Skips (textRow pattern replacement subject) := by
  rintro ⟨_, hNull | hNull⟩
  · cases hNull
  · cases hNull

/-- What is computed of a short run holds of the whole row. -/
theorem run_of_within (rounds : Nat) {f : Replace} {row : Arguments} {report : SubstitutionReport}
    {bytes : Array UInt8} {capacity : Nat}
    (h : ((f.session.patternFor (row.bytes? 0)).toOption.bind fun pattern =>
      (substituteWithin rounds pattern.matcher () ((row.bytes? 2).getD .empty)
        (Template.parse ((row.bytes? 1).getD .empty)) (limit? row) f.session.buffer).map
          fun s => (s.result.toOption, s.out.bytes.data, s.out.capacity)) =
      some (some report, bytes, capacity)) :
    f.run row = (.ok report, { f.session with buffer := ⟨⟨bytes⟩, capacity⟩ }) := by
  cases hPattern : f.session.patternFor (row.bytes? 0) with
  | error e =>
    rw [hPattern] at h
    cases h
  | ok pattern =>
    rw [hPattern] at h
    have hAll := substituteInto_of_within rounds
      (fun s => (s.result.toOption, s.out.bytes.data, s.out.capacity)) h 0
    obtain ⟨hReport, hOut⟩ := Prod.mk.inj hAll
    obtain ⟨rfl, rfl⟩ := Prod.mk.inj hOut
    rw [run, Session.replace_of_pattern hPattern, eq_ok_of_toOption hReport]

theorem calls_independent_texts :
    let args : Arguments := List.replicate 3 (.ofValue (.null .string))
    let f : Replace := ⟨⟨none, { capacity := 1024000 }, {}⟩, .modern⟩
    let rows := [textRow "abc" "-" "abc", textRow "/b/" "-" "ab"]
    let row := textRow "/b/" "x" "abbc"
    init args {} = .ok f ∧ ¬f.RunsOut row ∧ ¬(f.afterRows rows).RunsOut row ∧
      ((f.afterRows rows).call row).1 = (f.call row).1 ∧
      Answers args {} row ((f.afterRows rows).call row).1 ∧
      (f.run (textRow "abc" "-" "abc")).2.output = .empty := by
  intro args f rows row
  have hInit : init args {} = .ok f := rfl
  have hFirst : f.run (textRow "abc" "-" "abc") = (.error (.error .badDelimiter), f.session) :=
    Session.replace_of_error rfl _ _ _
  have hSecond : f.run (textRow "/b/" "-" "ab") =
      (.ok { replacements := 1 }, ⟨none, ⟨⟨#[97, 45]⟩, 1024000⟩, {}⟩) :=
    run_of_within 9 (by decide +kernel)
  have hRows : f.afterRows rows = ⟨⟨none, ⟨⟨#[97, 45]⟩, 1024000⟩, {}⟩, .modern⟩ := by
    have hStart : (f.call (textRow "abc" "-" "abc")).2 = f := by
      rw [call_of_runs (f.not_skips_textRow _ _ _), hFirst]
    change ((f.call (textRow "abc" "-" "abc")).2.call (textRow "/b/" "-" "ab")).2 = _
    rw [hStart, call_of_runs (f.not_skips_textRow _ _ _), hSecond]
  have hFresh : f.run row =
      (.ok { replacements := 2 }, ⟨none, ⟨⟨#[97, 120, 120, 99]⟩, 1024000⟩, {}⟩) :=
    run_of_within 9 (by decide +kernel)
  have hLater : (f.afterRows rows).run row =
      (.ok { replacements := 2 }, ⟨none, ⟨⟨#[97, 120, 120, 99]⟩, 1024000⟩, {}⟩) := by
    rw [hRows]
    exact run_of_within 9 (by decide +kernel)
  have hMemory : ¬f.RunsOut row := by
    rintro ⟨_, hFull⟩
    rw [hFresh] at hFull
    cases hFull
  have hMemory' : ¬(f.afterRows rows).RunsOut row := by
    rintro ⟨_, hFull⟩
    rw [hLater] at hFull
    cases hFull
  have hIndependent := calls_independent hInit rows
  refine ⟨hInit, hMemory, hMemory', hIndependent.1 row hMemory hMemory', ?_, ?_⟩
  · refine hIndependent.2.1 row (by decide) hMemory' ?_
    intro pattern hPattern hFull
    have hAlone : ((patternOf args {} row).toOption.bind fun pattern =>
        (substituteWithin 9 pattern.matcher () "abbc".toUTF8 (Template.parse "x".toUTF8) none
          {}).map fun s => s.result.toOption) = some (some { replacements := 2 }) := by
      decide +kernel
    rw [hPattern] at hAlone
    have hOk : (substituteRow pattern row).result = .ok { replacements := 2 } :=
      result_of_within 9 hAlone 0
    rw [hOk] at hFull
    cases hFull
  · exact (hIndependent.2.2 f.session _ _ _ _).1 _ (congrArg Prod.fst hFirst)

end Host.Replace

end PerlPattern
