import PerlPattern.Host.Functions
import PerlPattern.Proofs.Rows

/-! # Functions that work in a session

Four host functions start a session with their first argument as the pattern and
answer row by row in it. They differ in the arguments that they accept and in
what they answer; whether they start, and which pattern they find for a row, is
up to the session alone.
-/

namespace PerlPattern.Host

inductive SessionFunction where
  | replace
  | capture
  | position
  | rlike
  deriving Repr, DecidableEq

namespace SessionFunction

def State : SessionFunction → Type
  | replace => Replace
  | capture | position => GroupFunction
  | rlike => Rlike

def Output : SessionFunction → Type
  | replace => Replaced
  | capture => ByteArray
  | position | rlike => Nat

def init : (F : SessionFunction) → Arguments → Settings → Except InitError F.State
  | replace => Replace.init
  | capture => Capture.init
  | position => Position.init
  | rlike => Rlike.init

def call : (F : SessionFunction) → F.State → Arguments → Answer F.Output × F.State
  | replace => Replace.call
  | capture => fun f row => (Capture.call f row, f)
  | position => fun f row => (Position.call f row, f)
  | rlike => fun f row => (Rlike.call f row, f)

def after (F : SessionFunction) (f : F.State) (rows : List Arguments) : F.State :=
  rows.foldl (fun f row => (F.call f row).2) f

/-- As many arguments as the function takes, with an integer in the fourth place if it reads one. -/
def Accepts : SessionFunction → Arguments → Prop
  | replace, args => 3 ≤ args.length ∧ ∀ kind ∈ args.kind? 3, kind = .int
  | capture, args | position, args => 2 ≤ args.length ∧ ∀ kind ∈ args.kind? 3, kind = .int
  | rlike, args => args.length = 2

/-- Does a row end for want of memory? Only the buffer of a replacement depends on earlier rows. -/
def RunsOut : (F : SessionFunction) → F.State → Arguments → Prop
  | replace => Replace.RunsOut
  | capture | position | rlike => fun _ _ => False

def options : SessionFunction → Arguments → SessionOptions → SessionOptions
  | replace => Replace.options
  | capture | position | rlike => fun _ o => o

theorem limits_options (F : SessionFunction) (args : Arguments) (o : SessionOptions) :
    (F.options args o).limits = o.limits := by
  cases F with
  | replace => exact Replace.limits_options args o
  | capture | position | rlike => rfl

def state : (F : SessionFunction) → NullHandling → Session → F.State
  | replace => fun nullHandling session => Replace.mk session nullHandling
  | capture | position => fun nullHandling session => GroupFunction.mk session nullHandling
  | rlike => fun _ session => Rlike.mk session

end SessionFunction

section Starting

variable {args : Arguments} {settings : Settings}

theorem not_kind_iff {index : Nat} : ¬((args.kind? index).any (· ≠ ArgumentKind.int) = true) ↔
    ∀ kind ∈ args.kind? index, kind = .int := by
  cases args.kind? index with
  | none => simp
  | some kind => simp

theorem GroupFunction.init_eq (function : String) (hCount : 2 ≤ args.length)
    (hKind : ∀ kind ∈ args.kind? 3, kind = .int) : GroupFunction.init function args settings =
      (initSession args settings.nullHandling settings.session).map fun session =>
        { session, nullHandling := settings.nullHandling } := by
  unfold GroupFunction.init
  rw [if_neg (Nat.not_lt.mpr hCount), if_neg (not_kind_iff.mpr hKind)]

theorem SessionFunction.init_eq {F : SessionFunction} (hAccepts : F.Accepts args) :
    F.init args settings =
      (initSession args settings.nullHandling (F.options args settings.session)).map
        (F.state settings.nullHandling) := by
  cases F with
  | replace =>
    change Replace.init args settings = _
    unfold Replace.init
    rw [if_neg (Nat.not_lt.mpr hAccepts.1), if_neg (not_kind_iff.mpr hAccepts.2)]
    rfl
  | capture => exact GroupFunction.init_eq Capture.name hAccepts.1 hAccepts.2
  | position => exact GroupFunction.init_eq Position.name hAccepts.1 hAccepts.2
  | rlike =>
    have hCount : args.length = 2 := hAccepts
    exact if_neg (not_not_intro hCount)

theorem GroupFunction.accepts_of_init {function : String} {f : GroupFunction}
    (h : GroupFunction.init function args settings = .ok f) :
    2 ≤ args.length ∧ ∀ kind ∈ args.kind? 3, kind = .int := by
  unfold GroupFunction.init at h
  split at h
  · cases h
  · rename_i hCount
    split at h
    · cases h
    · rename_i hKind
      exact ⟨Nat.not_lt.mp hCount, not_kind_iff.mp hKind⟩

theorem SessionFunction.accepts_of_init {F : SessionFunction} {f : F.State}
    (h : F.init args settings = .ok f) : F.Accepts args := by
  cases F with
  | replace =>
    change Replace.init args settings = .ok f at h
    unfold Replace.init at h
    split at h
    · cases h
    · rename_i hCount
      split at h
      · cases h
      · rename_i hKind
        exact ⟨Nat.not_lt.mp hCount, not_kind_iff.mp hKind⟩
  | capture | position => exact GroupFunction.accepts_of_init h
  | rlike =>
    change Rlike.init args settings = .ok f at h
    unfold Rlike.init at h
    split at h
    · cases h
    · rename_i hCount
      exact (Decidable.not_not.mp hCount : args.length = 2)

/-- The pattern that is declared constant. -/
def Arguments.declared? (args : Arguments) : Option ByteArray :=
  if args.isConstant 0 then args.bytes? 0 else none

theorem initSession_eq_ok {nullHandling : NullHandling} {options : SessionOptions} {s : Session}
    (hNull : args.isNullLiteral 0 = false) (h : Session.init args.declared? options = .ok s) :
    initSession args nullHandling options = .ok s := by
  unfold Arguments.declared? at h
  unfold initSession
  rw [if_neg fun hLegacy => Bool.false_ne_true (hNull.symm.trans hLegacy.1)]
  dsimp only
  rw [h]

theorem initSession_eq_error_iff {nullHandling : NullHandling} {options : SessionOptions}
    {error : InitError} (hNull : args.isNullLiteral 0 = false) :
    initSession args nullHandling options = .error error ↔
      ∃ raw e, args.declared? = some raw ∧
        CompiledPattern.ofDelimited raw options.limits = .error e ∧ error = .pattern e := by
  cases hStart : Session.init args.declared? options with
  | ok session =>
    rw [initSession_eq_ok hNull hStart]
    constructor
    · intro h
      cases h
    · rintro ⟨raw, e, hDeclared, hError, rfl⟩
      rw [Session.init_eq_error_iff.mpr ⟨raw, hDeclared, hError⟩] at hStart
      cases hStart
  | error e =>
    have hRefused : initSession args nullHandling options = .error (.pattern e) := by
      unfold Arguments.declared? at hStart
      unfold initSession
      rw [if_neg fun hLegacy => Bool.false_ne_true (hNull.symm.trans hLegacy.1)]
      dsimp only
      rw [hStart]
    obtain ⟨raw, hDeclared, hError⟩ := Session.init_eq_error_iff.mp hStart
    rw [hRefused]
    constructor
    · intro h
      cases h
      exact ⟨raw, e, hDeclared, hError, rfl⟩
    · rintro ⟨raw', e', hDeclared', hError', rfl⟩
      cases hDeclared.symm.trans hDeclared'
      cases hError.symm.trans hError'
      rfl

end Starting

namespace SessionFunction

variable {F : SessionFunction} {args : Arguments} {settings : Settings}

theorem init_eq_error_iff {error : InitError} (hAccepts : F.Accepts args)
    (hNull : args.isNullLiteral 0 = false) : F.init args settings = .error error ↔
      ∃ raw e, args.declared? = some raw ∧
        CompiledPattern.ofDelimited raw settings.session.limits = .error e ∧
        error = .pattern e := by
  rw [init_eq hAccepts, ← F.limits_options args settings.session,
    ← initSession_eq_error_iff hNull]
  cases initSession args settings.nullHandling (F.options args settings.session) with
  | error e =>
    constructor
    · intro h
      cases h
      rfl
    · intro h
      cases h
      rfl
  | ok session =>
    constructor
    · intro h
      cases h
    · intro h
      cases h

/-- A function that has started finds the constant pattern for each row, if there is one, else the
pattern of the row. -/
theorem state_of_init {f : F.State} (hAccepts : F.Accepts args)
    (hInit : F.init args settings = .ok f) : ∃ s : Session,
      f = F.state settings.nullHandling s ∧ ∀ raw, s.patternFor raw =
        match args.declared?.or raw with
        | some raw => CompiledPattern.ofDelimited raw settings.session.limits
        | none => .error .emptyPattern := by
  rw [init_eq hAccepts] at hInit
  cases hStart : initSession args settings.nullHandling (F.options args settings.session) with
  | error e =>
    rw [hStart] at hInit
    cases hInit
  | ok session =>
    rw [hStart] at hInit
    cases hInit
    refine ⟨session, rfl, ?_⟩
    intro raw
    have hFound := Session.patternFor_of_init (init_of_initSession hStart) raw
    rw [limits_options] at hFound
    exact hFound

theorem after_state (F : SessionFunction) (nullHandling : NullHandling) (s : Session)
    (rows : List Arguments) : ∃ s' : Session, F.after (F.state nullHandling s) rows =
      F.state nullHandling s' ∧ s.Alike s' := by
  have hSame : ∀ G : SessionFunction, (∀ g row, (G.call g row).2 = g) →
      G.after (G.state nullHandling s) rows = G.state nullHandling s := by
    intro G hCall
    unfold after
    rw [show (fun g row => (G.call g row).2) = fun g _ => g from funext fun g => funext (hCall g)]
    induction rows with
    | nil => rfl
    | cons row rows ih => exact ih
  cases F with
  | replace =>
    obtain ⟨hSession, hHandling⟩ := (Replace.mk s nullHandling).alike_afterRows rows
    refine ⟨_, ?_, hSession⟩
    exact congrArg (Replace.mk _) hHandling
  | capture => exact ⟨s, hSame .capture fun _ _ => rfl, s.buffer, rfl⟩
  | position => exact ⟨s, hSame .position fun _ _ => rfl, s.buffer, rfl⟩
  | rlike => exact ⟨s, hSame .rlike fun _ _ => rfl, s.buffer, rfl⟩

def session : (F : SessionFunction) → F.State → Session
  | replace => Replace.session
  | capture | position => GroupFunction.session
  | rlike => Rlike.session

@[simp] theorem session_state (F : SessionFunction) (nullHandling : NullHandling) (s : Session) :
    F.session (F.state nullHandling s) = s := by
  cases F <;> rfl

theorem declared?_or {P : ByteArray}
    (hConstant : args.isConstant 0 = true → args.bytes? 0 = some P) :
    args.declared?.or (some P) = some P := by
  unfold Arguments.declared?
  split
  · rename_i h
    rw [hConstant h]
    rfl
  · rfl

/-- A function in a session compiles the pattern of each row under the limits of its settings, or has
done so at the start. -/
theorem patternFor_after {f : F.State} {P : ByteArray} (hAccepts : F.Accepts args)
    (hConstant : args.isConstant 0 = true → args.bytes? 0 = some P)
    (hInit : F.init args settings = .ok f) (rows : List Arguments) :
    (F.session (F.after f rows)).patternFor (some P) =
      CompiledPattern.ofDelimited P settings.session.limits := by
  obtain ⟨s, rfl, hFound⟩ := state_of_init hAccepts hInit
  obtain ⟨s', hAfter, hAlike⟩ := F.after_state settings.nullHandling s rows
  rw [hAfter, session_state, hAlike.patternFor, hFound, declared?_or hConstant]

theorem groupQuery_of_same_pattern {α : Type} {s s' : Session} {row : Arguments}
    (hSame : s'.patternFor (row.bytes? 0) = s.patternFor (row.bytes? 0)) (function : String)
    (nullHandling : NullHandling) (ask : GroupQuery → Result (Option α)) :
    groupQuery function s' nullHandling row ask = groupQuery function s nullHandling row ask := by
  unfold groupQuery
  rw [hSame]

theorem call_of_same_pattern (F : SessionFunction) (nullHandling : NullHandling) {s s' : Session}
    {row : Arguments} (hSame : s'.patternFor (row.bytes? 0) = s.patternFor (row.bytes? 0))
    (hMemory : ¬F.RunsOut (F.state nullHandling s) row)
    (hMemory' : ¬F.RunsOut (F.state nullHandling s') row) :
    (F.call (F.state nullHandling s') row).1 = (F.call (F.state nullHandling s) row).1 := by
  cases F with
  | replace =>
    exact Replace.call_of_same_pattern (f := ⟨s, nullHandling⟩) (g := ⟨s', nullHandling⟩) rfl hSame
      hMemory hMemory'
  | capture =>
    change Capture.call ⟨s', nullHandling⟩ row = Capture.call ⟨s, nullHandling⟩ row
    exact groupQuery_of_same_pattern hSame _ _ _
  | position =>
    change Position.call ⟨s', nullHandling⟩ row = Position.call ⟨s, nullHandling⟩ row
    exact groupQuery_of_same_pattern hSame _ _ _
  | rlike =>
    change Rlike.call ⟨s'⟩ row = Rlike.call ⟨s⟩ row
    unfold Rlike.call
    rw [hSame]

end SessionFunction

end PerlPattern.Host
