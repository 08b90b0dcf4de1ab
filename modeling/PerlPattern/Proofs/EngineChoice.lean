import PerlPattern.Compiled
import PerlPattern.Proofs.BacktrackPatience

/-! # How limits bear on the choice of an engine

A builder of searchers takes its limit as a test: it refuses a source, or gives a
search up, or does as it would without one. Then the limits of a pattern decide
whether it is accepted. Where two limits accept it, they give the same engine for
the same source, and the same answers as far as searches do not give up, but for
one case: the linear-time engine takes the pattern under one of the limits only,
and it falls to the backtracking engine under the other.
-/

namespace PerlPattern

namespace Linear

theorem Reading.ofPattern?_of_le {pattern : List Char} {nestLimit nestLimit' : Nat} {r : Reading}
    (hLe : nestLimit ≤ nestLimit') (h : ofPattern? pattern nestLimit = some r) :
    ofPattern? pattern nestLimit' = some r := by
  unfold ofPattern? at h ⊢
  obtain ⟨⟨tree, state⟩, hRead, hFits⟩ := Option.bind_eq_some_iff.mp h
  refine Option.bind_eq_some_iff.mpr ⟨⟨tree, state⟩, hRead, ?_⟩
  obtain ⟨⟨hRest, hNest⟩, hSame⟩ := Option.ite_none_right_eq_some.mp hFits
  exact Option.ite_none_right_eq_some.mpr ⟨⟨hRest, Nat.le_trans hNest hLe⟩, hSame⟩

theorem Compiled.ofPattern_of_le {pattern : String} {nestLimit nestLimit' : Nat} {flags : Flags}
    {c : Compiled} (hLe : nestLimit ≤ nestLimit') (h : ofPattern pattern nestLimit flags = .ok c) :
    ofPattern pattern nestLimit' flags = .ok c := by
  unfold ofPattern at h ⊢
  split at h
  · cases h
  · rename_i r hRead
    rw [Reading.ofPattern?_of_le hLe hRead]
    exact h

end Linear

/-- Two answers agree, unless the one under the lower of two limits is that of a search that gave
up. -/
def AgreeUnless {α : Type} (GaveUp : α → Prop) (limit limit' : Nat) (a a' : α) : Prop :=
  a' = a ∨ limit < limit' ∧ GaveUp a ∨ limit' < limit ∧ GaveUp a'

theorem AgreeUnless.of_le {α : Type} {GaveUp : α → Prop} (answer : Nat → α)
    (h : ∀ {limit limit'}, limit ≤ limit' → GaveUp (answer limit) ∨ answer limit' = answer limit)
    (limit limit' : Nat) : AgreeUnless GaveUp limit limit' (answer limit) (answer limit') := by
  rcases Nat.lt_trichotomy limit limit' with hLess | rfl | hMore
  · obtain hGaveUp | hSame := h (Nat.le_of_lt hLess)
    · exact .inr (.inl ⟨hLess, hGaveUp⟩)
    · exact .inl hSame
  · exact .inl rfl
  · obtain hGaveUp | hSame := h (Nat.le_of_lt hMore)
    · exact .inr (.inr ⟨hMore, hGaveUp⟩)
    · exact .inl hSame.symm

theorem AgreeUnless.map {α β : Type} {GaveUp : α → Prop} {GaveUp' : β → Prop} {limit limit' : Nat}
    {a a' : α} (h : AgreeUnless GaveUp limit limit' a a') {f : α → β}
    (hGaveUp : ∀ a, GaveUp a → GaveUp' (f a)) : AgreeUnless GaveUp' limit limit' (f a) (f a') := by
  obtain rfl | ⟨hLess, hHere⟩ | ⟨hMore, hThere⟩ := h
  · exact .inl rfl
  · exact .inr (.inl ⟨hLess, hGaveUp a hHere⟩)
  · exact .inr (.inr ⟨hMore, hGaveUp a' hThere⟩)

namespace Searcher

def GaveUp (answer : Except Backtrack.SearchFault (Option Groups)) : Prop :=
  answer = .error .backtrackLimit

/-- The searchers differ in nothing but how often a search may go back. -/
structure SameUnder (limit limit' : Nat) (s s' : Searcher) : Prop where
  groupCount : s'.groupCount = s.groupCount
  names : s'.names = s.names
  search : ∀ bytes start,
    AgreeUnless GaveUp limit limit' (s.search bytes start) (s'.search bytes start)

theorem SameUnder.refl (limit limit' : Nat) (s : Searcher) : SameUnder limit limit' s s :=
  ⟨rfl, rfl, fun _ _ => .inl rfl⟩

theorem ofText_limits {source : String} {limit : Nat} {s : Searcher}
    (h : ofText source limit = .ok s) (limit' : Nat) :
    ∃ s', ofText source limit' = .ok s' ∧ SameUnder limit limit' s s' := by
  unfold ofText at h ⊢
  cases hReading : Backtrack.Reading.ofPattern source with
  | error fault =>
    rw [hReading] at h
    cases h
  | ok reading =>
    rw [hReading] at h
    simp only [bind, Except.bind] at h ⊢
    split at h
    · cases h
    · rename_i hRefers
      rw [if_neg hRefers]
      split at h
      · rename_i hHard
        rw [if_pos hHard]
        split at h
        · cases h
        · rename_i program hProgram
          cases h
          refine ⟨_, rfl, rfl, rfl, ?_⟩
          intro bytes start
          exact .of_le (program.search · bytes start)
            (fun hLe => program.search_of_le hLe bytes start) limit limit'
      · rename_i hEasy
        rw [if_neg hEasy]
        split at h
        · cases h
        · cases h
          exact ⟨_, rfl, .refl _ _ _⟩

end Searcher

namespace Builders

/-- What is relied on of builders. A higher limit on nesting takes what a lower one does, and builds
the same. Whether a source is taken does not depend on how often a search may go back, and neither
does an answer, unless the search gives up. -/
structure Lawful (b : Builders) : Prop where
  linear : ∀ {source nestLimit nestLimit' s}, nestLimit ≤ nestLimit' →
    b.linear source nestLimit = .ok s → b.linear source nestLimit' = .ok s
  backtracking : ∀ {source limit s}, b.backtracking source limit = .ok s → ∀ limit',
    ∃ s', b.backtracking source limit' = .ok s' ∧ s.SameUnder limit limit' s'

theorem standard_lawful : standard.Lawful where
  linear := by
    intro source nestLimit nestLimit' s hLe h
    unfold standard at h ⊢
    dsimp only at h ⊢
    cases hCompiled : Linear.Compiled.ofPattern source nestLimit {} with
    | error fault =>
      rw [hCompiled] at h
      cases h
    | ok compiled =>
      rw [hCompiled] at h
      rw [Linear.Compiled.ofPattern_of_le hLe hCompiled]
      exact h
  backtracking := Searcher.ofText_limits

end Builders

namespace Engine

structure SameUnder (limit limit' : Nat) (e e' : Engine) : Prop where
  kind : e'.kind = e.kind
  source : e'.source = e.source
  searcher : e.toSearcher.SameUnder limit limit' e'.toSearcher

theorem SameUnder.exec {limit limit' : Nat} {e e' : Engine} (h : SameUnder limit limit' e e')
    (subject : ByteArray) (start : Nat) (mode : SearchMode) (offsets : MatchOffsets) :
    AgreeUnless (·.1 = .error EngineErrorKind.matchLimit) limit limit'
      (e.exec subject start mode offsets) (e'.exec subject start mode offsets) := by
  unfold Engine.exec
  rw [h.kind]
  split
  · exact .inl rfl
  · dsimp only
    split
    · exact .inl rfl
    · split
      · exact .inl rfl
      · have hSearch := h.searcher.search subject start
        generalize e.search subject start = answer, e'.search subject start = answer' at hSearch
        apply AgreeUnless.map hSearch
        rintro _ rfl
        rfl

def sourceFor (kind : EngineKind) (pattern : String) (modifiers : Modifiers) : String :=
  inlineFlags modifiers kind ++ pattern

end Engine

namespace Builders

open Engine (sourceFor groupDepth maxNestLimit)

variable {b : Builders} {pattern : String} {modifiers : Modifiers} {limits l l' : MatchLimits}
  {e e' : Engine}

theorem linearEngine_eq_ok_iff : b.linearEngine pattern modifiers limits = .ok e ↔
    ∃ s, b.linear (sourceFor .linear pattern modifiers) (min limits.recursionLimit maxNestLimit) =
        .ok s ∧
      e = { s with kind := .linear, source := sourceFor .linear pattern modifiers } := by
  unfold linearEngine sourceFor
  dsimp only
  constructor
  · intro h
    split at h
    · rename_i s hBuilt
      cases h
      exact ⟨s, hBuilt, rfl⟩
    · cases h
  · rintro ⟨s, hBuilt, rfl⟩
    rw [hBuilt]

theorem backtrackingEngine_eq_ok_iff : b.backtrackingEngine pattern modifiers limits = .ok e ↔
    groupDepth pattern.toUTF8.data.toList ≤ limits.recursionLimit ∧
      ∃ s, b.backtracking (sourceFor .backtracking pattern modifiers) limits.matchLimit = .ok s ∧
        e = { s with kind := .backtracking, source := sourceFor .backtracking pattern modifiers } := by
  unfold backtrackingEngine sourceFor
  dsimp only
  constructor
  · intro h
    split at h
    · cases h
    · rename_i hDepth
      split at h
      · rename_i s hBuilt
        cases h
        exact ⟨Nat.not_lt.mp hDepth, s, hBuilt, rfl⟩
      · cases h
  · rintro ⟨hDepth, s, hBuilt, rfl⟩
    rw [if_neg (Nat.not_lt.mpr hDepth), hBuilt]

def LinearTakes (b : Builders) (pattern : String) (modifiers : Modifiers) (limits : MatchLimits) :
    Prop := ∃ e, b.linearEngine pattern modifiers limits = .ok e

theorem LinearTakes.of_le (hLawful : b.Lawful) (h : b.LinearTakes pattern modifiers l)
    (hLe : l.recursionLimit ≤ l'.recursionLimit) : b.LinearTakes pattern modifiers l' := by
  obtain ⟨e, hEngine⟩ := h
  obtain ⟨s, hBuilt, rfl⟩ := linearEngine_eq_ok_iff.mp hEngine
  exact ⟨_, linearEngine_eq_ok_iff.mpr ⟨s, hLawful.linear (by omega) hBuilt, rfl⟩⟩

/-- A pattern falls to the backtracking engine under the limits `low`, since the linear-time engine
takes it under `high` alone. -/
structure Falls (b : Builders) (pattern : String) (modifiers : Modifiers) (high low : MatchLimits)
    (e e' : Engine) : Prop where
  taken : b.LinearTakes pattern modifiers high
  refused : ¬b.LinearTakes pattern modifiers low
  lower : low.recursionLimit < high.recursionLimit
  kind : e.kind = .linear ∧ e'.kind = .backtracking
  source : e.source = sourceFor .linear pattern modifiers ∧
    e'.source = sourceFor .backtracking pattern modifiers

theorem linear_of_takes (hTakes : b.LinearTakes pattern modifiers l)
    (h : b.adaptiveEngine pattern modifiers l = .ok e) :
    b.linearEngine pattern modifiers l = .ok e := by
  obtain ⟨engine, hLinear⟩ := hTakes
  unfold adaptiveEngine at h
  rw [hLinear] at h
  exact hLinear.trans h

theorem backtracking_of_refuses (hRefuses : ¬b.LinearTakes pattern modifiers l)
    (h : b.adaptiveEngine pattern modifiers l = .ok e) :
    b.backtrackingEngine pattern modifiers l = .ok e := by
  unfold adaptiveEngine at h
  split at h
  · rename_i engine hLinear
    exact absurd ⟨engine, hLinear⟩ hRefuses
  · exact h

theorem falls_of_takes (hLawful : b.Lawful) (h : b.adaptiveEngine pattern modifiers l = .ok e)
    (h' : b.adaptiveEngine pattern modifiers l' = .ok e')
    (hTakes : b.LinearTakes pattern modifiers l)
    (hRefuses : ¬b.LinearTakes pattern modifiers l') : b.Falls pattern modifiers l l' e e' := by
  obtain ⟨s, -, rfl⟩ := linearEngine_eq_ok_iff.mp (linear_of_takes hTakes h)
  obtain ⟨-, s', -, rfl⟩ := backtrackingEngine_eq_ok_iff.mp (backtracking_of_refuses hRefuses h')
  exact {
    taken := hTakes
    refused := hRefuses
    lower := Nat.not_le.mp fun hLe => hRefuses (hTakes.of_le hLawful hLe)
    kind := ⟨rfl, rfl⟩
    source := ⟨rfl, rfl⟩ }

theorem adaptiveEngine_limits (hLawful : b.Lawful)
    (h : b.adaptiveEngine pattern modifiers l = .ok e)
    (h' : b.adaptiveEngine pattern modifiers l' = .ok e') :
    (b.LinearTakes pattern modifiers l ↔ b.LinearTakes pattern modifiers l') ∧
        e.SameUnder l.matchLimit l'.matchLimit e' ∨
      b.Falls pattern modifiers l l' e e' ∨ b.Falls pattern modifiers l' l e' e := by
  by_cases hTakes : b.LinearTakes pattern modifiers l
  · by_cases hTakes' : b.LinearTakes pattern modifiers l'
    · refine .inl ⟨iff_of_true hTakes hTakes', ?_⟩
      obtain ⟨s, hBuilt, rfl⟩ := linearEngine_eq_ok_iff.mp (linear_of_takes hTakes h)
      obtain ⟨s', hBuilt', rfl⟩ := linearEngine_eq_ok_iff.mp (linear_of_takes hTakes' h')
      -- Under the largest limit on nesting both are built alike.
      have hMost := hLawful.linear (Nat.min_le_right _ _) hBuilt
      cases hMost.symm.trans (hLawful.linear (Nat.min_le_right _ _) hBuilt')
      exact ⟨rfl, rfl, .refl _ _ s⟩
    · exact .inr (.inl (falls_of_takes hLawful h h' hTakes hTakes'))
  · by_cases hTakes' : b.LinearTakes pattern modifiers l'
    · exact .inr (.inr (falls_of_takes hLawful h' h hTakes' hTakes))
    · refine .inl ⟨iff_of_false hTakes hTakes', ?_⟩
      obtain ⟨-, s, hBuilt, rfl⟩ :=
        backtrackingEngine_eq_ok_iff.mp (backtracking_of_refuses hTakes h)
      obtain ⟨-, s', hBuilt', rfl⟩ :=
        backtrackingEngine_eq_ok_iff.mp (backtracking_of_refuses hTakes' h')
      obtain ⟨other, hOther, hSame⟩ := hLawful.backtracking hBuilt l'.matchLimit
      cases hOther.symm.trans hBuilt'
      exact ⟨rfl, rfl, hSame⟩

end Builders

/-- The patterns have the same engine for the same source and answer every search alike, unless the
one with the lower limit gives the search up. -/
structure CompiledPattern.SameUnder (limit limit' : Nat) (p p' : CompiledPattern) : Prop where
  kind : p'.engine.kind = p.engine.kind
  source : p'.engine.source = p.engine.source
  captureCount : p'.captureCount = p.captureCount
  exec : ∀ subject start mode offsets,
    AgreeUnless (·.1 = .error EngineErrorKind.matchLimit) limit limit'
      (p.matcher.exec subject start mode offsets ()) (p'.matcher.exec subject start mode offsets ())

theorem CompiledPattern.sameUnder_of_engine {limit limit' : Nat} {p p' : CompiledPattern}
    (hModifiers : p'.modifiers = p.modifiers) (h : p.engine.SameUnder limit limit' p'.engine) :
    SameUnder limit limit' p p' where
  kind := h.kind
  source := h.source
  captureCount := congrArg (· - 1) h.searcher.groupCount
  exec := by
    intro subject start mode offsets
    have hMode : p'.modeOf mode = p.modeOf mode := by
      unfold modeOf
      rw [hModifiers]
    unfold matcher
    dsimp only
    rw [hMode]
    have hExec := h.exec subject start (p.modeOf mode) offsets
    generalize p.engine.exec subject start (p.modeOf mode) offsets = answer,
      p'.engine.exec subject start (p.modeOf mode) offsets = answer' at hExec
    apply AgreeUnless.map hExec
    intro _ hGaveUp
    exact hGaveUp

namespace Builders

variable {b : Builders} {spec : PatternSpec} {limits l l' : MatchLimits} {p p' : CompiledPattern}

theorem engine_of_compile (h : b.compile spec limits = .ok p) :
    String.fromUTF8? spec.body = some p.body ∧
      b.adaptiveEngine p.body spec.modifiers limits = .ok p.engine ∧
      p.modifiers = spec.modifiers := by
  unfold compile at h
  split at h
  · cases h
  · rename_i body hBody
    split at h
    · cases h
    · rename_i engine hEngine
      split at h
      · cases h
      · cases h
        exact ⟨hBody, hEngine, rfl⟩

/-- Limits decide whether a pattern is accepted, and what it matches only where the linear-time
engine takes it under one of them and not under the other. -/
theorem compile_limits (hLawful : b.Lawful) (h : b.compile spec l = .ok p)
    (h' : b.compile spec l' = .ok p') : p'.body = p.body ∧
      ((b.LinearTakes p.body spec.modifiers l ↔ b.LinearTakes p.body spec.modifiers l') ∧
          p.SameUnder l.matchLimit l'.matchLimit p' ∨
        b.Falls p.body spec.modifiers l l' p.engine p'.engine ∨
        b.Falls p.body spec.modifiers l' l p'.engine p.engine) := by
  obtain ⟨hBody, hEngine, hModifiers⟩ := engine_of_compile h
  obtain ⟨hBody', hEngine', hModifiers'⟩ := engine_of_compile h'
  have hSame : p'.body = p.body := Option.some.inj (hBody'.symm.trans hBody)
  rw [hSame] at hEngine'
  refine ⟨hSame, (adaptiveEngine_limits hLawful hEngine hEngine').imp_left ?_⟩
  rintro ⟨hTakes, hAlike⟩
  exact ⟨hTakes, CompiledPattern.sameUnder_of_engine (hModifiers'.trans hModifiers.symm) hAlike⟩

def looksAhead : PatternSpec := ⟨"a(?=b)".toUTF8, {}, false, by decide⟩

theorem compile_limits_looksAhead : standard.Lawful ∧ ∃ p p',
    standard.compile looksAhead default = .ok p ∧
      standard.compile looksAhead (MatchLimits.mk 2 1) = .ok p' ∧ p.SameUnder 100000 2 p' := by
  have hAccepted : (standard.compile looksAhead default).isOk = true := by decide +kernel
  have hAccepted' : (standard.compile looksAhead (MatchLimits.mk 2 1)).isOk = true := by decide +kernel
  have hText : String.fromUTF8? looksAhead.body = some "a(?=b)" := by decide +kernel
  have hRefused : (standard.linearEngine "a(?=b)" {} default).isOk = false := by decide +kernel
  refine ⟨standard_lawful, ?_⟩
  cases h : standard.compile looksAhead default with
  | error e =>
    rw [h] at hAccepted
    cases hAccepted
  | ok p =>
    cases h' : standard.compile looksAhead (MatchLimits.mk 2 1) with
    | error e =>
      rw [h'] at hAccepted'
      cases hAccepted'
    | ok p' =>
      have hBody : p.body = "a(?=b)" := Option.some.inj ((engine_of_compile h).1.symm.trans hText)
      refine ⟨p, p', rfl, rfl, ?_⟩
      obtain ⟨-, ⟨-, hSame⟩ | hFalls | hFalls⟩ := compile_limits standard_lawful h h'
      · exact hSame
      · obtain ⟨e, hTaken⟩ := hBody ▸ hFalls.taken
        rw [show standard.linearEngine "a(?=b)" {} default = .ok e from hTaken] at hRefused
        cases hRefused
      · exact absurd hFalls.lower (by decide)

end Builders

namespace CompiledPattern

/-- At most one character, or one byte: the tree of `.?` is nested once, and put behind the flags
that keep to ASCII it is nested twice. -/
def atMostOne : PatternSpec := ⟨".?".toUTF8, {}, false, by decide⟩

def firstOfWide (spec : PatternSpec) (limits : MatchLimits) :
    Option (EngineKind × String × Option Span) :=
  (ofSpec spec limits).toOption.map fun p =>
    (p.engine.kind, p.engine.source,
      (p.matcher.exec "é".toUTF8 0 {} ⟨Array.replicate 3 none⟩ ()).2.1.group 0)

theorem limits_change_match :
    firstOfWide atMostOne default = some (.linear, "(?-u).?", some ⟨0, 1⟩) ∧
      firstOfWide atMostOne (MatchLimits.withRecursionLimit default 1) =
        some (.backtracking, ".?", some ⟨0, 2⟩) := by
  constructor <;> decide +kernel

end CompiledPattern

end PerlPattern
