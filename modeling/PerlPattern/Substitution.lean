import PerlPattern.Matcher
import PerlPattern.Template

/-! # Substitution

A pass over the subject replaces one match after the other. It goes on at the
end of each match. After an empty match the next one must not be empty and must
start at the same offset; if there is none, one unit is copied and the pass
goes on after it. Once the limit is used up, matches are no longer replaced.

A pass is made of rounds, one search each. `Pass.round` makes one round, and
`Pass.run` makes rounds to the end, keeping a list of the matches replaced.
-/

namespace PerlPattern

/-- Something noteworthy that does not stop a substitution. -/
inductive Warning where
  | tooManySubstrings
  deriving Repr, DecidableEq

def Warning.message : Warning → String
  | .tooManySubstrings => "Matched, but too many substrings"

structure SubstitutionReport where
  replacements : Nat := 0
  warnings : List Warning := []
  deriving Repr, DecidableEq, Inhabited

/-- The largest number of replacements that a report holds. -/
def maxReplacements : Nat := Nat.pow 2 32 - 1

/-- Why a pass ends without a report. -/
inductive PassFault where
  | error (e : PatternError)
  /-- The matcher reported offsets that lead outside the subject. -/
  | outOfRange
  /-- The matcher led back more often than it was allowed to. -/
  | stalled
  deriving Repr, DecidableEq

structure Accepted where
  span : Span
  offsets : MatchOffsets
  count : Nat
  deriving Repr, DecidableEq

/-- The state of a pass between two rounds. -/
structure Pass (σ : Type) where
  state : σ
  offsets : MatchOffsets
  out : OutputBuffer
  /-- How many matches may still be replaced; `none` for any number. -/
  remaining : Option Nat
  start : Nat := 0
  /-- Must the next match be non-empty and start at `start`? -/
  notEmpty : Bool := false
  report : SubstitutionReport := {}
  /-- The matches replaced, the last one first. -/
  accepted : List Accepted := []

/-- What a round leads to. -/
inductive Round (σ : Type) where
  | next (p : Pass σ)
  | stop (p : Pass σ) (result : Except PassFault SubstitutionReport)

/-- The span of a match found from `start` on. It must not start before, must not repeat an empty
match, and its groups must lie within the `len` bytes of the subject. -/
def checkedMatch (offsets : MatchOffsets) (count start len : Nat) (notEmpty : Bool) :
    Except EngineError Span :=
  match offsets.group 0 with
  | none => .error EngineErrorKind.internal
  | some whole =>
    if whole.start < start ∨ (notEmpty ∧ whole.isEmpty ∧ whole.start = start) then
      .error EngineErrorKind.internal
    else if (List.range (min count offsets.groupCapacity)).all fun g =>
        (offsets.group g).all fun span => decide (span.Within len) then
      .ok whole
    else .error EngineErrorKind.internal

namespace Pass

variable {σ : Type}

def fail (p : Pass σ) (e : PatternError) : Round σ := .stop p (.error (.error e))

def counted (report : SubstitutionReport) : SubstitutionReport :=
  { report with replacements := min (report.replacements + 1) maxReplacements }

def warned (report : SubstitutionReport) (outcome : Outcome) : SubstitutionReport :=
  match outcome with
  | .tooManySubstrings => { report with warnings := report.warnings ++ [.tooManySubstrings] }
  | _ => report

/-- Replaces the match recorded in the offsets. -/
def replace (p : Pass σ) (subject : ByteArray) (template : Template) (count : Nat) : Round σ :=
  match checkedMatch p.offsets count p.start subject.size p.notEmpty with
  | .error e => p.fail (.engine e)
  | .ok whole =>
    let required :=
      p.out.size + (whole.start - p.start) + template.expandedSize subject p.offsets count
    match p.out.growFor required maxAllocation with
    | .error e => p.fail e
    | .ok out =>
      if p.start ≤ whole.start ∧ whole.start ≤ subject.size then
        let out := out.extend (subject.extract p.start whole.start)
        .next
          { p with
            out := template.expandInto out subject p.offsets count
            remaining := p.remaining.map (· - 1)
            start := whole.stop
            notEmpty := whole.isEmpty
            report := counted p.report
            accepted := ⟨whole, p.offsets, count⟩ :: p.accepted }
      else .stop p (.error .outOfRange)

/-- Goes on without a replacement: over one unit after an empty match, else to the end. -/
def copy (p : Pass σ) (m : Matcher σ) (subject : ByteArray) : Round σ :=
  if p.notEmpty ∧ p.start < subject.size then
    let width := max 1 (min (m.advance subject p.start p.state) (subject.size - p.start))
    match p.out.growFor (p.out.size + width) maxAllocation with
    | .error e => p.fail e
    | .ok out =>
      .next
        { p with
          out := out.extend (subject.extract p.start (p.start + width))
          start := p.start + width
          notEmpty := false }
  else if p.start ≤ subject.size then
    match p.out.growExact (p.out.size + (subject.size - p.start)) maxAllocation with
    | .error e => p.fail e
    | .ok out =>
      .stop { p with out := out.extend (subject.extract p.start subject.size) } (.ok p.report)
  else .stop p (.error .outOfRange)

/-- Makes one search and acts on its answer. -/
def round (p : Pass σ) (m : Matcher σ) (subject : ByteArray) (template : Template) : Round σ :=
  match m.exec subject p.start { notEmptyAtStart := p.notEmpty } p.offsets p.state with
  | (.error e, offsets, state) => { p with offsets, state }.fail (.engine e)
  | (.ok outcome, offsets, state) =>
    let p := { p with offsets, state, report := warned p.report outcome }
    match outcome.matchCount? offsets with
    | some count =>
      if p.remaining = some 0 then p.copy m subject else p.replace subject template count
    | none => p.copy m subject

/-- How far a pass is from its end: twice the bytes left, and one more where an empty match may
still be found. -/
def rank (p : Pass σ) (len : Nat) : Nat :=
  if len < p.start then 0 else 2 * (len - p.start) + (if p.notEmpty then 1 else 2)

/-- Makes rounds to the end. A round that brings the pass no nearer to it uses up patience. -/
def run (p : Pass σ) (m : Matcher σ) (subject : ByteArray) (template : Template)
    (patience : Nat) : Pass σ × Except PassFault SubstitutionReport :=
  match p.round m subject template with
  | .stop q result => (q, result)
  | .next q =>
    if q.rank subject.size < p.rank subject.size then q.run m subject template patience
    else
      match patience with
      | 0 => (q, .error .stalled)
      | patience + 1 => q.run m subject template patience
termination_by (patience, p.rank subject.size)

end Pass

structure Substitution (σ : Type) where
  result : Except PassFault SubstitutionReport
  /-- The output; empty unless there is a report. -/
  out : OutputBuffer
  state : σ
  /-- The matches replaced, in order. -/
  accepted : List Accepted := []

/-- Replaces matches of `m` in `subject` into `out`, which is emptied first. At most `limit` matches
are replaced, and the matcher may lead back at most `patience` times. -/
def substituteInto {σ : Type} (m : Matcher σ) (state : σ) (subject : ByteArray)
    (template : Template) (limit : Option Nat) (out : OutputBuffer) (patience : Nat) :
    Substitution σ :=
  let out := out.clear
  match out.growExact (2 * subject.size) maxAllocation with
  | .error e => { result := .error (.error e), out, state }
  | .ok out =>
    match (m.captureCount state).bind MatchOffsets.ofCaptureCount with
    | .error e => { result := .error (.error e), out, state }
    | .ok offsets =>
      let (p, result) :=
        Pass.run { state, offsets, out, remaining := limit } m subject template patience
      let accepted := p.accepted.reverse
      match result with
      | .ok report => { result := .ok report, out := p.out, state := p.state, accepted }
      | .error e => { result := .error e, out := p.out.clear, state := p.state, accepted }

def substitute {σ : Type} (m : Matcher σ) (state : σ) (subject : ByteArray) (template : Template)
    (limit : Option Nat) (patience : Nat) : Substitution σ :=
  substituteInto m state subject template limit {} patience

end PerlPattern
