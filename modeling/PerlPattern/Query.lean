import PerlPattern.Occurrence

/-! # Queries about a match

The text and the position of one group of one match, and whether there is a
match at all.
-/

namespace PerlPattern

/-- A group by its index or by its name. -/
inductive GroupRef where
  | index (n : Nat)
  | name (text : String)
  deriving Repr, DecidableEq

instance : Inhabited GroupRef := ⟨.index 0⟩

variable {σ : Type}

/-- The index of a group; `none` for an unknown name and for an index past the last group. -/
def GroupRef.resolve (ref : GroupRef) (m : Matcher σ) (state : σ) : Result (Option Nat) :=
  match ref with
  | .index n => (m.captureCount state).map fun count => if n ≤ count then some n else none
  | .name text => .ok (m.groupIndex? state text)

namespace Query

/-- The span of a group of a match; `none` if there is no such match or group. -/
def locate (m : Matcher σ) (state : σ) (subject : ByteArray) (ref : GroupRef)
    (occurrence : Nat) : Result (Option Span) × σ :=
  match ref.resolve m state with
  | .error e => (.error e, state)
  | .ok none => (.ok none, state)
  | .ok (some index) =>
    let (found, state) := findOccurrence m state subject occurrence
    (found.map fun o => o.bind fun o => o.group index, state)

def capture (m : Matcher σ) (state : σ) (subject : ByteArray) (ref : GroupRef)
    (occurrence : Nat) : Result (Option ByteArray) × σ :=
  let (span, state) := locate m state subject ref occurrence
  (span.map fun span => span.bind fun span => span.slice? subject, state)

/-- The position of a group of a match, counted in bytes from 1. -/
def position (m : Matcher σ) (state : σ) (subject : ByteArray) (ref : GroupRef)
    (occurrence : Nat) : Result (Option Nat) × σ :=
  let (span, state) := locate m state subject ref occurrence
  (span.map fun span => span.map fun span => span.start + 1, state)

/-- Is there a match anywhere? An empty subject has none. -/
def isMatch (m : Matcher σ) (state : σ) (subject : ByteArray) : Result Bool × σ :=
  if subject.size = 0 then (.ok false, state)
  else
    match MatchOffsets.ofGroupCapacity 1 with
    | .error e => (.error e, state)
    | .ok offsets =>
      match m.exec subject 0 {} offsets state with
      | (.error e, _, state) => (.error (.engine e), state)
      | (.ok outcome, _, state) => (.ok (outcome ≠ .noMatch), state)

end Query

end PerlPattern
