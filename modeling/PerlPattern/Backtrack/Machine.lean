import PerlPattern.Backtrack.Program

/-! # Running a backtracking program

The machine keeps its place in the program and the subject, the slots, and the
choices that are still open. A choice holds the slots as they were, so that
going back to it undoes everything done since. Going back is counted against a
limit, and only so many choices may be open at a time.
-/

namespace PerlPattern.Backtrack

/-- Why a search gave no answer. -/
inductive SearchFault where
  | backtrackLimit
  | tooManyChoices
  /-- The search went on for longer than any real one does. -/
  | unfinished
  deriving Repr, DecidableEq

/-- A branch not taken yet. -/
structure Choice where
  pc : Nat
  pos : Nat
  slots : Array (Option Nat)
  marks : List Nat

structure Machine where
  pc : Nat
  pos : Nat
  slots : Array (Option Nat)
  /-- The heights at which the atomic groups were entered. -/
  marks : List Nat
  choices : List Choice
  /-- The number of open choices. -/
  height : Nat
  /-- How often the search may still go back. -/
  patience : Nat

inductive Step where
  | running (m : Machine)
  | matched (slots : Array (Option Nat))
  | exhausted
  | failed (fault : SearchFault)

def maxChoices : Nat := 1000000

namespace Machine

def slot (m : Machine) (i : Nat) : Option Nat := (m.slots[i]?).getD none

def setSlot (m : Machine) (i : Nat) (v : Option Nat) : Machine :=
  { m with slots := m.slots.set! i v }

def goto (m : Machine) (pc : Nat) : Step := .running { m with pc := pc }

def advanceTo (m : Machine) (pos : Nat) : Step := .running { m with pc := m.pc + 1, pos := pos }

/-- Goes back to the last open choice. -/
def fail (m : Machine) : Step :=
  match m.choices, m.patience with
  | [], _ => .exhausted
  | _ :: _, 0 => .failed .backtrackLimit
  | c :: rest, patience + 1 =>
    .running
      { pc := c.pc, pos := c.pos, slots := c.slots, marks := c.marks, choices := rest
        height := m.height - 1, patience }

/-- Leaves a choice to go on at `other`, and goes on at `pc`. -/
def choose (m : Machine) (pc other : Nat) : Step :=
  if m.height < maxChoices then
    .running
      { m with
        pc
        choices := ⟨other, m.pos, m.slots, m.marks⟩ :: m.choices
        height := m.height + 1 }
  else .failed .tooManyChoices

/-- Drops the choices above the one that goes on at `resume`, and that one too. -/
def dropThrough (resume : Nat) : List Choice → Nat → List Choice × Nat
  | [], height => ([], height)
  | c :: rest, height =>
    if c.pc = resume then (rest, height - 1) else dropThrough resume rest (height - 1)

/-- Moves back over `count` characters, if there are so many. -/
def charsBack? (bytes : ByteArray) (pos : Nat) : Nat → Option Nat
  | 0 => some pos
  | count + 1 =>
    if pos = 0 then none
    else charsBack? bytes (startBefore (pos - 1) 3) count
where
  startBefore (pos : Nat) : Nat → Nat
    | 0 => pos
    | back + 1 =>
      if (bytes[pos]?).any Utf8.isContinuation ∧ pos ≠ 0 then startBefore (pos - 1) back else pos

def standsAt (text bytes : ByteArray) (pos : Nat) : Bool :=
  pos + text.size ≤ bytes.size && bytes.extract pos (pos + text.size) == text

/-- Records the groups that a linear-time program found, unset ones included. -/
def recordGroups (m : Machine) (first : Nat) : Groups → Machine
  | [] => m
  | g :: rest =>
    let m := (m.setSlot (2 * first) (g.map (·.start))).setSlot (2 * first + 1) (g.map (·.stop))
    m.recordGroups (first + 1) rest

/-- Enters or leaves a counted loop. -/
def loop (m : Machine) (min : Nat) (max : Option Nat) (greedy : Bool) (counter after : Nat) :
    Step :=
  let count := (m.slot counter).getD 0
  if max = some count then m.goto after
  else
    let m := m.setSlot counter (some (count + 1))
    if count < min then m.goto (m.pc + 1)
    else if greedy then m.choose (m.pc + 1) after
    else m.choose after (m.pc + 1)

/-- Enters or leaves an unbounded loop; a round that matched nothing ends the attempt. -/
def guardedLoop (m : Machine) (min : Nat) (greedy : Bool) (counter last after : Nat) : Step :=
  let count := (m.slot counter).getD 0
  if 0 < count ∧ m.slot last = some m.pos then m.fail
  else
    let m := m.setSlot counter (some (count + 1))
    if count < min then m.goto (m.pc + 1)
    else
      let m := m.setSlot last (some m.pos)
      if greedy then m.choose (m.pc + 1) after else m.choose after (m.pc + 1)

/-- Executes one instruction of a search that began at `start`. -/
def step (code : Array Instruction) (bytes : ByteArray) (start : Nat) (m : Machine) : Step :=
  match code[m.pc]? with
  | none => .exhausted
  | some .finish =>
    let slots := match m.slot 0, m.slot 1 with
      | some a, some b => if b < a then m.slots.set! 0 (some b) else m.slots
      | _, _ => m.slots
    .matched slots
  | some (.literal text) =>
    if standsAt text bytes m.pos then m.advanceTo (m.pos + text.size) else m.fail
  | some (.any newline) =>
    match bytes[m.pos]? with
    | some b =>
      if b = 0x0A ∧ !newline then m.fail else m.advanceTo (m.pos + Utf8.charWidthAt bytes m.pos)
    | none => m.fail
  | some (.look l) => if l.holds bytes m.pos then m.advanceTo m.pos else m.fail
  | some (.split first second) => m.choose first second
  | some (.jump target) => m.goto target
  | some (.save i) => (m.setSlot i (some m.pos)).advanceTo m.pos
  | some (.zero i) => (m.setSlot i (some 0)).advanceTo m.pos
  | some (.restore i) => m.advanceTo ((m.slot i).getD m.pos)
  | some (.back count) =>
    match charsBack? bytes m.pos count with
    | some pos => m.advanceTo pos
    | none => m.fail
  | some (.cutAndFail resume) =>
    let (choices, height) := dropThrough resume m.choices m.height
    { m with choices, height }.fail
  | some .beginAtomic => { m with marks := m.height :: m.marks }.advanceTo m.pos
  | some .endAtomic =>
    match m.marks with
    | height :: marks =>
      { m with marks, choices := m.choices.drop (m.height - height), height }.advanceTo m.pos
    | [] => m.fail
  | some (.loop min max greedy counter after) => m.loop min max greedy counter after
  | some (.guardedLoop min greedy counter last after) => m.guardedLoop min greedy counter last after
  | some (.backref group) =>
    match m.slot (2 * group), m.slot (2 * group + 1) with
    | some a, some b =>
      let text := bytes.extract a b
      if standsAt text bytes m.pos then m.advanceTo (m.pos + text.size) else m.fail
    | _, _ => m.fail
  | some (.groupMatched group) =>
    if (m.slot (2 * group)).isSome then m.advanceTo m.pos else m.fail
  | some .searchStart => if start < m.pos then m.fail else m.advanceTo m.pos
  | some (.delegate program first) =>
    match program.search bytes m.pos true with
    | some (some whole :: groups) => (m.recordGroups first groups).advanceTo whole.stop
    | _ => m.fail

/-- Runs until the search ends or `fuel` steps have been made. -/
def run (code : Array Instruction) (bytes : ByteArray) (start : Nat) :
    Nat → Machine → Except SearchFault (Option (Array (Option Nat)))
  | 0, _ => .error .unfinished
  | fuel + 1, m =>
    match m.step code bytes start with
    | .running m => run code bytes start fuel m
    | .matched slots => .ok (some slots)
    | .exhausted => .ok none
    | .failed fault => .error fault

end Machine

/-- The number of steps after which a search is given up. No limit on going back allows so many
for a subject that fits into memory. -/
def stepAllowance : Nat := Nat.pow 2 62

def groupsOfSlots (slots : Array (Option Nat)) (count : Nat) : Groups :=
  (List.range count).map fun k =>
    match slots[2 * k]?, slots[2 * k + 1]? with
    | some (some a), some (some b) => some ⟨a, b⟩
    | _, _ => none

/-- Searches from `start` on, going back at most `limit` times. -/
def Program.search (p : Program) (limit : Nat) (bytes : ByteArray) (start : Nat) :
    Except SearchFault (Option Groups) := do
  let slots ← Machine.run p.code bytes start stepAllowance
    { pc := 0, pos := start, slots := Array.replicate p.slotCount none, marks := [], choices := []
      height := 0, patience := limit }
  return slots.map (groupsOfSlots · p.groupCount)

end PerlPattern.Backtrack
