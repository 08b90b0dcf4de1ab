import PerlPattern.Backtrack.Measure
import PerlPattern.Backtrack.LinearText
import PerlPattern.Linear.Program

/-! # Programs for backtracking search

A tree becomes a list of instructions. A run of parts without difficulty is
handed to a linear-time program, which decides by itself how it matches and is
not asked again; so runs are handed over only where what follows cannot want
another match, or where all their matches have one size.
-/

namespace PerlPattern.Backtrack

inductive Instruction where
  | literal (text : ByteArray)
  | any (newline : Bool)
  | look (l : Look)
  | split (first second : Nat)
  | jump (target : Nat)
  | save (slot : Nat)
  | zero (slot : Nat)
  | restore (slot : Nat)
  /-- Moves back so many characters. -/
  | back (count : Nat)
  /-- Gives up the branches made since the one that goes on at `resume`, and fails. -/
  | cutAndFail (resume : Nat)
  | beginAtomic
  | endAtomic
  /-- The head of a counted loop. -/
  | loop (min : Nat) (max : Option Nat) (greedy : Bool) (counter after : Nat)
  /-- The head of an unbounded loop whose body may match nothing. -/
  | guardedLoop (min : Nat) (greedy : Bool) (counter last after : Nat)
  | backref (group : Nat)
  | groupMatched (group : Nat)
  | searchStart
  /-- A linear-time program that sets the groups from `first` on. -/
  | delegate (program : Linear.Program) (first : Nat)
  | finish
  deriving Inhabited

structure AssemblerState where
  code : Array Instruction := #[]
  slots : Nat

abbrev Assembler := StateT AssemblerState (Except TreeFault)

/-- The deepest nesting that a linear-time part may have. -/
def delegateNestLimit : Nat := 250

def delegateProgram (text : List Char) : Except TreeFault Linear.Program :=
  match Linear.Compiled.ofPattern (String.ofList text) delegateNestLimit { overText := true } with
  | .ok compiled => .ok compiled.program
  | .error .unreadable => .error .linearUnreadable
  | .error .tooLarge => .error .linearTooLarge

namespace Assembler

def here : Assembler Nat := return (← get).code.size

def emit (i : Instruction) : Assembler Nat := do
  let s ← get
  set { s with code := s.code.push i }
  pure s.code.size

def emit_ (i : Instruction) : Assembler Unit := do
  let _ ← emit i

def patch (at_ : Nat) (i : Instruction) : Assembler Unit :=
  modify fun s => { s with code := s.code.set! at_ i }

/-- Leaves room for an instruction that is settled later. -/
def reserve : Assembler Nat := emit .finish

def newSlot : Assembler Nat := do
  let s ← get
  set { s with slots := s.slots + 1 }
  pure s.slots

def split (at_ first second : Nat) (greedy : Bool) : Assembler Unit :=
  patch at_ (if greedy then .split first second else .split second first)

/-- Hands a run of parts over, the first of whose groups has the index `first`. -/
def handOver (first : Nat) (parts : List Tree) : Assembler Unit :=
  if parts.isEmpty then pure ()
  else
    match Tree.literalTextOf? parts with
    | some text => emit_ (.literal (String.ofList text).toUTF8)
    | none => do
      let program ← (delegateProgram (parts.flatMap (Tree.linearText 1)) : Except _ _)
      emit_ (.delegate program first)

/-- How many parts at the start of a list can be handed over under `keep`. -/
def leading (keep : Tree → Nat → Bool) (first : Nat) : List Tree → Nat
  | [] => 0
  | t :: rest => if keep t first then leading keep (first + t.groupCount) rest + 1 else 0

/-- The start of the longest tail of a list, from index `from_` on, all of which satisfies `keep`. -/
def trailing (keep : Tree → Nat → Bool) (first index from_ best : Nat) : List Tree → Nat
  | [] => best
  | t :: rest =>
    let best := if index < from_ ∨ !keep t first then index + 1 else best
    trailing keep (first + t.groupCount) (index + 1) from_ best rest

/-- Looks around for what `body` matches; looking behind starts as many characters back as that
takes, which has to be a constant `size`. -/
def around (kind : LookAround) (constant : Bool) (size : Nat) (body : Assembler Unit) :
    Assembler Unit := do
  if kind.isBehind ∧ !constant then throw .lookBehindNotConstant
  if kind.isNegative then
    let head ← reserve
    if kind.isBehind then emit_ (.back size)
    body
    let foot ← reserve
    patch foot (.cutAndFail (foot + 1))
    split head (head + 1) (foot + 1) true
  else
    let slot ← newSlot
    emit_ (.save slot)
    if kind.isBehind then emit_ (.back size)
    body
    emit_ (.restore slot)

mutual

/-- Assembles a tree. `hard` says that a later part may ask for another match of this one. -/
def assemble (referenced : List Nat) (hard : Bool) (first : Nat) (t : Tree) : Assembler Unit := do
  if !hard ∧ !t.isHard referenced first then handOver first [t]
  else
    match t with
    | .empty => pure ()
    | .any newline => emit_ (.any newline)
    | .look l => emit_ (.look l)
    | .literal c caseless => handOver first [.literal c caseless]
    | .delegate text caseless => handOver first [.delegate text caseless]
    | .concat parts =>
      let easy (t : Tree) (first : Nat) : Bool := !t.isHard referenced first
      let rigid (t : Tree) (first : Nat) : Bool := t.isConstSize && easy t first
      let stop := leading rigid first parts
      let tail := trailing (if hard then rigid else easy) first 0 stop stop parts
      handOver first (parts.take stop)
      assembleMiddle referenced first 0 stop tail parts
      handOver (first + Tree.groupCountOf (parts.take tail)) (parts.drop tail)
    | .alternation branches => assembleBranches referenced hard first branches
    | .group child =>
      emit_ (.save (2 * first))
      assemble referenced hard (first + 1) child
      emit_ (.save (2 * first + 1))
    | .around kind child =>
      let body := assemble referenced false first child
      match kind, child.isConstSize, child with
      | .behind, false, .alternation branches => behindAny referenced first branches
      | .notBehind, false, .alternation branches => behindNone referenced first branches
      | kind, constant, child => around kind constant child.minSize body
    | .quantified child 0 (some 1) greedy =>
      let head ← reserve
      assemble referenced hard first child
      split head (head + 1) (← here) greedy
    | .quantified child min max greedy =>
      let hard := hard || child.isHard referenced first
      if max = none ∧ child.minSize = 0 then
        let counter ← newSlot
        let last ← newSlot
        emit_ (.zero counter)
        let head ← reserve
        assemble referenced hard first child
        emit_ (.jump head)
        patch head (.guardedLoop min greedy counter last (← here))
      else if max = none ∧ min = 0 then
        let head ← reserve
        assemble referenced hard first child
        emit_ (.jump head)
        split head (head + 1) (← here) greedy
      else if max = none ∧ min = 1 then
        let head ← here
        assemble referenced hard first child
        let foot ← reserve
        split foot head (foot + 1) greedy
      else
        let counter ← newSlot
        emit_ (.zero counter)
        let head ← reserve
        assemble referenced hard first child
        emit_ (.jump head)
        patch head (.loop min max greedy counter (← here))
    | .backref group => emit_ (.backref group)
    | .atomic child =>
      emit_ .beginAtomic
      assemble referenced false first child
      emit_ .endAtomic
    | .keepOut => emit_ (.save 0)
    | .searchStart => emit_ .searchStart
    | .groupMatched group => emit_ (.groupMatched group)
    | .conditional condition yes no =>
      let afterCondition := first + condition.groupCount
      emit_ .beginAtomic
      let head ← reserve
      assemble referenced hard first condition
      emit_ .endAtomic
      assemble referenced hard afterCondition yes
      let foot ← reserve
      split head (head + 1) (← here) true
      assemble referenced hard (afterCondition + yes.groupCount) no
      patch foot (.jump (← here))

/-- Assembles the parts with an index from `stop` to before `tail`. -/
def assembleMiddle (referenced : List Nat) (first index stop tail : Nat) :
    List Tree → Assembler Unit
  | [] => pure ()
  | t :: rest => do
    if stop ≤ index ∧ index < tail then assemble referenced true first t
    assembleMiddle referenced (first + t.groupCount) (index + 1) stop tail rest

/-- Assembles branches in order of preference. -/
def assembleBranches (referenced : List Nat) (hard : Bool) (first : Nat) :
    List Tree → Assembler Unit
  | [] => pure ()
  | [t] => assemble referenced hard first t
  | t :: rest => do
    let head ← reserve
    assemble referenced hard first t
    let foot ← reserve
    split head (head + 1) (← here) true
    assembleBranches referenced hard (first + t.groupCount) rest
    patch foot (.jump (← here))

/-- Looks behind for one of several trees of different sizes. -/
def behindAny (referenced : List Nat) (first : Nat) : List Tree → Assembler Unit
  | [] => pure ()
  | [t] => around .behind t.isConstSize t.minSize (assemble referenced false first t)
  | t :: rest => do
    let head ← reserve
    around .behind t.isConstSize t.minSize (assemble referenced false first t)
    let foot ← reserve
    split head (head + 1) (← here) true
    behindAny referenced (first + t.groupCount) rest
    patch foot (.jump (← here))

/-- Checks that none of several trees stands behind. -/
def behindNone (referenced : List Nat) (first : Nat) : List Tree → Assembler Unit
  | [] => pure ()
  | t :: rest => do
    around .notBehind t.isConstSize t.minSize (assemble referenced false first t)
    behindNone referenced (first + t.groupCount) rest

end

end Assembler

/-- A program with the number of its groups and of its slots. -/
structure Program where
  code : Array Instruction
  groupCount : Nat
  slotCount : Nat
  deriving Inhabited

/-- The program of a pattern: it skips characters up to the first place where the tree matches, and
notes the whole match as group 0. -/
def Program.ofReading (r : Reading) : Except TreeFault Program := do
  let whole : Tree :=
    .concat [.quantified (.any true) 0 none false, .group r.tree]
  let groups := r.tree.groupCount + 1
  let ((), s) ← (Assembler.assemble r.referenced false 0 whole).run { slots := 2 * groups }
  return { code := s.code.push .finish, groupCount := groups, slotCount := s.slots }

end PerlPattern.Backtrack
