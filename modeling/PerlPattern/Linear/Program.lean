import PerlPattern.Linear.Expr
import PerlPattern.Span

/-! # Programs for linear-time search

An expression becomes a graph of instructions. Every branch lists its targets
in order of preference, so that the first path found is the leftmost match
that a backtracking reader of the pattern would find. A loop over a part that
can match nothing is entered through its body first, which keeps that order.
-/

namespace PerlPattern.Linear

inductive Instruction where
  | byte (set : CodeSet) (next : Nat)
  | char (set : CodeSet) (next : Nat)
  | look (l : Look) (next : Nat)
  /-- Notes the position in a slot: two slots per group, its start and its end. -/
  | note (slot : Nat) (next : Nat)
  | branch (targets : List Nat)
  | accept
  deriving Inhabited

abbrev Assembler := StateM (Array Instruction)

namespace Assembler

def emit (i : Instruction) : Assembler Nat := do
  let code ← get
  set (code.push i)
  pure code.size

def patch (at_ : Nat) (i : Instruction) : Assembler Unit := modify (·.set! at_ i)

/-- A choice between `body` and `next`, in order of greed. -/
def choice (greedy : Bool) (body next : Nat) : Instruction :=
  .branch (if greedy then [body, next] else [next, body])

/-- Assembles `count` copies of a part in front of `next`. -/
def copies (part : Nat → Assembler Nat) (next : Nat) : Nat → Assembler Nat
  | 0 => pure next
  | count + 1 => do part (← copies part next count)

/-- Assembles up to `count` copies, each of which may be left out together with those after it. -/
def optionalCopies (part : Nat → Assembler Nat) (greedy : Bool) (next : Nat) : Nat → Assembler Nat
  | 0 => pure next
  | count + 1 => do
    let rest ← optionalCopies part greedy next count
    emit (choice greedy (← part rest) next)

/-- One or more copies: after each, a choice of another one. -/
def oneOrMore (part : Nat → Assembler Nat) (greedy : Bool) (next : Nat) : Assembler (Nat × Nat) := do
  let again ← emit .accept
  let body ← part again
  patch again (choice greedy body next)
  pure (body, again)

mutual

/-- Assembles an expression that continues at `next`; the result is its entry. -/
def assemble (next : Nat) : Expr → Assembler Nat
  | .empty => pure next
  | .look l => emit (.look l next)
  | .byte set => emit (.byte set next)
  | .char set => emit (.char set next)
  | .capture index child => do
    let stop ← emit (.note (2 * index + 1) next)
    emit (.note (2 * index) (← assemble stop child))
  | .concat parts => assembleAll next parts
  | .alternation branches => do emit (.branch (← assembleEach next branches))
  | .quantified child min (some max) greedy => do
    let tail ← optionalCopies (fun n => assemble n child) greedy next (max - min)
    copies (fun n => assemble n child) tail min
  | .quantified child 0 none greedy => do
    let (body, again) ← oneOrMore (fun n => assemble n child) greedy next
    if child.consumes then pure again else emit (choice greedy body next)
  | .quantified child (min + 1) none greedy => do
    let (body, _) ← oneOrMore (fun n => assemble n child) greedy next
    copies (fun n => assemble n child) body min

def assembleAll (next : Nat) : List Expr → Assembler Nat
  | [] => pure next
  | e :: rest => do assemble (← assembleAll next rest) e

def assembleEach (next : Nat) : List Expr → Assembler (List Nat)
  | [] => pure []
  | e :: rest => do
    let entry ← assemble next e
    return entry :: (← assembleEach next rest)

end

end Assembler

/-- A program, its entry and the number of its groups, the whole match included. -/
structure Program where
  code : Array Instruction
  entry : Nat
  groupCount : Nat
  /-- Does it search text, so that matches start between characters only? -/
  overText : Bool
  deriving Inhabited

def maxStates : Nat := 10 * Nat.pow 2 20 / 32

namespace Program

/-- The program of an expression; `none` if it needs too many states. -/
def ofExpr? (e : Expr) (overText : Bool) : Option Program :=
  if maxStates < e.stateCount then none
  else
    let (entry, code) := (Assembler.assemble 0 e).run #[.accept]
    some { code, entry, groupCount := e.captureBound, overText }

/-! ## Search -/

/-- Work that is still to do: try an instruction at a position, or restore a slot. -/
inductive Task where
  | visit (pc pos : Nat)
  | restore (slot : Nat) (old : Option Nat)

/-- The state of a search: which pairs of instruction and position have been tried already, and
the positions noted on the current path. -/
structure Trail where
  seen : ByteArray
  slots : Array (Option Nat)

/-- Follows tasks until one accepts; the last task pushed is done first. A pair tried before
cannot lead to a match, or it would have ended the search. The result is the end of the match.
-/
def follow (p : Program) (bytes : ByteArray) (base stride : Nat) :
    Nat → List Task → Trail → Option Nat × Trail
  | 0, _, t => (none, t)
  | _ + 1, [], t => (none, t)
  | fuel + 1, .restore slot old :: tasks, t =>
    p.follow bytes base stride fuel tasks { t with slots := t.slots.set! slot old }
  | fuel + 1, .visit pc pos :: tasks, t =>
    let key := pc * stride + (pos - base)
    if t.seen.get! key ≠ 0 then p.follow bytes base stride fuel tasks t
    else
      let t := { t with seen := t.seen.set! key 1 }
      match p.code[pc]? with
      | none => (none, t)
      | some .accept => (some pos, t)
      | some (.byte set next) =>
        match bytes[pos]? with
        | some b =>
          if set.contains b.toNat then
            p.follow bytes base stride fuel (.visit next (pos + 1) :: tasks) t
          else p.follow bytes base stride fuel tasks t
        | none => p.follow bytes base stride fuel tasks t
      | some (.char set next) =>
        match bytes.utf8DecodeChar? pos with
        | some c =>
          if set.contains c.toNat then
            p.follow bytes base stride fuel (.visit next (pos + c.utf8Size) :: tasks) t
          else p.follow bytes base stride fuel tasks t
        | none => p.follow bytes base stride fuel tasks t
      | some (.look l next) =>
        if l.holds bytes pos then p.follow bytes base stride fuel (.visit next pos :: tasks) t
        else p.follow bytes base stride fuel tasks t
      | some (.note slot next) =>
        let old := (t.slots[slot]?).getD none
        p.follow bytes base stride fuel (.visit next pos :: .restore slot old :: tasks)
          { t with slots := t.slots.set! slot (some pos) }
      | some (.branch targets) =>
        p.follow bytes base stride fuel (targets.map (.visit · pos) ++ tasks) t

/-- The number of edges of the graph, and one task for each instruction. -/
def edgeCount (p : Program) : Nat :=
  p.code.foldl (fun n i => n + match i with
    | .branch targets => targets.length + 1
    | _ => 2) 1

def groupsOf (start stop : Nat) (slots : Array (Option Nat)) (groupCount : Nat) : Groups :=
  some ⟨start, stop⟩ :: (List.range (groupCount - 1)).map fun k =>
    match slots[2 * (k + 1)]?, slots[2 * (k + 1) + 1]? with
    | some (some a), some (some b) => some ⟨a, b⟩
    | _, _ => none

/-- Tries the starts from `pos` on, `tries` of them; pairs seen from one start stay seen. -/
def searchFrom (p : Program) (bytes : ByteArray) (base stride fuel : Nat) :
    Nat → Nat → Trail → Option Groups
  | 0, _, _ => none
  | tries + 1, pos, t =>
    if p.overText ∧ !Utf8.isBoundary bytes pos then
      p.searchFrom bytes base stride fuel tries (pos + 1) t
    else
      match p.follow bytes base stride fuel [.visit p.entry pos] t with
      | (some stop, t) => some (groupsOf pos stop t.slots p.groupCount)
      | (none, t) => p.searchFrom bytes base stride fuel tries (pos + 1) t

def freshTrail (p : Program) (stride : Nat) : Trail :=
  { seen := ⟨Array.replicate (p.code.size * stride) 0⟩
    slots := Array.replicate (2 * p.groupCount) none }

/-- Searches from `start` on; an anchored search tries that start alone. -/
def search (p : Program) (bytes : ByteArray) (start : Nat) (anchored : Bool) : Option Groups :=
  if bytes.size < start then none
  else
    let stride := bytes.size - start + 1
    let fuel := (2 * p.edgeCount + 2) * (stride + 1)
    p.searchFrom bytes start stride fuel (if anchored then 1 else stride) start (p.freshTrail stride)

end Program

/-- Why a pattern has no program. -/
inductive ProgramFault where
  | unreadable
  | tooLarge
  deriving Repr, DecidableEq

/-- A program together with the names of its groups. -/
structure Compiled where
  program : Program
  names : List (String × Nat)

/-- Reads and assembles a pattern under the given flags and limit on nesting. -/
def Compiled.ofPattern (pattern : String) (nestLimit : Nat) (flags : Flags) :
    Except ProgramFault Compiled :=
  match Reading.ofPattern? pattern.toList nestLimit with
  | none => .error .unreadable
  | some reading =>
    match reading.tree.interpret? flags with
    | none => .error .unreadable
    | some (e, _) =>
      match Program.ofExpr? e flags.overText with
      | none => .error .tooLarge
      | some program => .ok ⟨program, reading.names⟩

end PerlPattern.Linear
