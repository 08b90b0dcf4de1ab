import PerlPattern.Backtrack.Tree

/-! # Reading a pattern for backtracking search

The reader keeps the offset of the next byte, because every fault names one.
Flags set by `(?i)` hold to the end of the pattern, also past the group they
stand in; only `(?i:…)` gives the flags before it back.
-/

namespace PerlPattern.Backtrack

/-- A place in a pattern: the offset in bytes, and the characters from there on. -/
structure Cursor where
  offset : Nat
  rest : List Char
  deriving Inhabited

namespace Cursor

def peek (c : Cursor) : Option Char := c.rest.head?

def next (c : Cursor) : Cursor :=
  match c.rest with
  | [] => c
  | a :: rest => ⟨c.offset + a.utf8Size, rest⟩

def skip (c : Cursor) : Nat → Cursor
  | 0 => c
  | n + 1 => c.next.skip n

def startsWith (c : Cursor) (text : String) : Bool := text.toList.isPrefixOf c.rest

def textTo (c later : Cursor) : String :=
  String.ofList (c.rest.take (c.rest.length - later.rest.length))

def skipWhile (p : Char → Bool) : Nat → Cursor → Cursor
  | 0, c => c
  | fuel + 1, c =>
    match c.peek with
    | some a => if p a then skipWhile p fuel c.next else c
    | none => c

end Cursor

/-- The flags in force while a pattern is read. -/
structure ReaderFlags where
  caseless : Bool := false
  multiLine : Bool := false
  dotMatchesAll : Bool := false
  swapGreed : Bool := false
  extended : Bool := false
  deriving Repr, Inhabited

structure ReaderState where
  /-- The length of the whole pattern in bytes. -/
  length : Nat
  flags : ReaderFlags := {}
  /-- The number of capture groups opened so far. -/
  captures : Nat := 0
  names : List (String × Nat) := []
  referenced : List Nat := []
  /-- Has a group been referred to by its number? -/
  numbered : Bool := false

abbrev Reader := StateT ReaderState (Except Fault)

namespace Reader

def failAt {α : Type} (c : Cursor) (fault : TextFault) : Reader α := throw (.text c.offset fault)

/-- Groups may be nested one less than this many levels deep. -/
def maxDepth : Nat := 64

/-- Moves past the end of a comment that is open at `c`. -/
def closeComment : Nat → Cursor → Reader Cursor
  | 0, c => failAt c .unclosedParen
  | fuel + 1, c =>
    match c.rest with
    | [] => failAt c .unclosedParen
    | ')' :: _ => pure c.next
    | ['\\'] => throw (.text (c.offset + 2) .unclosedParen)
    | '\\' :: _ => closeComment fuel (c.skip 2)
    | _ => closeComment fuel c.next

/-- Skips comment groups and, where the pattern is extended, blanks and `#` comments. -/
def blanks : Nat → Cursor → Reader Cursor
  | 0, c => pure c
  | fuel + 1, c => do
    let extended := (← get).flags.extended
    match c.rest with
    | [] => pure c
    | '(' :: '?' :: '#' :: _ =>
      blanks fuel (← closeComment (c.rest.length + 1) (c.skip 3))
    | a :: _ =>
      if extended && a = '#' then
        let line := c.skipWhile (· ≠ '\n') c.rest.length
        if line.rest.isEmpty then pure line else blanks fuel line.next
      else if extended && " \r\n\t".contains a then blanks fuel c.next
      else pure c

def skipBlanks (c : Cursor) : Reader Cursor := blanks (c.rest.length + 1) c

def closeParen (c : Cursor) : Reader Cursor := do
  let c ← skipBlanks c
  match c.peek with
  | none => failAt c .unclosedParen
  | some ')' => pure c.next
  | some _ => failAt c .expectedCloseParen

/-! ## Numbers and names -/

/-- A decimal number below `2^64`. -/
def decimal? (c : Cursor) : Option (Cursor × Nat) :=
  let stop := c.skipWhile Char.isDigit c.rest.length
  let digits := c.rest.take (c.rest.length - stop.rest.length)
  let value := digits.foldl (fun n d => n * 10 + (d.toNat - '0'.toNat)) 0
  if digits.isEmpty ∨ Nat.pow 2 64 ≤ value then none else some (stop, value)

def isNameChar (a : Char) : Bool := a = '_' || Unicode.isAlphanumeric a

/-- A name between `opener` and `closer`; a relative number may start with a hyphen. -/
def name? (c : Cursor) (opener closer : String) (relative : Bool) : Option (Cursor × String) :=
  if !c.startsWith opener then none
  else
    let start := c.skip opener.length
    let body := if relative ∧ start.startsWith "-" then start.next else start
    let stop := body.skipWhile isNameChar body.rest.length
    let name := start.textTo stop
    if name.isEmpty ∨ !stop.startsWith closer then none else some (stop.skip closer.length, name)

def refer (group : Nat) : Reader Unit :=
  modify fun s => { s with referenced := group :: s.referenced }

/-- The number that a name spells out, with its sign. -/
def signedNumber? (name : String) : Option Int :=
  match name.toList with
  | '-' :: digits => if digits.all Char.isDigit ∧ digits ≠ [] then some (-(value digits)) else none
  | digits => if digits.all Char.isDigit ∧ digits ≠ [] then some (value digits) else none
where
  value (digits : List Char) : Int :=
    digits.foldl (fun (n : Int) d => n * 10 + (d.toNat - '0'.toNat : Nat)) 0

/-- The group that a name or a number refers to; negative numbers count back from the last group
opened. -/
def groupOf? (s : ReaderState) (name : String) : Option Nat :=
  match s.names.find? (·.1 == name) with
  | some (_, group) => some group
  | none =>
    match signedNumber? name with
    | none => none
    | some n =>
      if 0 ≤ n then (if n < Nat.pow 2 63 then some n.toNat else none)
      else
        let group : Int := s.captures + (n + 1)
        if 0 ≤ group then some group.toNat else none

def namedBackref (c : Cursor) (opener closer : String) (relative : Bool) :
    Reader (Cursor × Tree) := do
  match name? c opener closer relative with
  | none => failAt c .invalidGroupName
  | some (after, name) =>
    match groupOf? (← get) name with
    | some group =>
      refer group
      pure (after, .backref group)
    | none => failAt c (.unknownGroupName name)

/-- A reference by number; the number must be below half the length of the pattern. -/
def numberedBackref (c : Cursor) : Reader (Cursor × Tree) := do
  match decimal? c with
  | some (after, group) =>
    if group < (← get).length / 2 then
      modify fun s => { s with numbered := true }
      refer group
      pure (after, .backref group)
    else failAt c .invalidBackref
  | none => failAt c .invalidBackref

/-! ## Escapes and classes -/

/-- What follows `\x`, `\u` or `\U`: so many digits, or up to eight in braces. -/
def hexEscape (c : Cursor) (width : Nat) : Reader (Cursor × Tree) := do
  let isHex (a : Char) : Bool := (CodeSet.hexDigit? a).isSome
  let value (digits : List Char) : Nat :=
    digits.foldl (fun n d => n * 16 + (CodeSet.hexDigit? d).getD 0) 0
  let finish (after : Cursor) (digits : List Char) : Reader (Cursor × Tree) := do
    let n := value digits
    if n.isValidChar then pure (after, .literal (Char.ofNat n) (← get).flags.caseless)
    else failAt c .invalidCodePoint
  let digits := c.rest.take width
  if digits.length = width ∧ digits.all isHex then finish (c.skip width) digits
  else if c.peek.map Char.toNat = some 0x7B then
    let start := c.next
    let stop := start.skipWhile isHex 8
    let digits := start.rest.take (start.rest.length - stop.rest.length)
    if digits.isEmpty ∨ stop.peek.map Char.toNat ≠ some 0x7D then failAt c .invalidHex
    else finish stop.next digits
  else failAt c .invalidHex

/-- The end of a property name that starts at `c`; `start` is the place of its backslash. -/
def propertyEnd (start c : Cursor) : Reader Cursor := do
  if c.peek.map Char.toNat = some 0x7B then
    let stop := c.skipWhile (·.toNat ≠ 0x7D) c.rest.length
    if stop.rest.isEmpty then failAt start .unclosedUnicodeName else pure stop.next
  else pure c.next

/-- Letters that mean something outside classes and stand for themselves inside. -/
def isOutsideEscape (a : Char) : Bool := "kAzbBKG".contains a

/-- What follows a backslash, which stands at `start`. -/
def escape (start : Cursor) (inClass : Bool) : Reader (Cursor × Tree) := do
  let c := start.next
  let caseless := (← get).flags.caseless
  match c.peek with
  | none => failAt start .trailingBackslash
  | some a =>
    let after := c.next
    let invalid : TextFault := .invalidEscape ("\\" ++ String.singleton a)
    let wordLook (edge : WordEdge) : Reader (Cursor × Tree) :=
      if after.peek.map Char.toNat = some 0x7B then failAt start invalid
      else pure (after, .look (.word edge true))
    if a.isDigit then numberedBackref c
    else if !inClass ∧ a = 'k' then
      if after.peek = some '\'' then namedBackref after "'" "'" true
      else namedBackref after "<" ">" true
    else if !inClass ∧ a = 'A' then pure (after, .look .textStart)
    else if !inClass ∧ a = 'z' then pure (after, .look .textEnd)
    else if !inClass ∧ a = 'b' then wordLook .boundary
    else if !inClass ∧ a = 'B' then wordLook .notBoundary
    else if !inClass ∧ a = '<' then pure (after, .look (.word .start true))
    else if !inClass ∧ a = '>' then pure (after, .look (.word .finish true))
    else if !inClass ∧ a = 'K' then pure (after, .keepOut)
    else if !inClass ∧ a = 'G' then pure (after, .searchStart)
    else if "dDsSwW".contains a then pure (after, .delegate (start.textTo after) caseless)
    else if a = 'h' then pure (after, .delegate "[0-9A-Fa-f]" false)
    else if a = 'H' then pure (after, .delegate "[^0-9A-Fa-f]" false)
    else if a = 'x' then hexEscape after 2
    else if a = 'u' then hexEscape after 4
    else if a = 'U' then hexEscape after 8
    else if (a = 'p' ∨ a = 'P') ∧ !after.rest.isEmpty then
      let stop ← propertyEnd start after
      pure (stop, .delegate (start.textTo stop) caseless)
    else
      let literal (b : Char) : Reader (Cursor × Tree) := pure (after, .literal b false)
      match a with
      | 'a' => literal '\x07'
      | 'b' => literal '\x08'
      | 'f' => literal '\x0c'
      | 'n' => literal '\n'
      | 'r' => literal '\r'
      | 't' => literal '\t'
      | 'v' => literal '\x0b'
      | 'e' => literal '\x1b'
      | a => if a.isAlpha ∧ !isOutsideEscape a then failAt start invalid else literal a

/-- Puts a backslash before a character that linear-time patterns would not take literally. -/
def quoted (a : Char) : List Char :=
  if "\\.+*?()|[]\x7b\x7d^$#".contains a then ['\\', a] else [a]

/-- The rest of a bracketed class; `acc` holds its text so far in reverse order, and `nest` the
number of open brackets. -/
def classBody : Nat → Cursor → Nat → List Char → Reader (Cursor × String)
  | 0, c, _, _ => failAt c .invalidClass
  | fuel + 1, c, nest, acc => do
    match c.peek with
    | none => failAt c .invalidClass
    | some '\\' =>
      match ← escape c true with
      | (after, .literal a _) => classBody fuel after nest ((quoted a).reverse ++ acc)
      | (after, .delegate text _) => classBody fuel after nest (text.toList.reverse ++ acc)
      | _ => failAt c .invalidClass
    | some '[' => classBody fuel c.next (nest + 1) ('[' :: acc)
    | some ']' =>
      if nest = 1 then pure (c.next, String.ofList (']' :: acc).reverse)
      else classBody fuel c.next (nest - 1) (']' :: acc)
    | some a => classBody fuel c.next nest (a :: acc)

/-- A bracketed class; a closing bracket that stands first is a member. -/
def bracketed (c : Cursor) : Reader (Cursor × Tree) := do
  let start := c.next
  let (start, acc) := if start.peek = some '^' then (start.next, ['^', '[']) else (start, ['['])
  let (start, acc) := if start.peek = some ']' then (start.next, ']' :: acc) else (start, acc)
  let (after, text) ← classBody (start.rest.length + 1) start 1 acc
  pure (after, .delegate text (← get).flags.caseless)

/-! ## Quantifiers -/

/-- A counted quantifier from its brace: the place after it and its bounds. A brace that starts no
quantifier stands for itself. -/
def counted? (c : Cursor) : Reader (Option (Cursor × Nat × Option Nat)) := do
  let c ← skipBlanks c.next
  let low : Option (Cursor × Nat) := if c.peek = some ',' then some (c, 0) else decimal? c
  match low with
  | none => pure none
  | some (c, low) =>
    let c ← skipBlanks c
    let bounds : Option (Cursor × Option Nat) ← (do
      if c.peek.map Char.toNat = some 0x7D then pure (some (c, some low))
      else if c.peek = some ',' then
        let c ← skipBlanks c.next
        match decimal? c with
        | some (c, high) => pure (some (c, if high = Nat.pow 2 64 - 1 then none else some high))
        | none => pure (some (c, none))
      else pure none)
    match bounds with
    | none => pure none
    | some (c, high) =>
      let c ← skipBlanks c
      if c.peek.map Char.toNat = some 0x7D then pure (some (c.next, low, high)) else pure none

/-- Keeps the state and gives nothing where a reading fails. -/
def attempt {α : Type} (r : Reader (Option α)) : Reader (Option α) := fun s =>
  match r s with
  | .ok result => .ok result
  | .error _ => .ok (none, s)

/-- The quantifier at `c`, if any: the place after it, where a fault in its target is reported, and
its bounds. -/
def quantifier? (c : Cursor) : Reader (Option (Cursor × Cursor × Nat × Option Nat)) := do
  match c.peek with
  | some '?' => pure (some (c.next, c, 0, some 1))
  | some '*' => pure (some (c.next, c, 0, none))
  | some '+' => pure (some (c.next, c, 1, none))
  | some a =>
    if a.toNat = 0x7B then
      match ← attempt (counted? c) with
      | some (after, low, high) => pure (some (after, ⟨after.offset - 1, []⟩, low, high))
      | none => pure none
    else pure none
  | none => pure none

/-! ## Flags -/

/-- The text of an unknown flag, up to the character at `c`. -/
def unknownFlag (start c : Cursor) : TextFault :=
  .unknownFlag ("(?" ++ start.textTo c.next)

def setFlag (a : Char) (on : Bool) (f : ReaderFlags) : Option ReaderFlags :=
  match a with
  | 'i' => some { f with caseless := on }
  | 'm' => some { f with multiLine := on }
  | 's' => some { f with dotMatchesAll := on }
  | 'U' => some { f with swapGreed := on }
  | 'x' => some { f with extended := on }
  | _ => none

/-- Sets flags up to a closing parenthesis or a colon; the result is the place after it, and
whether it was a colon. -/
def flagLetters (start : Cursor) : Nat → Cursor → Bool → Reader (Cursor × Bool)
  | 0, c, _ => failAt c .unclosedParen
  | fuel + 1, c, negated => do
    let c ← skipBlanks c
    match c.peek with
    | none => failAt c .unclosedParen
    | some 'u' =>
      if negated then failAt c .nonUnicode else flagLetters start fuel c.next negated
    | some '-' =>
      if negated then failAt start (unknownFlag start c) else flagLetters start fuel c.next true
    | some ')' =>
      if c.offset = start.offset ∨ (negated ∧ c.offset = start.offset + 1) then
        failAt start (unknownFlag start c)
      else pure (c.next, false)
    | some ':' =>
      if negated ∧ c.offset = start.offset + 1 then failAt start (unknownFlag start c)
      else pure (c.next, true)
    | some a =>
      match setFlag a (!negated) (← get).flags with
      | some flags =>
        modify fun s => { s with flags := flags }
        flagLetters start fuel c.next negated
      | none => failAt start (unknownFlag start c)

/-! ## Groups, branches and pieces -/

def newCapture : Reader Nat := do
  let s ← get
  set { s with captures := s.captures + 1 }
  pure (s.captures + 1)

/-- Opens a named group; `c` is the place of its name, and `fault` that of a fault in the name. -/
def namedGroup (c fault : Cursor) : Reader Cursor := do
  let index ← newCapture
  match name? c "<" ">" false with
  | none => failAt fault .invalidGroupName
  | some (after, name) =>
    modify fun s => { s with names := (name, index) :: s.names.filter (·.1 != name) }
    pure after

def sequence : List Tree → Tree
  | [] => .empty
  | [t] => t
  | parts => .concat parts

/-- The branches of a conditional: the first branch of an alternation, and the others. -/
def splitBranches : Tree → Tree × Tree
  | .alternation (yes :: [no]) => (yes, no)
  | .alternation (yes :: others) => (yes, .alternation others)
  | t => (t, .empty)

/-- A reference as the condition of a conditional asks whether its group has matched. -/
def asCondition : Tree → Tree
  | .backref group => .groupMatched group
  | t => t

mutual

/-- An alternation from `c`, up to something that cannot belong to it. -/
def alternation (fuel : Nat) (c : Cursor) (depth : Nat) : Reader (Cursor × Tree) := do
  match fuel with
  | 0 => failAt c .tooDeep
  | fuel + 1 =>
    let (after, first) ← branch fuel c depth []
    let after ← skipBlanks after
    if after.peek = some '|' then
      let (stop, others) ← moreBranches fuel after depth []
      pure (stop, .alternation (first :: others))
    else
      let s ← get
      if s.numbered ∧ !s.names.isEmpty then throw (.tree .numberedWithNames)
      pure (after, first)

/-- The branches that follow bars; `acc` is in reverse order. -/
def moreBranches (fuel : Nat) (c : Cursor) (depth : Nat) (acc : List Tree) :
    Reader (Cursor × List Tree) := do
  match fuel with
  | 0 => failAt c .tooDeep
  | fuel + 1 =>
    if c.peek = some '|' then
      let (after, next) ← branch fuel c.next depth []
      moreBranches fuel (← skipBlanks after) depth (next :: acc)
    else pure (c, acc.reverse)

/-- A sequence of pieces; it ends where a piece is empty and consumes nothing. -/
def branch (fuel : Nat) (c : Cursor) (depth : Nat) (acc : List Tree) : Reader (Cursor × Tree) := do
  match fuel with
  | 0 => failAt c .tooDeep
  | fuel + 1 =>
    if c.rest.isEmpty then pure (c, sequence acc.reverse)
    else
      let (after, next) ← piece fuel c depth
      if after.offset = c.offset then pure (c, sequence acc.reverse)
      else branch fuel after depth (if next.isEmpty then acc else next :: acc)

/-- An atom with its quantifier; a plus sign after the quantifier makes it possessive. -/
def piece (fuel : Nat) (c : Cursor) (depth : Nat) : Reader (Cursor × Tree) := do
  match fuel with
  | 0 => failAt c .tooDeep
  | fuel + 1 =>
    let (c, child) ← atom fuel c depth
    let c ← skipBlanks c
    match ← quantifier? c with
    | none => pure (c, child)
    | some (after, place, min, max) =>
      if !child.isQuantifiable then failAt place .notQuantifiable
      let after ← skipBlanks after
      let lazy := after.peek = some '?'
      let after := if lazy then after.next else after
      let node : Tree := .quantified child min max (!lazy != (← get).flags.swapGreed)
      if after.peek = some '+' then pure (after.next, .atomic node) else pure (after, node)

def atom (fuel : Nat) (c : Cursor) (depth : Nat) : Reader (Cursor × Tree) := do
  match fuel with
  | 0 => failAt c .tooDeep
  | fuel + 1 =>
    let c ← skipBlanks c
    let flags := (← get).flags
    match c.peek with
    | none => pure (c, .empty)
    | some '.' => pure (c.next, .any flags.dotMatchesAll)
    | some '^' => pure (c.next, .look (if flags.multiLine then .lineStart else .textStart))
    | some '$' => pure (c.next, .look (if flags.multiLine then .lineEnd else .textEnd))
    | some '(' => group fuel c (depth + 1)
    | some '\\' => escape c false
    | some '+' | some '*' | some '?' | some '|' | some ')' => pure (c, .empty)
    | some '[' => bracketed c
    | some a => pure (c.next, .literal a flags.caseless)

def group (fuel : Nat) (c : Cursor) (depth : Nat) : Reader (Cursor × Tree) := do
  match fuel with
  | 0 => failAt c .tooDeep
  | fuel + 1 =>
    if maxDepth ≤ depth then failAt c .tooDeep
    let c ← skipBlanks c.next
    let inner (c : Cursor) (wrap : Tree → Tree) : Reader (Cursor × Tree) := do
      let (after, child) ← alternation fuel c depth
      pure (← closeParen after, wrap child)
    if c.startsWith "?=" then inner (c.skip 2) (.around .ahead)
    else if c.startsWith "?!" then inner (c.skip 2) (.around .notAhead)
    else if c.startsWith "?<=" then inner (c.skip 3) (.around .behind)
    else if c.startsWith "?<!" then inner (c.skip 3) (.around .notBehind)
    else if c.startsWith "?<" then inner (← namedGroup c.next c) .group
    else if c.startsWith "?P<" then inner (← namedGroup (c.skip 2) c) .group
    else if c.startsWith "?P=" then namedBackref (c.skip 3) "" ")" false
    else if c.startsWith "?>" then inner (c.skip 2) .atomic
    else if c.startsWith "?(" then conditional fuel (c.skip 2) depth
    else if c.startsWith "?" then flagGroup fuel c.next depth
    else
      let _ ← newCapture
      inner c .group

/-- Flags on their own, or for the group that follows the colon. -/
def flagGroup (fuel : Nat) (start : Cursor) (depth : Nat) : Reader (Cursor × Tree) := do
  match fuel with
  | 0 => failAt start .tooDeep
  | fuel + 1 =>
    let outer := (← get).flags
    let (c, opened) ← flagLetters start (start.rest.length + 1) start false
    if opened then
      let (after, child) ← alternation fuel c depth
      match after.peek with
      | none => failAt after .unclosedParen
      | some ')' =>
        modify fun s => { s with flags := outer }
        pure (after.next, child)
      | some _ => failAt after .expectedCloseParen
    else pure (c, .empty)

/-- A conditional from its condition. A reference alone asks whether its group has matched. -/
def conditional (fuel : Nat) (c : Cursor) (depth : Nat) : Reader (Cursor × Tree) := do
  match fuel with
  | 0 => failAt c .tooDeep
  | fuel + 1 =>
    let (c, condition) ← (do
      match c.peek with
      | none => failAt c .unclosedParen
      | some a =>
        if a.isDigit then numberedBackref c
        else if a = '\'' then namedBackref c "'" "'" true
        else if a = '<' then namedBackref c "<" ">" true
        else alternation fuel c depth)
    let start ← closeParen c
    let (stop, child) ← alternation fuel start depth
    if stop.offset = start.offset then
      match condition with
      | .backref group => pure (← closeParen stop, .groupMatched group)
      | _ => failAt stop .expectedTrueBranch
    else
      let (yes, no) := splitBranches child
      let after ← closeParen stop
      if yes.isEmpty ∧ no.isEmpty then pure (after, asCondition condition)
      else pure (after, .conditional (asCondition condition) yes no)

end

end Reader

def Reading.ofPattern (pattern : String) : Except Fault Reading := do
  let chars := pattern.toList
  let fuel := 8 * (chars.length + 2)
  let ((stop, tree), state) ←
    (Reader.alternation fuel ⟨0, chars⟩ 0).run { length := pattern.utf8ByteSize }
  if stop.rest.isEmpty then
    pure ⟨tree, state.referenced, state.names⟩
  else throw (.text stop.offset .unexpectedText)

end PerlPattern.Backtrack
