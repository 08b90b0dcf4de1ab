import PerlPattern.Linear.Syntax

/-! # Reading a regular expression

A reader consumes the characters of a pattern and fails on anything that the
linear-time language lacks: look-around groups, back references, possessive
groups, unknown escapes. Failure carries no cause; a caller that needs one
asks the backtracking language, which is tried next.

Loops over the pattern take a fuel argument; a fuel of one more than the
pattern's length is never used up, since every round consumes a character.
-/

namespace PerlPattern.Linear

structure ReaderState where
  rest : List Char
  /-- Are blanks and comments between tokens skipped? -/
  extended : Bool := false
  /-- The number of capture groups opened so far. -/
  captures : Nat := 0
  /-- The names of capture groups with their indexes. -/
  names : List (String × Nat) := []

abbrev Reader := StateT ReaderState Option

namespace Reader

def peek : Reader (Option Char) := return (← get).rest.head?

def peekSecond : Reader (Option Char) := return (← get).rest.tail.head?

/-- The next character; fails at the end. -/
def here : Reader Char := do
  match ← peek with
  | some c => pure c
  | none => failure

def bump : Reader Unit := modify fun s => { s with rest := s.rest.tail }

/-- Drops blanks and `#` comments. -/
def dropBlanks (inComment : Bool) : List Char → List Char
  | [] => []
  | c :: rest =>
    if inComment then dropBlanks (c ≠ '\n') rest
    else if Unicode.isWhiteSpace c then dropBlanks false rest
    else if c = '#' then dropBlanks true rest
    else c :: rest

/-- Skips blanks and comments where the pattern allows them. -/
def skip : Reader Unit :=
  modify fun s => if s.extended then { s with rest := dropBlanks false s.rest } else s

/-- Moves over one character and what may be skipped after it. -/
def step : Reader Unit := do
  bump
  skip

def accept (text : String) : Reader Bool := do
  let s ← get
  if text.toList.isPrefixOf s.rest then
    set { s with rest := s.rest.drop text.length }
    pure true
  else pure false

def expect (c : Char) : Reader Unit := do
  if (← here) = c then bump else failure

/-! ## Numbers -/

/-- Collects digits, skipping what may be skipped between them. -/
def digits : Nat → Nat → Bool → Reader (Nat × Bool)
  | 0, value, any => pure (value, any)
  | fuel + 1, value, any => do
    match ← peek with
    | some c =>
      if c.isDigit then
        step
        digits fuel (value * 10 + (c.toNat - '0'.toNat)) true
      else pure (value, any)
    | none => pure (value, any)

def dropWhiteSpace : List Char → List Char
  | [] => []
  | c :: rest => if Unicode.isWhiteSpace c then dropWhiteSpace rest else c :: rest

/-- A count of at most 32 bits, with blanks around it; `none` where no digit stands. -/
def count? : Reader (Option Nat) := do
  modify fun s => { s with rest := dropWhiteSpace s.rest }
  let (value, any) ← digits ((← get).rest.length + 1) 0 false
  modify fun s => { s with rest := dropWhiteSpace s.rest }
  skip
  if any then
    if value < Nat.pow 2 32 then pure (some value) else failure
  else pure none

/-! ## Escapes -/

def isMeta (c : Char) : Bool := "\\.+*?()|[]\x7b\x7d^$#&-~".contains c

/-- May a backslash stand before `c` without a meaning of its own? -/
def isEscapable (c : Char) : Bool :=
  isMeta c || (c.toNat < 0x80 && !c.isAlphanum && c ≠ '<' && c ≠ '>')

def scalar? (n : Nat) : Option Char :=
  if n.isValidChar then some (Char.ofNat n) else none

def hexDigits : Nat → Nat → Reader Nat
  | 0, value => do
    skip
    pure value
  | n + 1, value => do
    match CodeSet.hexDigit? (← here) with
    | some d =>
      bump
      if n ≠ 0 then skip
      hexDigits n (value * 16 + d)
    | none => failure

/-- Hexadecimal digits up to a closing brace; the reader stands on the brace or a digit. -/
def bracedHex : Nat → Option Nat → Reader Nat
  | 0, _ => failure
  | fuel + 1, value => do
    let c ← here
    if c.toNat = 0x7D then
      step
      match value with
      | some n => pure n
      | none => failure
    else
      match CodeSet.hexDigit? c with
      | some d =>
        step
        bracedHex fuel (some (value.getD 0 * 16 + d))
      | none => failure

/-- What follows `\x`, `\u` or `\U`; `width` is the number of digits without braces. -/
def hexEscape (width : Nat) : Reader Literal := do
  step
  if (← here).toNat = 0x7B then
    step
    match scalar? (← bracedHex ((← get).rest.length + 1) none) with
    | some c => pure ⟨c, false⟩
    | none => failure
  else
    match scalar? (← hexDigits width 0) with
    | some c => pure ⟨c, width = 2⟩
    | none => failure

def bracedName : Nat → List Char → Reader (List Char)
  | 0, _ => failure
  | fuel + 1, acc => do
    let c ← here
    if c.toNat = 0x7D then
      bump
      pure acc.reverse
    else
      step
      bracedName fuel (c :: acc)

def propertyEscape : Reader (List Char) := do
  step
  let c ← here
  if c.toNat = 0x7B then
    step
    bracedName ((← get).rest.length + 1) []
  else if c = '\\' then failure
  else
    step
    pure [c]

/-- The letters and hyphens of `\b{…}`. -/
def edgeName : Nat → List Char → Reader (List Char)
  | 0, acc => pure acc.reverse
  | fuel + 1, acc => do
    match ← peek with
    | some c =>
      if c.isAlpha || c = '-' then
        step
        edgeName fuel (c :: acc)
      else pure acc.reverse
    | none => pure acc.reverse

/-- After `\b`: a brace that starts a name selects a special edge. -/
def wordEdge : Reader WordEdge := do
  if (← peek) ≠ some (Char.ofNat 0x7B) then return .boundary
  let saved ← get
  step
  let c ← here
  if !(c.isAlpha || c = '-') then
    set saved
    return .boundary
  let name ← edgeName ((← get).rest.length + 1) []
  if (← here).toNat ≠ 0x7D then failure
  bump
  match String.ofList name with
  | "start" => pure .start
  | "end" => pure .finish
  | "start-half" => pure .startHalf
  | "end-half" => pure .finishHalf
  | _ => failure

/-- One element of a pattern or of a class. -/
inductive Primitive where
  | literal (l : Literal)
  | anchor (a : Anchor)
  | perl (cls : PerlClass) (negated : Bool)
  | property (query : List Char) (negated : Bool)

/-- What follows a backslash; the reader stands on the backslash. -/
def escape : Reader Primitive := do
  bump
  let c ← here
  match c with
  | 'x' => return .literal (← hexEscape 2)
  | 'u' => return .literal (← hexEscape 4)
  | 'U' => return .literal (← hexEscape 8)
  | 'p' => return .property (← propertyEscape) false
  | 'P' => return .property (← propertyEscape) true
  | _ => pure ()
  bump
  match c with
  | 'd' => pure (.perl .digit false)
  | 'D' => pure (.perl .digit true)
  | 's' => pure (.perl .space false)
  | 'S' => pure (.perl .space true)
  | 'w' => pure (.perl .word false)
  | 'W' => pure (.perl .word true)
  | 'a' => pure (.literal ⟨'\x07', false⟩)
  | 'f' => pure (.literal ⟨'\x0c', false⟩)
  | 't' => pure (.literal ⟨'\t', false⟩)
  | 'n' => pure (.literal ⟨'\n', false⟩)
  | 'r' => pure (.literal ⟨'\r', false⟩)
  | 'v' => pure (.literal ⟨'\x0b', false⟩)
  | 'A' => pure (.anchor .textStart)
  | 'z' => pure (.anchor .textEnd)
  | 'b' => return .anchor (.word (← wordEdge))
  | 'B' => pure (.anchor (.word .notBoundary))
  | '<' => pure (.anchor (.word .start))
  | '>' => pure (.anchor (.word .finish))
  | c => if isEscapable c then pure (.literal ⟨c, false⟩) else failure

/-! ## Classes -/

def asciiClass? : String → Option AsciiClass
  | "alnum" => some .alnum
  | "alpha" => some .alpha
  | "ascii" => some .ascii
  | "blank" => some .blank
  | "cntrl" => some .cntrl
  | "digit" => some .digit
  | "graph" => some .graph
  | "lower" => some .lower
  | "print" => some .print
  | "punct" => some .punct
  | "space" => some .space
  | "upper" => some .upper
  | "word" => some .word
  | "xdigit" => some .xdigit
  | _ => none

/-- Reads `[:name:]` or `[:^name:]`; leaves the reader alone if none stands next. -/
def namedClass? : Reader (Option ClassItem) := do
  let s ← get
  match s.rest with
  | '[' :: ':' :: rest =>
    let (negated, rest) := match rest with
      | '^' :: rest => (true, rest)
      | rest => (false, rest)
    let name := rest.takeWhile (· ≠ ':')
    match asciiClass? (String.ofList name), rest.drop name.length with
    | some cls, ':' :: ']' :: rest =>
      set { s with rest := rest }
      pure (some (.ascii cls negated))
    | _, _ => pure none
  | _ => pure none

def classPrimitive : Reader Primitive := do
  let c ← here
  if c = '\\' then escape
  else
    bump
    pure (.literal ⟨c, false⟩)

/-- The character after the next one, past anything that may be skipped. -/
def peekPastBlanks : Reader (Option Char) := do
  let s ← get
  let rest := if s.extended then dropBlanks false s.rest.tail else s.rest.tail
  pure rest.head?

/-- A single item or a range. Only literals can end a range; assertions are no items. -/
def classRange : Reader ClassItem := do
  let first ← classPrimitive
  skip
  let c ← here
  let next ← peekPastBlanks
  if c ≠ '-' ∨ next = some ']' ∨ next = some '-' then
    match first with
    | .literal l => pure (.literal l)
    | .perl cls negated => pure (.perl cls negated)
    | .property query negated => pure (.property query negated)
    | .anchor _ => failure
  else
    step
    let _ ← here
    match first, ← classPrimitive with
    | .literal a, .literal b =>
      if a.char.toNat ≤ b.char.toNat then pure (.range a b) else failure
    | _, _ => failure

/-- Puts an operator that waits for its right side before `set`. -/
def joinPending (pending : Option (SetOp × ClassSet)) (set : ClassSet) : ClassSet :=
  match pending with
  | some (op, lhs) => .binary op lhs set
  | none => set

/-- Hyphens at the start of a class stand for themselves. -/
def leadingHyphens : Nat → List ClassItem → Reader (List ClassItem)
  | 0, acc => pure acc
  | fuel + 1, acc => do
    if (← here) = '-' then
      step
      leadingHyphens fuel (.literal ⟨'-', false⟩ :: acc)
    else pure acc

/-- The start of a class, from its bracket: is it negated, and the items read already. -/
def openClass : Reader (Bool × List ClassItem) := do
  step
  let negated ← (do
    if (← here) = '^' then
      step
      pure true
    else pure false)
  let hyphens ← leadingHyphens ((← get).rest.length + 1) []
  if hyphens.isEmpty ∧ (← here) = ']' then
    step
    let _ ← here
    pure (negated, [.literal ⟨']', false⟩])
  else
    let _ ← here
    pure (negated, hyphens)

/-- The rest of a class up to its closing bracket; `items` are in reverse order. -/
def classBody : Nat → Option (SetOp × ClassSet) → List ClassItem → Reader ClassSet
  | 0, _, _ => failure
  | fuel + 1, pending, items => do
    skip
    let c ← here
    let next ← peekSecond
    let operator (op : SetOp) : Reader ClassSet := do
      bump
      bump
      classBody fuel (some (op, joinPending pending (.ofItems items.reverse))) []
    if c = '[' then
      match ← namedClass? with
      | some item => classBody fuel pending (item :: items)
      | none =>
        let (negated, first) ← openClass
        let set ← classBody fuel none first
        classBody fuel pending (.bracketed negated set :: items)
    else if c = ']' then
      bump
      pure (joinPending pending (.ofItems items.reverse))
    else if c = '&' ∧ next = some '&' then operator .intersection
    else if c = '-' ∧ next = some '-' then operator .difference
    else if c = '~' ∧ next = some '~' then operator .symmetricDifference
    else classBody fuel pending ((← classRange) :: items)

/-! ## Groups -/

/-- May `c` stand in a group name, at its start or later? -/
def isNameChar (c : Char) (first : Bool) : Bool :=
  if first then c = '_' || Unicode.isAlphabetic c
  else c = '_' || c = '.' || c = '[' || c = ']' || Unicode.isAlphanumeric c

def groupName : Nat → List Char → Reader String
  | 0, _ => failure
  | fuel + 1, acc => do
    let c ← here
    if c = '>' then
      bump
      if acc.isEmpty then failure else pure (String.ofList acc.reverse)
    else if isNameChar c acc.isEmpty then
      bump
      groupName fuel (c :: acc)
    else failure

def flag? : Char → Option Flag
  | 'i' => some .caseless
  | 'm' => some .multiLine
  | 's' => some .dotMatchesAll
  | 'U' => some .swapGreed
  | 'u' => some .unicode
  | 'R' => some .crlf
  | 'x' => some .extended
  | _ => none

/-- Flags up to a colon or a closing parenthesis, which is not consumed. No flag stands twice,
nor does the hyphen, and the hyphen does not stand last. -/
def flagChanges : Nat → Bool → Bool → List FlagChange → Reader (List FlagChange × Bool)
  | 0, _, _, _ => failure
  | fuel + 1, cleared, afterHyphen, acc => do
    let c ← here
    if c = ':' ∨ c = ')' then
      if afterHyphen then failure else pure (acc.reverse, cleared)
    else if c = '-' then
      if cleared then failure
      bump
      flagChanges fuel true true acc
    else
      match flag? c with
      | none => failure
      | some f =>
        if acc.any (·.flag == f) then failure
        bump
        flagChanges fuel cleared false (⟨f, !cleared⟩ :: acc)

/-- What the flags say about skipping blanks, if anything. -/
def extendedAmong (changes : List FlagChange) : Option Bool :=
  (changes.find? (·.flag == .extended)).map (·.on)

def newCapture : Reader Nat := do
  let s ← get
  set { s with captures := s.captures + 1 }
  pure (s.captures + 1)

/-- The start of a group, from its parenthesis: a group kind, or a lone setting of flags. -/
def openGroup : Reader (GroupKind ⊕ List FlagChange) := do
  step
  for text in ["?=", "?!", "?<=", "?<!"] do
    if ← accept text then failure
  if (← accept "?P<") || (← accept "?<") then
    let index ← newCapture
    let name ← groupName ((← get).rest.length + 1) []
    let s ← get
    if s.names.any (·.1 == name) then failure
    set { s with names := s.names ++ [(name, index)] }
    pure (.inl (.capture index))
  else if ← accept "?" then
    let (changes, cleared) ← flagChanges ((← get).rest.length + 1) false false []
    let c ← here
    bump
    if c = ')' then
      if changes.isEmpty ∧ !cleared then failure else pure (.inr changes)
    else pure (.inl (.flags changes))
  else return .inl (.capture (← newCapture))

/-! ## Quantifiers -/

/-- Can a quantifier follow this element? -/
def isQuantifiable : Syntax → Bool
  | .empty | .flags _ => false
  | _ => true

/-- A question mark after a quantifier makes it lazy. -/
def greediness : Reader Bool := do
  if (← peek) = some '?' then
    bump
    pure false
  else pure true

/-- The bounds of a counted quantifier, from its opening brace. -/
def countedBounds : Reader (Nat × Option Nat) := do
  step
  let _ ← here
  let low ← count?
  let c ← here
  let bounds ← (do
    match low with
    | none => failure
    | some low =>
      if c = ',' then
        step
        if (← here).toNat = 0x7D then pure (low, none)
        else
          match ← count? with
          | some high => pure (low, some high)
          | none => failure
      else pure (low, some low))
  if (← here).toNat ≠ 0x7D then failure
  step
  pure bounds

/-- Applies a quantifier to the last of the parts read, which stand in reverse order. -/
def quantify (parts : List Syntax) (min : Nat) (max : Option Nat) (greedy : Bool) :
    Reader (List Syntax) :=
  match parts with
  | last :: before =>
    if isQuantifiable last then pure (.quantified last min max greedy :: before) else failure
  | [] => failure

/-! ## Sequences and alternations -/

def primitive : Reader Syntax := do
  let c ← here
  match c with
  | '\\' =>
    match ← escape with
    | .literal l => pure (.literal l)
    | .anchor a => pure (.anchor a)
    | .perl cls negated => pure (.perl cls negated)
    | .property query negated => pure (.property query negated)
  | '.' =>
    bump
    pure .dot
  | '^' =>
    bump
    pure (.anchor .caret)
  | '$' =>
    bump
    pure (.anchor .dollar)
  | c =>
    bump
    pure (.literal ⟨c, false⟩)

/-- Reads parts and branches up to a closing parenthesis or the end. Both lists are in reverse
order; the closing parenthesis is not consumed. -/
def branches : Nat → List Syntax → List Syntax → Reader Syntax
  | 0, _, _ => failure
  | fuel + 1, done, parts => do
    skip
    let finish : Syntax := .ofBranches ((Syntax.ofParts parts.reverse :: done).reverse)
    match ← peek with
    | none => pure finish
    | some ')' => pure finish
    | some '|' =>
      bump
      branches fuel (Syntax.ofParts parts.reverse :: done) []
    | some '(' =>
      let outer := (← get).extended
      match ← openGroup with
      | .inr changes =>
        modify fun s => { s with extended := (extendedAmong changes).getD s.extended }
        branches fuel done (.flags changes :: parts)
      | .inl kind =>
        match kind with
        | .flags changes =>
          modify fun s => { s with extended := (extendedAmong changes).getD s.extended }
        | .capture _ => pure ()
        let child ← branches fuel [] []
        expect ')'
        modify fun s => { s with extended := outer }
        branches fuel done (.group kind child :: parts)
    | some '[' =>
      let (negated, first) ← openClass
      let set ← classBody ((← get).rest.length + 1) none first
      branches fuel done (.bracketed negated set :: parts)
    | some '?' =>
      bump
      branches fuel done (← quantify parts 0 (some 1) (← greediness))
    | some '*' =>
      bump
      branches fuel done (← quantify parts 0 none (← greediness))
    | some '+' =>
      bump
      branches fuel done (← quantify parts 1 none (← greediness))
    | some c =>
      if c.toNat = 0x7B then
        if !(parts.head?.any isQuantifiable) then failure
        let (min, max) ← countedBounds
        let greedy ← greediness
        if max.any (· < min) then failure
        branches fuel done (← quantify parts min max greedy)
      else branches fuel done ((← primitive) :: parts)

end Reader

/-- A pattern as read: its tree and the names of its capture groups. -/
structure Reading where
  tree : Syntax
  names : List (String × Nat)

/-- Reads a whole pattern whose tree is nested at most `nestLimit` levels deep. -/
def Reading.ofPattern? (pattern : List Char) (nestLimit : Nat) : Option Reading := do
  let (tree, state) ← (Reader.branches (2 * pattern.length + 2) [] []).run { rest := pattern }
  if state.rest.isEmpty ∧ tree.nesting ≤ nestLimit then some ⟨tree, state.names⟩ else none

end PerlPattern.Linear
