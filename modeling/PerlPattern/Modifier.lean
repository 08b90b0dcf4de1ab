/-! # Pattern modifiers

Each modifier letter after the closing delimiter of a pattern selects one
compile option. A set of modifiers is given by its members; it prints as their
letters in the fixed order of `Modifier.all`.
-/

namespace PerlPattern

inductive Modifier where
  /-- Match without regard to letter case. -/
  | caseless
  /-- Let `^` and `$` match at line boundaries. -/
  | multiLine
  /-- Let `.` match newlines. -/
  | dotAll
  /-- Ignore white space and comments in the body. -/
  | extended
  /-- Matches must start at the search offset. -/
  | anchored
  /-- Let `$` match at the very end only. -/
  | dollarEndOnly
  /-- Quantifiers are lazy by default. -/
  | ungreedy
  /-- Unknown escapes are errors. -/
  | extra
  /-- Body and subject are UTF-8. -/
  | utf8
  deriving Repr, DecidableEq

namespace Modifier

def all : List Modifier :=
  [.caseless, .multiLine, .dotAll, .extended, .anchored, .dollarEndOnly, .ungreedy, .extra, .utf8]

def letter : Modifier → Char
  | .caseless => 'i'
  | .multiLine => 'm'
  | .dotAll => 's'
  | .extended => 'x'
  | .anchored => 'A'
  | .dollarEndOnly => 'D'
  | .ungreedy => 'U'
  | .extra => 'X'
  | .utf8 => 'u'

/-- The modifier that a byte names. -/
def ofByte? (b : UInt8) : Option Modifier := all.find? (·.letter.toNat == b.toNat)

theorem mem_all (m : Modifier) : m ∈ all := by cases m <;> simp [all]

end Modifier

/-- A set of modifiers. -/
structure Modifiers where
  has : Modifier → Bool

namespace Modifiers

def empty : Modifiers := ⟨fun _ => false⟩

instance : Inhabited Modifiers := ⟨empty⟩
instance : EmptyCollection Modifiers := ⟨empty⟩

def insert (s : Modifiers) (m : Modifier) : Modifiers := ⟨fun n => n == m || s.has n⟩

/-- Are all of `t`'s members in `s`? -/
def contains (s t : Modifiers) : Bool := Modifier.all.all fun m => !t.has m || s.has m

def isEmpty (s : Modifiers) : Bool := Modifier.all.all fun m => !s.has m

def toList (s : Modifiers) : List Modifier := Modifier.all.filter s.has

def ofList (l : List Modifier) : Modifiers := l.foldl insert empty

/-- The letters of the members. -/
def letters (s : Modifiers) : String := String.ofList (s.toList.map Modifier.letter)

@[ext] theorem ext {s t : Modifiers} (h : ∀ m, s.has m = t.has m) : s = t := by
  cases s
  cases t
  simpa using funext h

@[simp] theorem has_empty (m : Modifier) : (∅ : Modifiers).has m = false := rfl

@[simp] theorem has_insert (s : Modifiers) (m n : Modifier) :
    (s.insert m).has n = (n == m || s.has n) := rfl

theorem contains_iff {s t : Modifiers} : s.contains t = true ↔ ∀ m, t.has m → s.has m := by
  simp only [contains, List.all_eq_true, Bool.or_eq_true, Bool.not_eq_true']
  constructor
  · intro h m hm
    exact (h m m.mem_all).resolve_left (by simp [hm])
  · intro h m _
    cases hm : t.has m
    · exact .inl rfl
    · exact .inr (h m hm)

end Modifiers

end PerlPattern
