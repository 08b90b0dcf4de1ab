import Mathlib.Order.Bounds.Basic
import PerlPattern.Engine

/-! # How deep groups are nested

A pattern whose brackets are complete is a sequence of escapes, plain bytes,
classes and groups. The scan for its depth finds the largest number of groups
around any of its points. What is escaped or stands in a class counts for nothing,
and whatever follows a class is scanned as if the class were not there.
-/

namespace PerlPattern

/-- An escaped byte, or one that neither escapes another nor closes the class. -/
inductive ClassElement where
  | escape (b : UInt8)
  | plain (b : UInt8) (h : b ∉ ['\\', ']'].map Char.toUInt8)

/-- What a class starts with. Only there may a closing bracket belong to it. -/
inductive ClassStart where
  | bracket
  | element (e : ClassElement)

def ClassElement.text : ClassElement → List UInt8
  | escape b => ['\\'.toUInt8, b]
  | plain b _ => [b]

def ClassStart.text : ClassStart → List UInt8
  | bracket => [']'.toUInt8]
  | element e => e.text

/-- A class, which holds something. A caret right after its opening bracket always negates it. -/
structure ClassText where
  negated : Bool
  start : ClassStart
  more : List ClassElement
  start_ne_caret : negated = false → start.text.head? ≠ some '^'.toUInt8

namespace ClassText

def opening (c : ClassText) : List UInt8 :=
  '['.toUInt8 :: if c.negated then ['^'.toUInt8] else []

def text (c : ClassText) : List UInt8 :=
  c.opening ++ c.start.text ++ c.more.flatMap ClassElement.text ++ [']'.toUInt8]

end ClassText

/-- A pattern as a sequence of items, each with what follows it. -/
inductive Outline where
  | nil
  | escape (b : UInt8) (rest : Outline)
  | plain (b : UInt8) (h : b ∉ ['\\', '[', '(', ')'].map Char.toUInt8) (rest : Outline)
  | charClass (c : ClassText) (rest : Outline)
  | group (inner rest : Outline)

namespace Outline

def text : Outline → List UInt8
  | nil => []
  | escape b rest => '\\'.toUInt8 :: b :: rest.text
  | plain b _ rest => b :: rest.text
  | charClass c rest => c.text ++ rest.text
  | group inner rest => '('.toUInt8 :: (inner.text ++ ')'.toUInt8 :: rest.text)

/-- The spans of all groups, parentheses included, where the pattern starts at an offset. -/
def groups (offset : Nat) : Outline → List Span
  | nil => []
  | escape _ rest => rest.groups (offset + 2)
  | plain _ _ rest => rest.groups (offset + 1)
  | charClass c rest => rest.groups (offset + c.text.length)
  | group inner rest =>
    ⟨offset, offset + inner.text.length + 2⟩ ::
      (inner.groups (offset + 1) ++ rest.groups (offset + inner.text.length + 2))

/-- How many of some spans enclose a point, which lies between two bytes. -/
def enclosing (spans : List Span) (point : Nat) : Nat :=
  spans.countP fun s => s.start < point ∧ point < s.stop

def height : Outline → Nat
  | nil => 0
  | escape _ rest | plain _ _ rest | charClass _ rest => rest.height
  | group inner rest => max (inner.height + 1) rest.height

/-- What is left of a pattern without its escapes and classes. -/
def bare : Outline → Outline
  | nil => nil
  | escape _ rest | charClass _ rest => rest.bare
  | plain b h rest => plain b h rest.bare
  | group inner rest => group inner.bare rest.bare

end Outline

theorem ClassElement.head_text (e : ClassElement) :
    ∃ b more, e.text = b :: more ∧ b ≠ ']'.toUInt8 := by
  cases e with
  | escape b => exact ⟨_, [b], rfl, by decide⟩
  | plain b h =>
    simp only [List.map_cons, List.map_nil, List.mem_cons, List.not_mem_nil, or_false, not_or] at h
    exact ⟨b, [], rfl, h.2⟩

namespace Engine

variable {current deepest : Nat} {rest : List UInt8}

theorem scanDepth_skip (d : Depth) (skip : Nat) (b : UInt8) :
    scanDepth d (skip + 1) (b :: rest) = scanDepth d skip rest := rfl

theorem scanDepth_plain {b : UInt8} (h : b ∉ ['\\', '[', '(', ')'].map Char.toUInt8) :
    scanDepth ⟨current, deepest, false⟩ 0 (b :: rest) =
      scanDepth ⟨current, deepest, false⟩ 0 rest := by
  change b ∉ ([0x5C, 0x5B, 0x28, 0x29] : List UInt8) at h
  simp only [List.mem_cons, List.not_mem_nil, or_false, not_or] at h
  obtain ⟨hEscape, hClass, hOpen, hClose⟩ := h
  simp [scanDepth, hEscape, hClass, hOpen, hClose]

theorem scanDepth_element (e : ClassElement) :
    scanDepth ⟨current, deepest, true⟩ 0 (e.text ++ rest) =
      scanDepth ⟨current, deepest, true⟩ 0 rest := by
  cases e with
  | escape b => rfl
  | plain b h =>
    change b ∉ ([0x5C, 0x5D] : List UInt8) at h
    simp only [List.mem_cons, List.not_mem_nil, or_false, not_or] at h
    obtain ⟨hEscape, hClose⟩ := h
    simp [ClassElement.text, scanDepth, hEscape, hClose]

theorem scanDepth_elements (elements : List ClassElement) :
    scanDepth ⟨current, deepest, true⟩ 0 (elements.flatMap ClassElement.text ++ rest) =
      scanDepth ⟨current, deepest, true⟩ 0 rest := by
  induction elements with
  | nil => rfl
  | cons e elements ih => rw [List.flatMap_cons, List.append_assoc, scanDepth_element, ih]

theorem scanDepth_bracket : scanDepth ⟨current, deepest, false⟩ 0 ('['.toUInt8 :: rest) =
    let caret := if rest.head? = some '^'.toUInt8 then 1 else 0
    let bracket := if (rest.drop caret).head? = some ']'.toUInt8 then 1 else 0
    scanDepth ⟨current, deepest, true⟩ (caret + bracket) rest := rfl

/-- The scan stands in the class behind whatever it starts with. -/
theorem scanDepth_start (c : ClassText) :
    scanDepth ⟨current, deepest, false⟩ 0 (c.opening ++ c.start.text ++ rest) =
      scanDepth ⟨current, deepest, true⟩ 0 rest := by
  obtain ⟨negated, start, more, hCaret⟩ := c
  cases start with
  | bracket => cases negated <;> rfl
  | element e =>
    obtain ⟨b, tail, hText, hBracket⟩ := e.head_text
    have hInside : scanDepth ⟨current, deepest, true⟩ 0 (e.text ++ rest) =
        scanDepth ⟨current, deepest, true⟩ 0 rest := scanDepth_element e
    simp only [ClassStart.text, ClassText.opening, hText] at hCaret hInside ⊢
    cases negated with
    | false =>
      have hPlain : b ≠ '^'.toUInt8 := fun hSame => hCaret rfl (congrArg some hSame)
      simpa [scanDepth_bracket, hPlain, hBracket] using hInside
    | true => simpa [scanDepth_bracket, scanDepth_skip, hBracket] using hInside

/-- A class is scanned as if it were not there, whatever follows it. -/
theorem scanDepth_class (c : ClassText) :
    scanDepth ⟨current, deepest, false⟩ 0 (c.text ++ rest) =
      scanDepth ⟨current, deepest, false⟩ 0 rest := by
  have hClose : scanDepth ⟨current, deepest, true⟩ 0 (']'.toUInt8 :: rest) =
      scanDepth ⟨current, deepest, false⟩ 0 rest := rfl
  rw [ClassText.text, List.append_assoc, List.append_assoc, scanDepth_start, scanDepth_elements]
  exact hClose

theorem scanDepth_open : scanDepth ⟨current, deepest, false⟩ 0 ('('.toUInt8 :: rest) =
    scanDepth ⟨current + 1, max deepest (current + 1), false⟩ 0 rest := rfl

theorem scanDepth_close : scanDepth ⟨current, deepest, false⟩ 0 (')'.toUInt8 :: rest) =
    scanDepth ⟨current - 1, deepest, false⟩ 0 rest := rfl

/-- A pattern leaves the scan at the depth where it came in. -/
theorem scanDepth_text (o : Outline) (h : current ≤ deepest) :
    scanDepth ⟨current, deepest, false⟩ 0 (o.text ++ rest) =
      scanDepth ⟨current, max deepest (current + o.height), false⟩ 0 rest := by
  -- With the rest generalized: behind the inside of a group stand its parenthesis and what follows.
  induction o generalizing current deepest rest with
  | nil => rw [Outline.height, Nat.add_zero, Nat.max_eq_left h]; rfl
  | escape b more ih => exact ih h
  | plain b hPlain more ih => exact (scanDepth_plain hPlain).trans (ih h)
  | charClass c more ih =>
    rw [Outline.text, List.append_assoc, scanDepth_class]
    exact ih h
  | group inner more ihInner ihMore =>
    have hDeepest : max (max (max deepest (current + 1)) (current + 1 + inner.height))
        (current + more.height) = max deepest (current + max (inner.height + 1) more.height) := by
      omega
    rw [Outline.text, List.cons_append, List.append_assoc, List.cons_append, scanDepth_open,
      ihInner (Nat.le_max_right _ _), scanDepth_close, Nat.add_sub_cancel, ihMore (by omega),
      hDeepest, Outline.height]

theorem groupDepth_append (o : Outline) (tail : List UInt8) :
    groupDepth (o.text ++ tail) = (scanDepth ⟨0, o.height, false⟩ 0 tail).deepest := by
  have hScan : scanDepth ⟨0, 0, false⟩ 0 (o.text ++ tail) =
      scanDepth ⟨0, max 0 (0 + o.height), false⟩ 0 tail := scanDepth_text o (Nat.le_refl 0)
  rw [Nat.zero_add, Nat.max_eq_right (Nat.zero_le _)] at hScan
  exact congrArg Depth.deepest hScan

theorem groupDepth_text (o : Outline) : groupDepth o.text = o.height := by
  have hAlone := groupDepth_append o []
  rwa [List.append_nil] at hAlone

end Engine

namespace Outline

variable {offset point : Nat}

theorem height_bare (o : Outline) : o.bare.height = o.height := by
  induction o with
  | nil => rfl
  | escape b rest ih => exact ih
  | plain b h rest ih => exact ih
  | charClass c rest ih => exact ih
  | group inner rest ihInner ihRest => rw [bare, height, height, ihInner, ihRest]

theorem groups_within {o : Outline} {s : Span} (h : s ∈ o.groups offset) :
    offset ≤ s.start ∧ s.stop ≤ offset + o.text.length := by
  induction o generalizing offset with
  | nil => cases h
  | escape b rest ih =>
    have := ih h
    simp only [text, List.length_cons]
    omega
  | plain b hPlain rest ih =>
    have := ih h
    simp only [text, List.length_cons]
    omega
  | charClass c rest ih =>
    have := ih h
    simp only [text, List.length_append]
    omega
  | group inner rest ihInner ihRest =>
    simp only [text, List.length_cons, List.length_append]
    rcases List.mem_cons.mp h with rfl | hDeeper
    · dsimp only
      omega
    · rcases List.mem_append.mp hDeeper with hInner | hRest
      · have := ihInner hInner
        omega
      · have := ihRest hRest
        omega

theorem enclosing_outside (o : Outline) (h : point ≤ offset ∨ offset + o.text.length ≤ point) :
    enclosing (o.groups offset) point = 0 := by
  rw [enclosing, List.countP_eq_zero]
  intro s hs
  have := groups_within hs
  simp only [decide_eq_true_eq]
  omega

theorem enclosing_cons (s : Span) (spans : List Span) : enclosing (s :: spans) point =
    enclosing spans point + if s.start < point ∧ point < s.stop then 1 else 0 := by
  simp only [enclosing, List.countP_cons, decide_eq_true_eq]

theorem enclosing_append (spans more : List Span) :
    enclosing (spans ++ more) point = enclosing spans point + enclosing more point :=
  List.countP_append

/-- A point lies in a group, or before or behind it. -/
theorem enclosing_group (inner rest : Outline) :
    enclosing ((group inner rest).groups offset) point =
      if point ≤ offset then 0
      else if point < offset + inner.text.length + 2 then
        enclosing (inner.groups (offset + 1)) point + 1
      else enclosing (rest.groups (offset + inner.text.length + 2)) point := by
  rw [groups, enclosing_cons, enclosing_append]
  dsimp only
  by_cases hBefore : point ≤ offset
  · rw [enclosing_outside inner (by omega), enclosing_outside rest (by omega),
      if_neg (by omega), if_pos hBefore]
  · rw [if_neg hBefore]
    by_cases hInside : point < offset + inner.text.length + 2
    · rw [enclosing_outside rest (by omega), if_pos (by omega), if_pos hInside, Nat.add_zero]
    · rw [enclosing_outside inner (by omega), if_neg (by omega), if_neg hInside,
        Nat.zero_add, Nat.add_zero]

theorem enclosing_le_height (o : Outline) : enclosing (o.groups offset) point ≤ o.height := by
  induction o generalizing offset with
  | nil => exact Nat.le_refl 0
  | escape b rest ih => exact ih
  | plain b h rest ih => exact ih
  | charClass c rest ih => exact ih
  | group inner rest ihInner ihRest =>
    rw [enclosing_group, height]
    split
    · exact Nat.zero_le _
    · split
      · exact Nat.le_trans (Nat.succ_le_succ ihInner) (Nat.le_max_left _ _)
      · exact Nat.le_trans ihRest (Nat.le_max_right _ _)

theorem exists_enclosing_eq_height (o : Outline) (offset : Nat) :
    ∃ point, offset ≤ point ∧ point ≤ offset + o.text.length ∧
      enclosing (o.groups offset) point = o.height := by
  induction o generalizing offset with
  | nil => exact ⟨offset, Nat.le_refl _, Nat.le_refl _, rfl⟩
  | escape b rest ih =>
    obtain ⟨point, hFrom, hTo, hHeight⟩ := ih (offset + 2)
    simp only [text, List.length_cons]
    exact ⟨point, by omega, by omega, hHeight⟩
  | plain b h rest ih =>
    obtain ⟨point, hFrom, hTo, hHeight⟩ := ih (offset + 1)
    simp only [text, List.length_cons]
    exact ⟨point, by omega, by omega, hHeight⟩
  | charClass c rest ih =>
    obtain ⟨point, hFrom, hTo, hHeight⟩ := ih (offset + c.text.length)
    simp only [text, List.length_append]
    exact ⟨point, by omega, by omega, hHeight⟩
  | group inner rest ihInner ihRest =>
    simp only [text, List.length_cons, List.length_append]
    rcases Nat.lt_or_ge inner.height rest.height with hRest | hInner
    · obtain ⟨point, hFrom, hTo, hHeight⟩ := ihRest (offset + inner.text.length + 2)
      refine ⟨point, by omega, by omega, ?_⟩
      rw [enclosing_group, if_neg (by omega), if_neg (by omega), hHeight, height]
      exact (Nat.max_eq_right hRest).symm
    · obtain ⟨point, hFrom, hTo, hHeight⟩ := ihInner (offset + 1)
      refine ⟨point, by omega, by omega, ?_⟩
      rw [enclosing_group, if_neg (by omega), if_pos (by omega), hHeight, height]
      exact (Nat.max_eq_left (Nat.le_succ_of_le hInner)).symm

/-- The depth of a pattern is the largest number of groups around any of its points. Escapes and
classes count for nothing, wherever they stand, and a class leaves alone whatever follows it. -/
theorem groupDepth_isGreatest (o : Outline) :
    IsGreatest {n | ∃ point ≤ o.text.length, enclosing (o.groups 0) point = n}
        (Engine.groupDepth o.text) ∧
      Engine.groupDepth o.bare.text = Engine.groupDepth o.text ∧
      ∀ (c : ClassText) (tail : List UInt8),
        Engine.groupDepth (o.text ++ (c.text ++ tail)) = Engine.groupDepth (o.text ++ tail) := by
  refine ⟨?_, ?_, fun c tail => ?_⟩
  · rw [Engine.groupDepth_text]
    constructor
    · obtain ⟨point, -, hTo, hHeight⟩ := o.exists_enclosing_eq_height 0
      exact ⟨point, by omega, hHeight⟩
    · rintro n ⟨point, -, rfl⟩
      exact o.enclosing_le_height
  · rw [Engine.groupDepth_text, Engine.groupDepth_text, height_bare]
  · rw [Engine.groupDepth_append, Engine.groupDepth_append, Engine.scanDepth_class]

example : Engine.groupDepth "[(]((a))[^)(]".toUTF8.data.toList = 2 := by decide

/-- The backtracking engine refuses a pattern for its nesting exactly if one of its points lies in
more groups than the limit. -/
theorem backtracking_refuses_iff {o : Outline} {pattern : String} {modifiers : Modifiers}
    {limits : MatchLimits} (h : pattern.toUTF8.data.toList = o.text) :
    (∃ depth limit, Engine.backtracking pattern modifiers limits = .error (.nesting depth limit)) ↔
      ∃ point, limits.recursionLimit < enclosing (o.groups 0) point := by
  unfold Engine.backtracking Builders.backtrackingEngine
  dsimp only
  rw [h, Engine.groupDepth_text]
  constructor
  · rintro ⟨depth, limit, hRefused⟩
    split at hRefused
    · rename_i hDeep
      obtain ⟨point, -, -, hHeight⟩ := o.exists_enclosing_eq_height 0
      exact ⟨point, hHeight ▸ hDeep⟩
    · split at hRefused <;> cases hRefused
  · rintro ⟨point, hDeep⟩
    exact ⟨_, _, if_pos (Nat.lt_of_lt_of_le hDeep o.enclosing_le_height)⟩

end Outline

end PerlPattern
