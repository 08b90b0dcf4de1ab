import Mathlib.Data.List.TakeWhile
import PerlPattern.Delimited

/-! # The grammar of delimited patterns

A pattern is accepted exactly if it is made of blanks, an opening delimiter, a
body, the delimiter that closes it, and modifiers. A pattern is made of such
parts in one way at most, since the body ends at the first place where all that
was opened is closed.
-/

namespace PerlPattern.Delimited

/-- The bytes of a body that stand outside its escapes, every backslash being paired with the byte
after it. -/
inductive Escapes : List UInt8 → List UInt8 → Prop
  | nil : Escapes [] []
  | escape (b : UInt8) {body plain : List UInt8} (h : Escapes body plain) :
      Escapes (backslash :: b :: body) plain
  | plain (b : UInt8) {body plain : List UInt8} (hPlain : b ≠ backslash) (h : Escapes body plain) :
      Escapes (b :: body) (b :: plain)

/-- The bytes between two delimiters hold no delimiter, or brackets in balance. -/
def Encloses (opener closer : UInt8) (plain : List UInt8) : Prop :=
  if opener = closer then opener ∉ plain
  else (∀ l, l <+: plain → l.count closer ≤ l.count opener) ∧
    plain.count closer = plain.count opener

def blanks : List UInt8 := [0x20, 0x09, 0x0A, 0x0B, 0x0C, 0x0D]

def brackets : List (UInt8 × UInt8) :=
  [('(', ')'), ('[', ']'), ('{', '}'), ('<', '>')].map fun (o, c) => (o.toUInt8, c.toUInt8)

structure Parts where
  blanks : List UInt8
  opener : UInt8
  body : List UInt8
  closer : UInt8
  modifiers : List UInt8

namespace Parts

def text (p : Parts) : List UInt8 :=
  p.blanks ++ [p.opener] ++ p.body ++ [p.closer] ++ p.modifiers

structure Spells (p : Parts) (raw : List UInt8) : Prop where
  text : raw = p.text
  blanks : ∀ b ∈ p.blanks, b ∈ Delimited.blanks
  opener_not_blank : p.opener ∉ Delimited.blanks
  opener_not_alphanumeric : (Char.ofUInt8 p.opener).isAlphanum = false
  opener_not_backslash : p.opener ≠ '\\'.toUInt8
  closer : p.closer = (brackets.lookup p.opener).getD p.opener
  body : p.body ≠ []
  enclosed : ∃ plain, Escapes p.body plain ∧ Encloses p.opener p.closer plain
  modifiers : ∀ b ∈ p.modifiers, Char.ofUInt8 b ∈ "imsxADUXuS \n".toList

structure Describes (p : Parts) (spec : PatternSpec) : Prop where
  body : spec.body.data.toList = p.body
  study : spec.study = true ↔ 'S'.toUInt8 ∈ p.modifiers
  modifiers : ∀ m, spec.modifiers.has m = true ↔ m.letter.toUInt8 ∈ p.modifiers

end Parts

theorem forall_byte {P : UInt8 → Prop} (h : ∀ n : Fin 256, P (UInt8.ofFin n)) (b : UInt8) : P b :=
  h b.toFin

theorem isBlank_iff (b : UInt8) : isBlank b = true ↔ b ∈ blanks := by
  revert b
  apply forall_byte
  decide +kernel

theorem isDelimiter_iff (b : UInt8) : isDelimiter b = true ↔
    (Char.ofUInt8 b).isAlphanum = false ∧ b ≠ '\\'.toUInt8 := by
  revert b
  apply forall_byte
  decide +kernel

theorem closerOf_eq (b : UInt8) : closerOf b = (brackets.lookup b).getD b := by
  revert b
  apply forall_byte
  decide +kernel

theorem closerOf_ne_backslash (b : UInt8) (h : b ≠ backslash) : closerOf b ≠ backslash := by
  revert b
  apply forall_byte
  decide +kernel

theorem ofByte?_eq_some_iff (b : UInt8) (m : Modifier) :
    Modifier.ofByte? b = some m ↔ b = m.letter.toUInt8 := by
  constructor
  · intro h
    have hLetter : m.letter.toNat = b.toNat :=
      eq_of_beq (List.find?_some (p := fun n : Modifier => n.letter.toNat == b.toNat) h)
    have hByte : m.letter.toUInt8.toNat = m.letter.toNat := by cases m <;> rfl
    exact UInt8.toNat_inj.mp (hLetter.symm.trans hByte.symm)
  · rintro rfl
    cases m <;> rfl

/-- All that is open at the given depth beyond the first closes again, and no more. -/
def Closes (opener closer : UInt8) : Nat → List UInt8 → Prop
  | depth, [] => depth = 0
  | depth, b :: rest =>
    if b = closer then ∃ outer, depth = outer + 1 ∧ Closes opener closer outer rest
    else Closes opener closer (if b = opener then depth + 1 else depth) rest

theorem closes_of_same_iff (delimiter : UInt8) (plain : List UInt8) :
    Closes delimiter delimiter 0 plain ↔ delimiter ∉ plain := by
  induction plain with
  | nil => simp [Closes]
  | cons b rest ih =>
    by_cases hCloses : b = delimiter
    · simp [Closes, hCloses]
    · simp [Closes, hCloses, ih, Ne.symm hCloses]

theorem closes_iff_count {opener closer : UInt8} (hBracket : opener ≠ closer) (depth : Nat)
    (plain : List UInt8) : Closes opener closer depth plain ↔
      (∀ l, l <+: plain → l.count closer ≤ depth + l.count opener) ∧
        plain.count closer = depth + plain.count opener := by
  induction plain generalizing depth with
  | nil => simp [Closes, eq_comm]
  | cons b rest ih =>
    -- A prefix is empty or starts with the head: one bound here, the others by induction.
    have hPrefixes : ∀ P : List UInt8 → Prop,
        (∀ l, l <+: b :: rest → P l) ↔ P [] ∧ ∀ l, l <+: rest → P (b :: l) := by
      intro P
      simp only [List.prefix_cons_iff]
      grind
    rw [hPrefixes]
    by_cases hCloses : b = closer
    · subst hCloses
      have hNotOpener : (b == opener) = false := by simpa using hBracket.symm
      simp only [Closes, if_true, List.count_cons, beq_self_eq_true, hNotOpener, Bool.false_eq_true,
        if_false, List.count_nil, ih]
      constructor
      · rintro ⟨outer, rfl, hNever, hAll⟩
        refine ⟨⟨Nat.zero_le _, ?_⟩, by omega⟩
        intro l hl
        have hOne := hNever l hl
        omega
      · rintro ⟨⟨_, hNever⟩, hAll⟩
        have hOpen := hNever [] List.nil_prefix
        simp only [List.count_nil] at hOpen
        refine ⟨depth - 1, by omega, ?_, by omega⟩
        intro l hl
        have hOne := hNever l hl
        omega
    · have hNotCloser : (b == closer) = false := by simpa using hCloses
      simp only [Closes, if_neg hCloses, List.count_cons, hNotCloser, Bool.false_eq_true, if_false,
        List.count_nil, ih, beq_iff_eq]
      by_cases hOpens : b = opener
      · simp only [if_pos hOpens]
        constructor
        · rintro ⟨hNever, hAll⟩
          refine ⟨⟨Nat.zero_le _, ?_⟩, by omega⟩
          intro l hl
          have hOne := hNever l hl
          omega
        · rintro ⟨⟨_, hNever⟩, hAll⟩
          refine ⟨?_, by omega⟩
          intro l hl
          have hOne := hNever l hl
          omega
      · simp only [if_neg hOpens, Nat.add_zero, Nat.zero_le, true_and]

theorem closes_iff_encloses (opener closer : UInt8) (plain : List UInt8) :
    Closes opener closer 0 plain ↔ Encloses opener closer plain := by
  unfold Encloses
  split
  · rename_i hSame
    subst hSame
    exact closes_of_same_iff opener plain
  · rename_i hBracket
    simpa using closes_iff_count hBracket 0 plain

theorem splitBody_sound {opener closer : UInt8} {depth : Nat} {l body tail : List UInt8}
    (h : splitBody opener closer depth l = some (body, tail)) :
    l = body ++ closer :: tail ∧ ∃ plain, Escapes body plain ∧ Closes opener closer depth plain := by
  fun_induction splitBody opener closer depth l generalizing body tail with
  | case1 | case2 => cases h
  | case3 depth escaped rest ih =>
    obtain ⟨⟨inner, outer⟩, hSplit, hParts⟩ := Option.map_eq_some_iff.mp h
    cases hParts
    obtain ⟨rfl, plain, hEscapes, hCloses⟩ := ih hSplit
    exact ⟨rfl, plain, .escape escaped hEscapes, hCloses⟩
  | case4 rest hByte =>
    cases h
    exact ⟨rfl, [], .nil, rfl⟩
  | case5 rest depth hByte ih =>
    obtain ⟨⟨inner, outer⟩, hSplit, hParts⟩ := Option.map_eq_some_iff.mp h
    cases hParts
    obtain ⟨rfl, plain, hEscapes, hCloses⟩ := ih hSplit
    refine ⟨rfl, closer :: plain, .plain closer hByte hEscapes, ?_⟩
    simpa [Closes] using hCloses
  | case6 depth b rest hByte hInside ih =>
    obtain ⟨⟨inner, outer⟩, hSplit, hParts⟩ := Option.map_eq_some_iff.mp h
    cases hParts
    obtain ⟨rfl, plain, hEscapes, hCloses⟩ := ih hSplit
    refine ⟨rfl, b :: plain, .plain b hByte hEscapes, ?_⟩
    simpa only [Closes, if_neg hInside] using hCloses

theorem splitBody_complete {opener closer : UInt8} (hCloser : closer ≠ backslash) {depth : Nat}
    {body plain : List UInt8} (tail : List UInt8) (hEscapes : Escapes body plain)
    (hCloses : Closes opener closer depth plain) :
    splitBody opener closer depth (body ++ closer :: tail) = some (body, tail) := by
  induction hEscapes generalizing depth with
  | nil =>
    have hDepth : depth = 0 := hCloses
    rw [List.nil_append, splitBody.eq_def]
    simp [hCloser, hDepth]
  | escape b _ ih =>
    rw [List.cons_append, List.cons_append, splitBody.eq_def]
    simp [ih hCloses]
  | plain b hByte _ ih =>
    by_cases hEnds : b = closer
    · subst hEnds
      obtain ⟨outer, rfl, hRest⟩ : ∃ outer, depth = outer + 1 ∧ Closes opener b outer _ := by
        simpa only [Closes, if_true] using hCloses
      rw [List.cons_append, splitBody.eq_def]
      simp [hByte, ih hRest]
    · simp only [Closes, if_neg hEnds] at hCloses
      rw [List.cons_append, splitBody.eq_def]
      simp [hByte, hEnds, ih hCloses]

theorem isModifier_iff (b : UInt8) : Char.ofUInt8 b ∈ "imsxADUXuS \n".toList ↔
    b = 'S'.toUInt8 ∨ (b = ' '.toUInt8 ∨ b = '\n'.toUInt8) ∨ ∃ m : Modifier, Modifier.ofByte? b = some m := by
  revert b
  simp only [← Option.isSome_iff_exists]
  apply forall_byte
  decide +kernel

theorem letter_ne (m : Modifier) : m.letter.toUInt8 ≠ 'S'.toUInt8 ∧
    m.letter.toUInt8 ≠ ' '.toUInt8 ∧ m.letter.toUInt8 ≠ '\n'.toUInt8 := by
  cases m <;> decide

theorem letter_eq_iff {m n : Modifier} : m.letter.toUInt8 = n.letter.toUInt8 ↔ m = n := by
  constructor
  · intro h
    have hFirst := (ofByte?_eq_some_iff m.letter.toUInt8 m).mpr rfl
    rw [(ofByte?_eq_some_iff m.letter.toUInt8 n).mpr h] at hFirst
    exact (Option.some.inj hFirst).symm
  · rintro rfl
    rfl

theorem readModifiers_study (set : Modifiers) (study : Bool) (rest : List UInt8) :
    readModifiers set study ('S'.toUInt8 :: rest) = readModifiers set true rest := by
  rw [readModifiers]
  rfl

theorem readModifiers_blank (set : Modifiers) (study : Bool) {b : UInt8}
    (hBlank : b = ' '.toUInt8 ∨ b = '\n'.toUInt8) (rest : List UInt8) :
    readModifiers set study (b :: rest) = readModifiers set study rest := by
  rw [readModifiers]
  rcases hBlank with rfl | rfl <;> rfl

theorem readModifiers_letter (set : Modifiers) (study : Bool) (m : Modifier) (rest : List UInt8) :
    readModifiers set study (m.letter.toUInt8 :: rest) =
      readModifiers (set.insert m) study rest := by
  rw [readModifiers]
  cases m <;> rfl

theorem readModifiers_other (set : Modifiers) (study : Bool) {b : UInt8}
    (h : Char.ofUInt8 b ∉ "imsxADUXuS \n".toList) (rest : List UInt8) :
    readModifiers set study (b :: rest) = .error (.unknownModifier b) := by
  simp only [isModifier_iff, not_or, not_exists] at h
  obtain ⟨hStudy, hBlank, hLetter⟩ := h
  have hStudy' : b ≠ 0x53 := hStudy
  have hBlank' : ¬(b = 0x20 ∨ b = 0x0A) := not_or.mpr hBlank
  rw [readModifiers, if_neg hStudy', if_neg hBlank',
    Option.eq_none_iff_forall_ne_some.mpr hLetter]

theorem readModifiers_eq_ok_iff {set set' : Modifiers} {study study' : Bool} {l : List UInt8} :
    readModifiers set study l = .ok (set', study') ↔
      (∀ b ∈ l, Char.ofUInt8 b ∈ "imsxADUXuS \n".toList) ∧
      (study' = true ↔ study = true ∨ 'S'.toUInt8 ∈ l) ∧
      ∀ m, set'.has m = true ↔ set.has m = true ∨ m.letter.toUInt8 ∈ l := by
  induction l generalizing set study with
  | nil =>
    rw [readModifiers]
    constructor
    · intro h
      cases h
      simp
    · rintro ⟨_, hStudy, hSet⟩
      have hSame : set = set' :=
        Modifiers.ext fun m => Bool.eq_iff_iff.mpr (by simpa using (hSet m).symm)
      have hStudy : study = study' := Bool.eq_iff_iff.mpr (by simpa using hStudy.symm)
      rw [hSame, hStudy]
  | cons b rest ih =>
    rw [List.forall_mem_cons]
    by_cases hKnown : Char.ofUInt8 b ∈ "imsxADUXuS \n".toList
    · simp only [hKnown, true_and, List.mem_cons]
      rcases (isModifier_iff b).mp hKnown with rfl | hBlank | ⟨n, hByte⟩
      · rw [readModifiers_study, ih]
        simp only [fun m => (letter_ne m).1, false_or, true_or, or_true]
      · have hNoStudy : 'S'.toUInt8 ≠ b := by rcases hBlank with rfl | rfl <;> decide
        have hNoLetter : ∀ m : Modifier, m.letter.toUInt8 ≠ b := by
          intro m
          rcases hBlank with rfl | rfl
          · exact (letter_ne m).2.1
          · exact (letter_ne m).2.2
        rw [readModifiers_blank set study hBlank, ih]
        simp only [hNoStudy, hNoLetter, false_or]
      · obtain rfl := (ofByte?_eq_some_iff b n).mp hByte
        rw [readModifiers_letter, ih]
        simp only [(letter_ne n).1.symm, letter_eq_iff, false_or, Modifiers.has_insert,
          Bool.or_eq_true, beq_iff_eq, or_left_comm, or_assoc]
    · rw [readModifiers_other set study hKnown]
      simp only [hKnown, false_and, reduceCtorEq]

namespace Parts

def spec (p : Parts) (hBody : p.body ≠ []) : PatternSpec where
  body := ⟨p.body.toArray⟩
  modifiers := ⟨fun m => decide (m.letter.toUInt8 ∈ p.modifiers)⟩
  study := decide ('S'.toUInt8 ∈ p.modifiers)
  body_ne := by simpa [ByteArray.size] using hBody

theorem describes_iff {p : Parts} (hBody : p.body ≠ []) {spec : PatternSpec} :
    p.Describes spec ↔ spec = p.spec hBody := by
  constructor
  · rintro ⟨hBody, hStudy, hModifiers⟩
    obtain ⟨⟨⟨bytes⟩⟩, set, study, hNonempty⟩ := spec
    obtain rfl : bytes = p.body := hBody
    obtain rfl : set = ⟨fun m => decide (m.letter.toUInt8 ∈ p.modifiers)⟩ :=
      Modifiers.ext fun m => Bool.eq_iff_iff.mpr (by simpa using hModifiers m)
    obtain rfl : study = decide ('S'.toUInt8 ∈ p.modifiers) :=
      Bool.eq_iff_iff.mpr (by simpa using hStudy)
    rfl
  · rintro rfl
    constructor <;> simp [Parts.spec]

theorem text_eq (p : Parts) :
    p.text = p.blanks ++ p.opener :: (p.body ++ p.closer :: p.modifiers) := by
  simp [text]

variable {p q : Parts} {raw : List UInt8}

theorem Spells.isDelimiter (h : p.Spells raw) : Delimited.isDelimiter p.opener = true :=
  (isDelimiter_iff p.opener).mpr ⟨h.opener_not_alphanumeric, h.opener_not_backslash⟩

theorem Spells.closer_eq (h : p.Spells raw) : p.closer = closerOf p.opener :=
  h.closer.trans (closerOf_eq p.opener).symm

theorem Spells.takeWhile (h : p.Spells raw) : raw.takeWhile isBlank = p.blanks := by
  have hBlanks : ∀ b ∈ p.blanks, isBlank b = true := fun b hb => (isBlank_iff b).mpr (h.blanks b hb)
  have hOpener : ¬isBlank p.opener = true := mt (isBlank_iff p.opener).mp h.opener_not_blank
  rw [h.text, text_eq, List.takeWhile_append_of_pos hBlanks, List.takeWhile_cons_of_neg hOpener,
    List.append_nil]

theorem Spells.dropWhile (h : p.Spells raw) :
    raw.dropWhile isBlank = p.opener :: (p.body ++ p.closer :: p.modifiers) := by
  have hBlanks : ∀ b ∈ p.blanks, isBlank b = true := fun b hb => (isBlank_iff b).mpr (h.blanks b hb)
  have hOpener : ¬isBlank p.opener = true := mt (isBlank_iff p.opener).mp h.opener_not_blank
  rw [h.text, text_eq, List.dropWhile_append_of_pos hBlanks, List.dropWhile_cons_of_neg hOpener]

theorem Spells.splitBody (h : p.Spells raw) :
    Delimited.splitBody p.opener (closerOf p.opener) 0 (p.body ++ p.closer :: p.modifiers) =
      some (p.body, p.modifiers) := by
  obtain ⟨plain, hEscapes, hEncloses⟩ := h.enclosed
  have hCloser := closerOf_ne_backslash p.opener h.opener_not_backslash
  rw [h.closer_eq] at hEncloses ⊢
  exact splitBody_complete hCloser p.modifiers hEscapes ((closes_iff_encloses _ _ _).mpr hEncloses)

theorem Spells.parseBytes (h : p.Spells raw) :
    Delimited.parseBytes raw = .ok (p.spec h.body) := by
  have hModifiers : readModifiers ∅ false p.modifiers =
      .ok ((p.spec h.body).modifiers, (p.spec h.body).study) := by
    refine readModifiers_eq_ok_iff.mpr ⟨h.modifiers, ?_, ?_⟩
    · simp [Parts.spec]
    · intro m
      simp [Parts.spec]
  unfold Delimited.parseBytes
  simp only [h.dropWhile, h.isDelimiter, Bool.not_true, Bool.false_eq_true, if_false, h.splitBody,
    hModifiers]
  exact dif_neg (p.spec h.body).body_ne

theorem Spells.eq (h : p.Spells raw) (h' : q.Spells raw) : p = q := by
  have hBlanks := h.takeWhile.symm.trans h'.takeWhile
  obtain ⟨hOpener, hRest⟩ := List.cons.inj (h.dropWhile.symm.trans h'.dropWhile)
  have hSplit := h.splitBody
  rw [hOpener, hRest, h'.splitBody] at hSplit
  obtain ⟨hBody, hModifiers⟩ := Prod.mk.inj (Option.some.inj hSplit)
  have hCloser : p.closer = q.closer := by rw [h.closer_eq, h'.closer_eq, hOpener]
  obtain ⟨blanks, opener, body, closer, modifiers⟩ := p
  obtain ⟨blanks', opener', body', closer', modifiers'⟩ := q
  simp only at hBlanks hOpener hBody hModifiers hCloser
  rw [hBlanks, hOpener, hBody, hModifiers, hCloser]

end Parts

theorem spells_of_parseBytes {raw : List UInt8} {spec : PatternSpec}
    (h : parseBytes raw = .ok spec) : ∃ p : Parts, p.Spells raw := by
  unfold parseBytes at h
  split at h
  · cases h
  · rename_i opener rest hDrop
    split at h
    · cases h
    · rename_i hOpener
      split at h
      · cases h
      · rename_i body tail hSplit
        split at h
        · cases h
        · rename_i set study hModifiers
          obtain ⟨hText, plain, hEscapes, hCloses⟩ := splitBody_sound hSplit
          have hDelimiter := (isDelimiter_iff opener).mp (by simpa using hOpener)
          have hNotBlank := List.head?_dropWhile_not isBlank raw
          simp only [hDrop, List.head?_cons] at hNotBlank
          refine ⟨⟨raw.takeWhile isBlank, opener, body, closerOf opener, tail⟩, ?_⟩
          exact {
            text := by
              rw [Parts.text_eq, ← hText, ← hDrop, List.takeWhile_append_dropWhile]
            blanks := fun b hb => (isBlank_iff b).mp (List.mem_takeWhile_imp hb)
            opener_not_blank := fun hb => by
              rw [(isBlank_iff opener).mpr hb] at hNotBlank
              cases hNotBlank
            opener_not_alphanumeric := hDelimiter.1
            opener_not_backslash := hDelimiter.2
            closer := closerOf_eq opener
            body := by
              rintro rfl
              cases h
            enclosed := ⟨plain, hEscapes, (closes_iff_encloses _ _ _).mp hCloses⟩
            modifiers := (readModifiers_eq_ok_iff.mp hModifiers).1 }

/-- A pattern is accepted exactly if it is made of the parts of the grammar, and it says what they
say; it is made of such parts in one way at most. -/
theorem parse_eq_ok_iff (raw : ByteArray) :
    (∀ spec, parse raw = .ok spec ↔
      ∃ p : Parts, p.Spells raw.data.toList ∧ p.Describes spec) ∧
    ((∃ spec, parse raw = .ok spec) ↔ ∃ p : Parts, p.Spells raw.data.toList) ∧
    ∀ p q : Parts, p.Spells raw.data.toList → q.Spells raw.data.toList → p = q := by
  refine ⟨?_, ?_, ?_⟩
  · intro spec
    constructor
    · intro h
      obtain ⟨p, hSpells⟩ := spells_of_parseBytes h
      have hSpec := Except.ok.inj (h.symm.trans hSpells.parseBytes)
      exact ⟨p, hSpells, (Parts.describes_iff hSpells.body).mpr hSpec⟩
    · rintro ⟨p, hSpells, hDescribes⟩
      rw [(Parts.describes_iff hSpells.body).mp hDescribes]
      exact hSpells.parseBytes
  · constructor
    · rintro ⟨spec, h⟩
      exact spells_of_parseBytes h
    · rintro ⟨p, hSpells⟩
      exact ⟨_, hSpells.parseBytes⟩
  · intro p q hp hq
    exact hp.eq hq

theorem parse_eq_ok_iff_nested :
    let raw := " (a(\\)))iS".toUTF8
    let p : Parts := ⟨[0x20], 0x28, "a(\\))".toUTF8.data.toList, 0x29, "iS".toUTF8.data.toList⟩
    p.Spells raw.data.toList ∧ (∃ spec, parse raw = .ok spec ∧ p.Describes spec) ∧
      ∀ q : Parts, q.Spells raw.data.toList → q = p := by
  intro raw p
  have hEscapes : Escapes p.body [0x61, 0x28, 0x29] :=
    .plain _ (by decide) (.plain _ (by decide) (.escape _ (.plain _ (by decide) .nil)))
  have hEncloses : Encloses 0x28 0x29 [0x61, 0x28, 0x29] :=
    (closes_iff_encloses _ _ _).mp (by simp [Closes])
  have hSpells : p.Spells raw.data.toList := {
    text := by decide +kernel
    blanks := by decide +kernel
    opener_not_blank := by decide +kernel
    opener_not_alphanumeric := by decide +kernel
    opener_not_backslash := by decide +kernel
    closer := by decide +kernel
    body := by decide +kernel
    enclosed := ⟨_, hEscapes, hEncloses⟩
    modifiers := by decide +kernel }
  obtain ⟨hGrammar, hAccepts, hUnique⟩ := parse_eq_ok_iff raw
  refine ⟨hSpells, ?_, fun q hq => hUnique q p hq hSpells⟩
  obtain ⟨spec, hSpec⟩ := hAccepts.mpr ⟨p, hSpells⟩
  obtain ⟨q, hq, hDescribes⟩ := (hGrammar spec).mp hSpec
  rw [hUnique q p hq hSpells] at hDescribes
  exact ⟨spec, hSpec, hDescribes⟩

end PerlPattern.Delimited
