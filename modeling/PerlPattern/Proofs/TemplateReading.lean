import Mathlib.Data.List.Induction
import Mathlib.Data.List.TakeWhile
import Mathlib.Data.Nat.Digits.Defs
import PerlPattern.Proofs.Expansion

/-! # How a template reads

A template is read from left to right: an escape gives its second byte, a
reference gives the bytes of its group, and any other byte gives itself. The
tokens of a template give just that. Together with the backslashes that are
dropped they take up all of the template, every byte once.
-/

namespace PerlPattern.Template

/-- The text of a reference after its sign, what follows it, and its number. A bare reference takes
all the digits there are. -/
inductive Reference : List UInt8 → List UInt8 → Nat → Prop
  | bare {digits : List UInt8} (rest : List UInt8) (hSome : digits ≠ [])
      (hDigits : ∀ d ∈ digits, isDigit d = true) (hAll : ∀ b ∈ rest.head?, isDigit b = false) :
      Reference digits rest (Nat.ofDigits 10 (digits.reverse.map fun d => d.toNat - '0'.toNat))
  | braced {digits : List UInt8} (rest : List UInt8) (hSome : digits ≠ [])
      (hDigits : ∀ d ∈ digits, isDigit d = true) :
      Reference ('{'.toUInt8 :: (digits ++ ['}'.toUInt8])) rest
        (Nat.ofDigits 10 (digits.reverse.map fun d => d.toNat - '0'.toNat))

/-- What a template gives when it is read from left to right. -/
inductive Reads (group : Nat → List UInt8) : List UInt8 → List UInt8 → Prop
  | nil : Reads group [] []
  | escape (b : UInt8) {rest out : List UInt8} (hSigil : isSigil b = true)
      (h : Reads group rest out) : Reads group (backslash :: b :: rest) (b :: out)
  | reference (sigil : UInt8) {text rest out : List UInt8} {number : Nat}
      (hSigil : isSigil sigil = true) (hReference : Reference text rest number)
      (h : Reads group rest out) :
      Reads group (sigil :: (text ++ rest)) (group (min number maxGroup) ++ out)
  | plain (b : UInt8) {rest out : List UInt8}
      (hNoEscape : b = backslash → ∀ s ∈ rest.head?, isSigil s = false)
      (hNoReference : isSigil b = true → ∀ text after number, rest = text ++ after →
        ¬Reference text after number)
      (h : Reads group rest out) : Reads group (b :: rest) (b :: out)

/-- The bytes of a group: none if it took no part or does not lie within the subject. -/
def captured (subject : ByteArray) (offsets : MatchOffsets) (matchCount group : Nat) :
    List UInt8 :=
  match offsets.group group with
  | some span =>
    if group < matchCount ∧ span.start ≤ span.stop ∧ span.stop ≤ subject.size then
      subject.data.toList.extract span.start span.stop
    else []
  | none => []

/-- A part of a template: a literal, a reference, or a backslash that only escapes. -/
inductive Part where
  | literal (span : Span)
  | reference (span : Span) (group : Nat)
  | dropped (pos : Nat)

namespace Part

def span : Part → Span
  | literal span => span
  | reference span _ => span
  | dropped pos => ⟨pos, pos + 1⟩

def token? : Part → Option TemplateToken
  | literal span => some (.literal span)
  | reference _ group => some (.backref group)
  | dropped _ => none

/-- Is the part what stands at its place? -/
def Fits (raw : List UInt8) : Part → Prop
  | literal _ => True
  | reference span group => ∃ sigil text rest number, isSigil sigil = true ∧
      raw.drop span.start = sigil :: (text ++ rest) ∧ Reference text rest number ∧
      span.stop = span.start + 1 + text.length ∧ group = min number maxGroup
  | dropped pos => ∃ b rest, isSigil b = true ∧ raw.drop pos = backslash :: b :: rest

end Part

/-- The parts follow one on another from one offset to the other, and none is empty. -/
inductive Tiles : Nat → List Part → Nat → Prop
  | nil (stop : Nat) : Tiles stop [] stop
  | cons (part : Part) {parts : List Part} {stop : Nat} (hSome : part.span.start < part.span.stop)
      (h : Tiles part.span.stop parts stop) : Tiles part.span.start (part :: parts) stop

def literalSpan? : TemplateToken → Option Span
  | .literal span => some span
  | .backref _ => none

theorem decimalValue_eq_ofDigits (digits : List UInt8) :
    decimalValue digits =
      Nat.ofDigits 10 (digits.reverse.map fun d => d.toNat - '0'.toNat) := by
  induction digits using List.reverseRecOn with
  | nil => rfl
  | append_singleton digits d ih =>
    have hZero : '0'.toNat = 0x30 := rfl
    rw [List.reverse_append, List.reverse_singleton, List.singleton_append, List.map_cons,
      Nat.ofDigits_cons, ← ih, decimalValue, List.foldl_append, hZero]
    simp only [List.foldl_cons, List.foldl_nil, decimalValue]
    omega

theorem takeWhile_digits {digits : List UInt8} (rest : List UInt8)
    (hDigits : ∀ d ∈ digits, isDigit d = true) (hAll : ∀ b ∈ rest.head?, isDigit b = false) :
    (digits ++ rest).takeWhile isDigit = digits := by
  rw [List.takeWhile_append_of_pos hDigits]
  cases rest with
  | nil => simp
  | cons b rest =>
    have hStop : ¬isDigit b = true := by simp [hAll b rfl]
    rw [List.takeWhile_cons_of_neg hStop, List.append_nil]

theorem readDigits?_eq_some_iff {l : List UInt8} {group count : Nat} :
    readDigits? l = some (group, count) ↔ ∃ digits rest, l = digits ++ rest ∧ digits ≠ [] ∧
      (∀ d ∈ digits, isDigit d = true) ∧ (∀ b ∈ rest.head?, isDigit b = false) ∧
      group = min (decimalValue digits) maxGroup ∧ count = digits.length := by
  constructor
  · intro h
    unfold readDigits? at h
    dsimp only at h
    split at h
    · cases h
    · rename_i hSome
      cases h
      refine ⟨l.takeWhile isDigit, l.dropWhile isDigit, List.takeWhile_append_dropWhile.symm,
        by simpa using hSome, fun d hd => List.mem_takeWhile_imp hd, ?_, rfl, rfl⟩
      intro b hb
      have hStop := List.head?_dropWhile_not isDigit l
      rw [Option.mem_def.mp hb] at hStop
      exact hStop
  · rintro ⟨digits, rest, rfl, hSome, hDigits, hAll, rfl, rfl⟩
    rw [readDigits?, takeWhile_digits rest hDigits hAll]
    simp [hSome]

theorem reference_of_readBackref? {l : List UInt8} {group count : Nat}
    (h : readBackref? l = some (group, count)) : ∃ text rest number, l = text ++ rest ∧
      text.length = count ∧ Reference text rest number ∧ group = min number maxGroup := by
  unfold readBackref? at h
  split at h
  · cases h
  · rename_i b rest
    split at h
    · rename_i hBrace
      split at h
      · cases h
      · rename_i inner length hDigits
        obtain ⟨digits, after, rfl, hSome, hAllDigits, _, rfl, rfl⟩ :=
          readDigits?_eq_some_iff.mp hDigits
        split at h
        · rename_i hClosed
          cases h
          rw [List.getElem?_append_right (Nat.le_refl _), Nat.sub_self] at hClosed
          cases after with
          | nil => cases hClosed
          | cons c after =>
            obtain rfl : c = 0x7D := by simpa using hClosed
            refine ⟨_, after, _, ?_, ?_, .braced after hSome hAllDigits, ?_⟩
            · rw [hBrace, List.cons_append, List.append_assoc]
              rfl
            · simp
            · rw [decimalValue_eq_ofDigits]
        · cases h
    · obtain ⟨digits, after, hText, hSome, hAllDigits, hAll, rfl, rfl⟩ :=
        readDigits?_eq_some_iff.mp h
      refine ⟨digits, after, _, hText, rfl, .bare after hSome hAllDigits hAll, ?_⟩
      rw [decimalValue_eq_ofDigits]

theorem readBackref?_of_reference {text rest : List UInt8} {number : Nat}
    (h : Reference text rest number) :
    readBackref? (text ++ rest) = some (min number maxGroup, text.length) := by
  cases h with
  | bare _ hSome hDigits hAll =>
    cases text with
    | nil => exact absurd rfl hSome
    | cons d digits =>
      have hNoBrace : d ≠ 0x7B := by
        rintro rfl
        exact absurd (hDigits 0x7B List.mem_cons_self) (by decide)
      rw [List.cons_append, readBackref?, if_neg hNoBrace, ← List.cons_append]
      refine readDigits?_eq_some_iff.mpr ⟨_, rest, rfl, hSome, hDigits, hAll, ?_, rfl⟩
      rw [decimalValue_eq_ofDigits]
  | @braced digits _ hSome hDigits =>
    have hInner : readDigits? (digits ++ '}'.toUInt8 :: rest) =
        some (min (decimalValue digits) maxGroup, digits.length) := by
      refine readDigits?_eq_some_iff.mpr ⟨digits, _, rfl, hSome, hDigits, ?_, rfl, rfl⟩
      rintro b ⟨⟩
      decide
    have hBrace : '{'.toUInt8 = 0x7B := rfl
    have hClosed : (digits ++ '}'.toUInt8 :: rest)[digits.length]? = some 0x7D := by
      rw [List.getElem?_append_right (Nat.le_refl _), Nat.sub_self]
      rfl
    rw [List.cons_append, List.append_assoc, List.singleton_append, readBackref?, if_pos hBrace]
    simp only [hInner, hClosed, if_true, decimalValue_eq_ofDigits]
    simp

theorem not_reference {l : List UInt8} (h : readBackref? l = none) :
    ∀ text rest number, l = text ++ rest → ¬Reference text rest number := by
  rintro text rest number rfl hReference
  rw [readBackref?_of_reference hReference] at h
  cases h

theorem Reference.head {b : UInt8} {text rest after : List UInt8} {number : Nat}
    (h : Reference text rest number) (hText : b :: after = text ++ rest) : isSigil b = false := by
  cases h with
  | bare _ hSome hDigits hAll =>
    cases text with
    | nil => exact absurd rfl hSome
    | cons d digits =>
      obtain ⟨rfl, _⟩ := List.cons.inj hText
      have hDigit := hDigits b List.mem_cons_self
      rw [isDigit, Bool.and_eq_true, decide_eq_true_eq, decide_eq_true_eq] at hDigit
      grind [isSigil, backslash, dollar]
  | braced _ hSome hDigits =>
    obtain ⟨rfl, _⟩ := List.cons.inj hText
    decide

theorem Reference.unique {text text' rest rest' : List UInt8} {number number' : Nat}
    (h : Reference text rest number) (h' : Reference text' rest' number')
    (hText : text ++ rest = text' ++ rest') :
    rest = rest' ∧ min number maxGroup = min number' maxGroup := by
  have hRead := readBackref?_of_reference h
  rw [hText, readBackref?_of_reference h'] at hRead
  obtain ⟨hNumber, hLength⟩ := Prod.mk.inj (Option.some.inj hRead)
  exact ⟨(List.append_inj hText hLength.symm).2, hNumber.symm⟩

theorem Reads.eq {group : Nat → List UInt8} {l l' out out' : List UInt8} (h : Reads group l out)
    (h' : Reads group l' out') (hSame : l = l') : out = out' := by
  -- A reference begins with a digit or a brace, so that an escape never reads as one.
  induction h generalizing l' out' with
  | nil => cases h' <;> first | rfl | cases hSame
  | @escape b rest out hSigil _ ih =>
    cases h' with
    | nil => cases hSame
    | escape b' hSigil' hRest =>
      cases hSame
      rw [ih hRest rfl]
    | reference sigil hSigil' hReference hRest =>
      rw [hReference.head (List.cons.inj hSame).2] at hSigil
      cases hSigil
    | plain b' hNoEscape hNoReference hRest =>
      cases hSame
      rw [hNoEscape rfl b rfl] at hSigil
      cases hSigil
  | @reference sigil text rest out number hSigil hReference _ ih =>
    cases h' with
    | nil => cases hSame
    | escape b' hSigil' hRest =>
      rw [hReference.head (List.cons.inj hSame).2.symm] at hSigil'
      cases hSigil'
    | reference sigil' hSigil' hReference' hRest =>
      obtain ⟨hRests, hNumbers⟩ := hReference.unique hReference' (List.cons.inj hSame).2
      rw [ih hRest hRests, hNumbers]
    | plain b' hNoEscape hNoReference hRest =>
      obtain ⟨rfl, hText⟩ := List.cons.inj hSame
      exact absurd hReference (hNoReference hSigil text rest number hText.symm)
  | @plain b rest out hNoEscape hNoReference _ ih =>
    cases h' with
    | nil => cases hSame
    | escape b' hSigil hRest =>
      cases hSame
      rw [hNoEscape rfl b' rfl] at hSigil
      cases hSigil
    | @reference sigil text rest' _ number hSigil hReference hRest =>
      obtain ⟨rfl, hText⟩ := List.cons.inj hSame
      exact absurd hReference (hNoReference hSigil text rest' number hText)
    | plain b' hNoEscape' hNoReference' hRest =>
      cases hSame
      rw [ih hRest rfl]

/-- Where a scan stands: the text ahead, the literal that is open, and the escape that may be. -/
structure Scan (raw : List UInt8) (pos from_ : Nat) (escaping : Bool) (l : List UInt8) :
    Prop where
  ahead : raw.drop pos = l
  inside : pos ≤ raw.length
  open_le : from_ ≤ pos
  escape : escaping = true →
    from_ < pos ∧ raw.drop (pos - 1) = backslash :: l ∧ readBackref? l = none

namespace Scan

variable {raw l rest : List UInt8} {b : UInt8} {pos from_ : Nat} {escaping : Bool}

theorem first (raw : List UInt8) : Scan raw 0 0 false raw :=
  ⟨rfl, Nat.zero_le _, Nat.le_refl _, nofun⟩

theorem skip (h : Scan raw pos from_ escaping l) (count : Nat) (hCount : count ≤ l.length) :
    Scan raw (pos + count) (pos + count) false (l.drop count) where
  ahead := by rw [← h.ahead, List.drop_drop]
  inside := by
    have hLength := congrArg List.length h.ahead
    have hInside := h.inside
    rw [List.length_drop] at hLength
    omega
  open_le := Nat.le_refl _
  escape := nofun

theorem next (h : Scan raw pos from_ escaping (b :: rest)) (after : Bool)
    (hAfter : after = true → b = backslash ∧ readBackref? rest = none) :
    Scan raw (pos + 1) from_ after rest where
  ahead := (h.skip 1 (by simp)).ahead
  inside := (h.skip 1 (by simp)).inside
  open_le := Nat.le_succ_of_le h.open_le
  escape hTrue := by
    obtain ⟨rfl, hNone⟩ := hAfter hTrue
    exact ⟨Nat.lt_succ_of_le h.open_le, h.ahead, hNone⟩

theorem reopen (h : Scan raw pos from_ escaping (b :: rest)) : Scan raw (pos + 1) pos false rest :=
  { h.next false nofun with
    open_le := Nat.le_succ pos
    escape := nofun }

end Scan

theorem extract_self (raw : List UInt8) (pos : Nat) : raw.extract pos pos = [] := by
  simp [List.extract_eq_take_drop]

theorem extract_append (raw : List UInt8) {start middle stop : Nat} (hStart : start ≤ middle)
    (hStop : middle ≤ stop) :
    raw.extract start middle ++ raw.extract middle stop = raw.extract start stop := by
  simp only [List.extract_eq_take_drop]
  rw [show stop - start = (middle - start) + (stop - middle) by omega, List.take_add,
    List.drop_drop, Nat.add_sub_cancel' hStart]

theorem extract_one {raw rest : List UInt8} {b : UInt8} {pos : Nat} (h : raw.drop pos = b :: rest) :
    raw.extract pos (pos + 1) = [b] := by
  simp [List.extract_eq_take_drop, h]

def tokenText (raw : List UInt8) (group : Nat → List UInt8) : TemplateToken → List UInt8
  | .literal span => raw.extract span.start span.stop
  | .backref n => group n

theorem text_literalToken (raw : List UInt8) (group : Nat → List UInt8) (start stop : Nat) :
    (literalToken start stop).flatMap (tokenText raw group) = raw.extract start stop := by
  unfold literalToken
  split
  · simp [tokenText]
  · rename_i hEmpty
    simp [List.extract_eq_take_drop, Nat.sub_eq_zero_of_le (Nat.not_lt.mp hEmpty)]

theorem tokensFrom_reads {raw : List UInt8} (group : Nat → List UInt8) {pos from_ : Nat}
    {escaping : Bool} {l : List UInt8} (hScan : Scan raw pos from_ escaping l) :
    ∃ out, Reads group (if escaping then backslash :: l else l) out ∧
      (tokensFrom pos from_ escaping l).flatMap (tokenText raw group) =
        raw.extract from_ (if escaping then pos - 1 else pos) ++ out := by
  -- A backslash that may still escape counts as unread, although the open literal spans it.
  fun_induction tokensFrom pos from_ escaping l with
  | case1 pos from_ escaping =>
    rw [text_literalToken]
    cases escaping with
    | false => exact ⟨[], .nil, (List.append_nil _).symm⟩
    | true =>
      obtain ⟨hOpen, hEscape, hNone⟩ := hScan.escape rfl
      refine ⟨[backslash], .plain _ (fun _ _ h => nomatch h) (fun _ => not_reference hNone) .nil, ?_⟩
      have hLast := extract_one hEscape
      rw [Nat.sub_add_cancel (by omega)] at hLast
      simp only [if_true]
      rw [← hLast, extract_append raw (by omega) (by omega)]
  | case2 pos from_ b rest hSigil ih =>
    obtain ⟨hOpen, hEscape, hNone⟩ := hScan.escape rfl
    obtain ⟨out, hReads, hText⟩ := ih hScan.reopen
    refine ⟨b :: out, .escape b hSigil hReads, ?_⟩
    simp only [List.flatMap_append, text_literalToken, hText, Bool.false_eq_true, if_false, if_true]
    rw [extract_one hScan.ahead]
    rfl
  | case3 pos from_ escaping b rest hSigil hFree index count hReference ih =>
    obtain rfl : escaping = false := by simpa using hFree
    obtain ⟨text, after, number, rfl, rfl, hText, rfl⟩ := reference_of_readBackref? hReference
    have hNext := hScan.skip (1 + text.length) (by simp; omega)
    rw [← Nat.add_assoc, Nat.add_comm 1, List.drop_succ_cons] at hNext
    obtain ⟨out, hReads, hTokens⟩ := ih hNext
    rw [List.drop_left] at hReads
    refine ⟨_, .reference b hSigil hText hReads, ?_⟩
    rw [List.flatMap_append, text_literalToken, List.flatMap_cons, hTokens]
    simp only [Bool.false_eq_true, if_false, extract_self, List.nil_append, tokenText]
  | case4 pos from_ escaping b rest hSigil hFree hNone ih =>
    obtain rfl : escaping = false := by simpa using hFree
    have hNext := hScan.next (b == backslash) fun hEscape =>
      ⟨by simpa using hEscape, hNone⟩
    obtain ⟨out, hReads, hTokens⟩ := ih hNext
    rw [hTokens]
    cases hByte : b == backslash with
    | true =>
      obtain rfl : b = backslash := by simpa using hByte
      rw [hByte] at hReads
      exact ⟨out, hReads, rfl⟩
    | false =>
      rw [hByte] at hReads
      have hNotEscape : b ≠ backslash := by simpa using hByte
      refine ⟨b :: out, .plain b (fun h => absurd h hNotEscape) (fun _ => not_reference hNone)
        hReads, ?_⟩
      simp only [Bool.false_eq_true, if_false]
      rw [← extract_append raw hScan.open_le (Nat.le_succ pos), extract_one hScan.ahead,
        List.append_assoc]
      rfl
  | case5 pos from_ escaping b rest hPlain ih =>
    obtain ⟨out, hReads, hTokens⟩ := ih (hScan.next false nofun)
    rw [hTokens]
    have hNotEscape : b ≠ backslash := by
      rintro rfl
      exact hPlain (by decide)
    have hByte : Reads group (b :: rest) (b :: out) :=
      .plain b (fun h => absurd h hNotEscape) (fun h => absurd h hPlain) hReads
    simp only [Bool.false_eq_true, if_false]
    rw [← extract_append raw hScan.open_le (Nat.le_succ pos), extract_one hScan.ahead,
      List.append_assoc]
    cases escaping with
    | false => exact ⟨b :: out, hByte, rfl⟩
    | true =>
      obtain ⟨hOpen, hEscape, hNone⟩ := hScan.escape rfl
      have hSign : isSigil b = false := by simpa using hPlain
      refine ⟨backslash :: b :: out, .plain _ ?_ (fun _ => not_reference hNone) hByte, ?_⟩
      · rintro _ s ⟨⟩
        exact hSign
      · have hBefore := extract_one hEscape
        rw [Nat.sub_add_cancel (by omega)] at hBefore
        rw [← extract_append raw (show from_ ≤ pos - 1 by omega) (Nat.sub_le pos 1), hBefore,
          List.append_assoc]
        rfl

def literalPart (start stop : Nat) : List Part :=
  if start < stop then [.literal ⟨start, stop⟩] else []

theorem token?_literalPart (start stop : Nat) :
    (literalPart start stop).filterMap Part.token? = literalToken start stop := by
  unfold literalPart literalToken
  split <;> rfl

theorem fits_literalPart (raw : List UInt8) (start stop : Nat) :
    ∀ part ∈ literalPart start stop, part.Fits raw := by
  intro part hPart
  unfold literalPart at hPart
  split at hPart
  · obtain rfl := List.mem_singleton.mp hPart
    trivial
  · cases hPart

theorem Tiles.literal {start middle stop : Nat} {parts : List Part} (hStart : start ≤ middle)
    (h : Tiles middle parts stop) : Tiles start (literalPart start middle ++ parts) stop := by
  unfold literalPart
  split
  · rename_i hSome
    exact .cons (.literal ⟨start, middle⟩) hSome h
  · rename_i hEmpty
    obtain rfl := Nat.le_antisymm hStart (Nat.not_lt.mp hEmpty)
    exact h

theorem tokensFrom_parts {raw : List UInt8} {pos from_ : Nat} {escaping : Bool} {l : List UInt8}
    (hScan : Scan raw pos from_ escaping l) :
    ∃ parts, Tiles from_ parts raw.length ∧ (∀ part ∈ parts, part.Fits raw) ∧
      tokensFrom pos from_ escaping l = parts.filterMap Part.token? := by
  fun_induction tokensFrom pos from_ escaping l with
  | case1 pos from_ escaping =>
    have hEnd : pos = raw.length :=
      Nat.le_antisymm hScan.inside (List.drop_eq_nil_iff.mp hScan.ahead)
    refine ⟨literalPart from_ pos, ?_, fits_literalPart raw from_ pos,
      (token?_literalPart from_ pos).symm⟩
    have hTiles := Tiles.literal hScan.open_le (.nil pos)
    rw [List.append_nil] at hTiles
    exact hEnd ▸ hTiles
  | case2 pos from_ b rest hSigil ih =>
    obtain ⟨hOpen, hEscape, hNone⟩ := hScan.escape rfl
    obtain ⟨parts, hTiles, hFits, hTokens⟩ := ih hScan.reopen
    have hPos : pos - 1 + 1 = pos := Nat.sub_add_cancel (by omega)
    have hDropped : Tiles (pos - 1) (.dropped (pos - 1) :: parts) raw.length := by
      refine .cons (.dropped (pos - 1)) (Nat.lt_succ_self _) ?_
      simpa only [Part.span, hPos] using hTiles
    refine ⟨literalPart from_ (pos - 1) ++ .dropped (pos - 1) :: parts,
      .literal (by omega) hDropped, ?_, ?_⟩
    · intro part hPart
      rcases List.mem_append.mp hPart with hLiteral | hRest
      · exact fits_literalPart raw _ _ part hLiteral
      · rcases List.mem_cons.mp hRest with rfl | hRest
        · exact ⟨b, rest, hSigil, hEscape⟩
        · exact hFits part hRest
    · rw [List.filterMap_append, token?_literalPart, hTokens]
      rfl
  | case3 pos from_ escaping b rest hSigil hFree index count hReference ih =>
    obtain rfl : escaping = false := by simpa using hFree
    obtain ⟨text, after, number, rfl, rfl, hText, rfl⟩ := reference_of_readBackref? hReference
    have hNext := hScan.skip (1 + text.length) (by simp; omega)
    rw [← Nat.add_assoc, Nat.add_comm 1, List.drop_succ_cons] at hNext
    obtain ⟨parts, hTiles, hFits, hTokens⟩ := ih hNext
    have hReferred : Tiles pos
        (.reference ⟨pos, pos + 1 + text.length⟩ (min number maxGroup) :: parts) raw.length := by
      refine .cons (.reference ⟨pos, pos + 1 + text.length⟩ (min number maxGroup)) ?_ hTiles
      simp only [Part.span]
      omega
    refine ⟨_, .literal hScan.open_le hReferred, ?_, ?_⟩
    · intro part hPart
      rcases List.mem_append.mp hPart with hLiteral | hRest
      · exact fits_literalPart raw _ _ part hLiteral
      · rcases List.mem_cons.mp hRest with rfl | hRest
        · exact ⟨b, text, after, number, hSigil, hScan.ahead, hText, rfl, rfl⟩
        · exact hFits part hRest
    · rw [List.filterMap_append, token?_literalPart, hTokens]
      rfl
  | case4 pos from_ escaping b rest hSigil hFree hNone ih =>
    exact ih (hScan.next _ fun hEscape => ⟨by simpa using hEscape, hNone⟩)
  | case5 pos from_ escaping b rest hPlain ih => exact ih (hScan.next false nofun)

theorem Tiles.le {start stop : Nat} {parts : List Part} (h : Tiles start parts stop) :
    start ≤ stop := by
  induction h with
  | nil => exact Nat.le_refl _
  | cons part hSome _ ih => omega

theorem Tiles.within {start stop : Nat} {parts : List Part} (h : Tiles start parts stop) :
    ∀ part ∈ parts, start ≤ part.span.start ∧ part.span.start < part.span.stop ∧
      part.span.stop ≤ stop := by
  induction h with
  | nil => exact fun _ h => nomatch h
  | cons part hSome hRest ih =>
    rw [List.forall_mem_cons]
    refine ⟨⟨Nat.le_refl _, hSome, hRest.le⟩, ?_⟩
    intro other hOther
    obtain ⟨hStart, hWithin⟩ := ih other hOther
    exact ⟨by omega, hWithin⟩

theorem Tiles.pairwise {start stop : Nat} {parts : List Part} (h : Tiles start parts stop) :
    parts.Pairwise fun p q => p.span.stop ≤ q.span.start := by
  induction h with
  | nil => exact .nil
  | cons part hSome hRest ih => exact .cons (fun other hOther => (hRest.within other hOther).1) ih

theorem Tiles.pairwise_literals {start stop : Nat} {parts : List Part}
    (h : Tiles start parts stop) :
    ((parts.filterMap Part.token?).filterMap literalSpan?).Pairwise fun s t => s.stop ≤ t.start := by
  have hSpan : ∀ {part : Part} {span : Span}, part.token?.bind literalSpan? = some span →
      part.span = span := by
    rintro (_ | _ | _) span ⟨⟩
    rfl
  rw [List.filterMap_filterMap, List.pairwise_filterMap]
  refine h.pairwise.imp ?_
  intro p q hOrder s hs t ht
  rwa [hSpan hs, hSpan ht] at hOrder

theorem Tiles.existsUnique {start stop : Nat} {parts : List Part} (h : Tiles start parts stop)
    {i : Nat} (hStart : start ≤ i) (hStop : i < stop) :
    ∃! part, part ∈ parts ∧ part.span.start ≤ i ∧ i < part.span.stop := by
  induction h with
  | nil => omega
  | @cons part parts stop hSome hRest ih =>
    by_cases hHere : i < part.span.stop
    · refine ⟨part, ⟨List.mem_cons_self, hStart, hHere⟩, ?_⟩
      rintro other ⟨hOther, hFrom, _⟩
      rcases List.mem_cons.mp hOther with rfl | hOther
      · rfl
      · have hLater := (hRest.within other hOther).1
        omega
    · obtain ⟨found, ⟨hFound, hIn⟩, hUnique⟩ := ih (Nat.not_lt.mp hHere) hStop
      refine ⟨found, ⟨List.mem_cons_of_mem part hFound, hIn⟩, ?_⟩
      rintro other ⟨hOther, hFrom, hTo⟩
      rcases List.mem_cons.mp hOther with rfl | hOther
      · exact absurd hTo hHere
      · exact hUnique other ⟨hOther, hFrom, hTo⟩

theorem groupBytes_eq (subject : ByteArray) (offsets : MatchOffsets) (matchCount group : Nat) :
    (groupBytes subject offsets matchCount group).data.toList =
      captured subject offsets matchCount group := by
  unfold groupBytes captured
  cases offsets.group group with
  | none => split <;> rfl
  | some span =>
    by_cases hTaken : group < matchCount
    · by_cases hWithin : span.start ≤ span.stop ∧ span.stop ≤ subject.size
      · simp [hTaken, Span.slice?, Span.Within, hWithin]
      · simp [hTaken, Span.slice?, Span.Within, hWithin]
    · simp [hTaken]

theorem toList_expansion (t : Template) (subject : ByteArray) (offsets : MatchOffsets)
    (matchCount : Nat) : (t.expansion subject offsets matchCount).data.toList =
      t.tokens.flatMap (tokenText t.raw.data.toList (captured subject offsets matchCount)) := by
  unfold expansion
  induction t.tokens with
  | nil => rfl
  | cons token tokens ih =>
    rw [List.foldr_cons, ByteArray.data_append, Array.toList_append, ih, List.flatMap_cons]
    cases token with
    | literal span => simp [tokenBytes, tokenText]
    | backref group => rw [tokenBytes, groupBytes_eq, tokenText]

theorem literal_mem {parts : List Part} {span : Span}
    (h : .literal span ∈ parts.filterMap Part.token?) : .literal span ∈ parts := by
  obtain ⟨part, hPart, hToken⟩ := List.mem_filterMap.mp h
  cases part <;> cases hToken
  exact hPart

/-- The expansion of a template is what it reads as, and nothing else. Its tokens and the backslashes
dropped take up all of it, every byte once; its literals stand in order, and none is empty. -/
theorem parse_reads (raw subject : ByteArray) (offsets : MatchOffsets) (matchCount : Nat) :
    (∃ bytes : List UInt8,
      (∀ out : OutputBuffer, ((parse raw).expandInto out subject offsets matchCount).bytes =
        out.bytes ++ ⟨bytes.toArray⟩) ∧
      ∀ other, Reads (captured subject offsets matchCount) raw.data.toList other ↔
        other = bytes) ∧
    (∃ parts, Tiles 0 parts raw.size ∧ (∀ part ∈ parts, part.Fits raw.data.toList) ∧
      (parse raw).tokens = parts.filterMap Part.token? ∧
      ∀ i < raw.size, ∃! part, part ∈ parts ∧ part.span.start ≤ i ∧ i < part.span.stop) ∧
    (∀ span, .literal span ∈ (parse raw).tokens → span.start < span.stop ∧ span.stop ≤ raw.size) ∧
    ((parse raw).tokens.filterMap literalSpan?).Pairwise fun s t => s.stop ≤ t.start := by
  have hScan := Scan.first raw.data.toList
  obtain ⟨parts, hTiles, hFits, hTokens⟩ := tokensFrom_parts hScan
  refine ⟨?_, ⟨parts, hTiles, hFits, hTokens, ?_⟩, ?_, ?_⟩
  · obtain ⟨bytes, hReads, hText⟩ :=
      tokensFrom_reads (captured subject offsets matchCount) hScan
    refine ⟨bytes, ?_, ?_⟩
    · intro out
      rw [bytes_expandInto]
      congr 1
      apply ByteArray.ext
      apply Array.toList_inj.mp
      rw [toList_expansion]
      simp only [Bool.false_eq_true, if_false, extract_self, List.nil_append] at hText
      exact hText
    · intro other
      constructor
      · intro hOther
        exact hOther.eq hReads rfl
      · rintro rfl
        exact hReads
  · intro i hi
    exact hTiles.existsUnique (Nat.zero_le i) hi
  · intro span hSpan
    exact (hTiles.within _ (literal_mem (hTokens ▸ hSpan))).2
  · have hLiterals := hTiles.pairwise_literals
    rwa [← hTokens] at hLiterals

theorem parse_reads_escapes :
    let raw := "\\$1\\\\$\x7b1\x7d".toUTF8
    let offsets : MatchOffsets := ⟨#[some 0, some 3, some 1, some 2, none, none]⟩
    Reads (captured "xyz".toUTF8 offsets 2) raw.data.toList "$1\\y".toUTF8.data.toList ∧
      .literal ⟨1, 3⟩ ∈ (parse raw).tokens ∧ 3 ≤ raw.size ∧
      ∃ part : Part, part.Fits raw.data.toList ∧ part.span.start ≤ 3 ∧ 3 < part.span.stop := by
  intro raw offsets
  obtain ⟨⟨bytes, hBytes, hReads⟩, ⟨parts, _, hFits, _, hUnique⟩, hLiteral, _⟩ :=
    parse_reads raw "xyz".toUTF8 offsets 2
  have hMember : .literal ⟨1, 3⟩ ∈ (parse raw).tokens := by decide +kernel
  refine ⟨(hReads _).mpr ?_, hMember, (hLiteral _ hMember).2, ?_⟩
  · have hText : ((parse raw).expandInto {} "xyz".toUTF8 offsets 2).bytes = "$1\\y".toUTF8 := by
      decide +kernel
    rw [hBytes {}, show ({} : OutputBuffer).bytes = .empty from rfl, ByteArray.empty_append] at hText
    rw [← hText]
  · obtain ⟨part, ⟨hPart, hIn⟩, _⟩ := hUnique 3 (by decide +kernel)
    exact ⟨part, hFits part hPart, hIn⟩

end PerlPattern.Template
