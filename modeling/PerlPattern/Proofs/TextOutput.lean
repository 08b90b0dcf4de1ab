import PerlPattern.Proofs.LimitedRuns
import PerlPattern.Proofs.TemplateReading
import PerlPattern.Proofs.TextBoundaries

/-! # Text from text

A template is cut into tokens beside ASCII bytes only, and so between its
characters. If the matcher, too, records spans between characters, everything
that is copied from a text and from a template that is a text is text, and so
is the output. A step may well end inside a character: the rest of it follows
in the output as it does in the subject.
-/

namespace PerlPattern

open Utf8 (OnBoundary)

namespace Utf8

variable {text : String} {pos : Nat} {b : UInt8} {rest : List UInt8}

theorem onBoundary_size (text : String) : OnBoundary text text.toUTF8.size := by
  rw [String.toUTF8_eq_toByteArray, String.size_toByteArray]
  exact String.Pos.Raw.isValid_rawEndPos

theorem isValidUTF8_extract {start stop : Nat} (hStart : OnBoundary text start)
    (hStop : OnBoundary text stop) : (text.toUTF8.extract start stop).IsValidUTF8 := by
  rw [String.toUTF8_eq_toByteArray]
  obtain hOrder | hInverted := Nat.le_total start stop
  · exact (String.Pos.Raw.isValidUTF8_extract_iff ⟨start⟩ ⟨stop⟩ hOrder
      hStop.le_rawEndPos).mpr (.inr ⟨hStart, hStop⟩)
  · rw [ByteArray.extract_eq_empty_iff.mpr (by omega)]
    exact ByteArray.isValidUTF8_empty

theorem widthOfLead_ascii (hAscii : b < 0x80) : widthOfLead b = 1 := by
  unfold widthOfLead
  grind

theorem isUTF8FirstByte_ascii (hAscii : b < 0x80) : b.IsUTF8FirstByte := by
  have hAll : ∀ n : Fin 256, UInt8.ofFin n < 0x80 → (UInt8.ofFin n).IsUTF8FirstByte := by
    unfold UInt8.IsUTF8FirstByte
    decide +kernel
  exact hAll b.toFin hAscii

theorem getElem?_of_drop {bytes : ByteArray} (h : bytes.data.toList.drop pos = b :: rest) :
    bytes[pos]? = some b := by
  have hSome := congrArg (·[0]?) h
  have hData : bytes.data[pos]? = some b := by simpa using hSome
  obtain ⟨hInside, hByte⟩ := getElem?_eq_some_iff.mp hData
  exact (getElem?_pos bytes pos hInside).trans (congrArg some hByte)

/-- An ASCII byte of a text is a whole character. -/
theorem onBoundary_of_ascii (hBytes : text.toUTF8.data.toList.drop pos = b :: rest)
    (hAscii : b < 0x80) : OnBoundary text pos ∧ OnBoundary text (pos + 1) := by
  have hAt := getElem?_of_drop hBytes
  obtain ⟨hInside, hByte⟩ := getElem?_eq_some_iff.mp hAt
  have hStart : OnBoundary text pos := by
    have hBefore : (⟨pos⟩ : String.Pos.Raw) < text.rawEndPos := by
      rwa [String.toUTF8_eq_toByteArray, String.size_toByteArray] at hInside
    have hSame : text.getUTF8Byte ⟨pos⟩ hBefore = b := hByte
    refine String.Pos.Raw.isValid_iff_isUTF8FirstByte.mpr (.inr ⟨hBefore, ?_⟩)
    rw [hSame]
    exact isUTF8FirstByte_ascii hAscii
  have hWidth : charWidthAt text.toUTF8 pos = 1 := by
    rw [charWidthAt, hAt]
    dsimp only
    rw [widthOfLead_ascii hAscii]
    omega
  refine ⟨hStart, ?_⟩
  rw [← hWidth]
  exact (isCharacter_charWidthAt hStart hInside).onBoundary

theorem OnBoundary.skip {ascii : List UInt8} (hStart : OnBoundary text pos)
    (hBytes : text.toUTF8.data.toList.drop pos = ascii ++ rest) (hAscii : ∀ b ∈ ascii, b < 0x80) :
    OnBoundary text (pos + ascii.length) := by
  induction ascii generalizing pos with
  | nil => exact hStart
  | cons b ascii ih =>
    have hNext : text.toUTF8.data.toList.drop (pos + 1) = ascii ++ rest := by
      rw [← List.tail_drop, hBytes]
      rfl
    have hHere := (onBoundary_of_ascii hBytes (hAscii b List.mem_cons_self)).2
    have hRest := ih hHere hNext fun d hd => hAscii d (List.mem_cons_of_mem b hd)
    rwa [Nat.add_assoc, Nat.add_comm 1] at hRest

end Utf8

namespace Template

variable {text : String}

theorem isSigil_ascii {b : UInt8} (h : isSigil b = true) : b < 0x80 := by
  grind [isSigil, backslash, dollar]

theorem isDigit_ascii {b : UInt8} (h : isDigit b = true) : b < 0x80 := by
  grind [isDigit]

theorem Reference.ascii {text rest : List UInt8} {number : Nat} (h : Reference text rest number) :
    ∀ b ∈ text, b < 0x80 := by
  cases h with
  | bare _ _ hDigits => exact fun b hb => isDigit_ascii (hDigits b hb)
  | braced _ _ hDigits =>
    simp only [List.forall_mem_cons, List.forall_mem_append]
    exact ⟨by decide, fun b hb => isDigit_ascii (hDigits b hb), by decide, nofun⟩

theorem literal_mem_literalToken {span : Span} {start stop : Nat}
    (h : .literal span ∈ literalToken start stop) : span = ⟨start, stop⟩ := by
  unfold literalToken at h
  split at h
  · cases List.mem_singleton.mp h
    rfl
  · cases h

theorem tokensFrom_onBoundary {pos from_ : Nat} {escaping : Bool} {l : List UInt8}
    (hScan : Scan text.toUTF8.data.toList pos from_ escaping l) (hOpen : OnBoundary text from_) :
    ∀ span, .literal span ∈ tokensFrom pos from_ escaping l →
      OnBoundary text span.start ∧ OnBoundary text span.stop := by
  fun_induction tokensFrom pos from_ escaping l with
  | case1 pos from_ escaping =>
    have hEnd : pos = text.toUTF8.size :=
      Nat.le_antisymm hScan.inside (List.drop_eq_nil_iff.mp hScan.ahead)
    intro span hSpan
    cases literal_mem_literalToken hSpan
    exact ⟨hOpen, hEnd ▸ Utf8.onBoundary_size text⟩
  | case2 pos from_ b rest hSigil ih =>
    obtain ⟨-, hEscape, -⟩ := hScan.escape rfl
    have hBefore := (Utf8.onBoundary_of_ascii hEscape (by decide)).1
    have hHere := (Utf8.onBoundary_of_ascii hScan.ahead (isSigil_ascii hSigil)).1
    intro span hSpan
    rcases List.mem_append.mp hSpan with hLiteral | hRest
    · cases literal_mem_literalToken hLiteral
      exact ⟨hOpen, hBefore⟩
    · exact ih hScan.reopen hHere span hRest
  | case3 pos from_ escaping b rest hSigil hFree index count hReference ih =>
    obtain ⟨digits, after, number, rfl, rfl, hText, rfl⟩ := reference_of_readBackref? hReference
    have hNext := hScan.skip (1 + digits.length) (by simp; omega)
    rw [← Nat.add_assoc, Nat.add_comm 1, List.drop_succ_cons] at hNext
    have hHere := (Utf8.onBoundary_of_ascii hScan.ahead (isSigil_ascii hSigil)).1
    have hAfter : OnBoundary text (pos + (b :: digits).length) :=
      hHere.skip hScan.ahead (List.forall_mem_cons.mpr ⟨isSigil_ascii hSigil, hText.ascii⟩)
    rw [List.length_cons, Nat.add_comm digits.length, ← Nat.add_assoc] at hAfter
    intro span hSpan
    rcases List.mem_append.mp hSpan with hLiteral | hRest
    · cases literal_mem_literalToken hLiteral
      exact ⟨hOpen, hHere⟩
    · exact ih hNext hAfter span ((List.mem_cons.mp hRest).resolve_left (by rintro ⟨⟩))
  | case4 pos from_ escaping b rest hSigil hFree hNone ih =>
    exact ih (hScan.next _ fun hEscape => ⟨by simpa using hEscape, hNone⟩) hOpen
  | case5 pos from_ escaping b rest hPlain ih => exact ih (hScan.next false (by rintro ⟨⟩)) hOpen

/-- The literals of a template that is text are text. -/
theorem literal_isValidUTF8 {span : Span} (h : .literal span ∈ (parse text.toUTF8).tokens) :
    (text.toUTF8.extract span.start span.stop).IsValidUTF8 := by
  obtain ⟨hStart, hStop⟩ :=
    tokensFrom_onBoundary (Scan.first _) (Utf8.onBoundary_zero text) span h
  exact Utf8.isValidUTF8_extract hStart hStop

end Template

namespace MatchOffsets

/-- The groups recorded start and end between characters of a text. -/
def OnBoundaries (o : MatchOffsets) (text : String) : Prop :=
  ∀ g span, o.group g = some span → OnBoundary text span.start ∧ OnBoundary text span.stop

instance (o : MatchOffsets) (text : String) : Decidable (o.OnBoundaries text) :=
  decidable_of_iff (∀ g < o.groupCapacity, ∀ span ∈ o.group g,
      OnBoundary text span.start ∧ OnBoundary text span.stop)
    ⟨fun h g span hGroup => h g (lt_groupCapacity_of_group hGroup) span hGroup,
      fun h g _ span hGroup => h g span hGroup⟩

end MatchOffsets

namespace Template

variable {text : String} {offsets : MatchOffsets}

theorem groupBytes_isValidUTF8 (hOffsets : offsets.OnBoundaries text) (matchCount group : Nat) :
    (groupBytes text.toUTF8 offsets matchCount group).IsValidUTF8 := by
  unfold groupBytes
  split
  · cases hGroup : offsets.group group with
    | none => exact ByteArray.isValidUTF8_empty
    | some span =>
      obtain ⟨hStart, hStop⟩ := hOffsets group span hGroup
      rw [Option.bind_some, Span.slice?]
      split
      · exact Utf8.isValidUTF8_extract hStart hStop
      · exact ByteArray.isValidUTF8_empty
  · exact ByteArray.isValidUTF8_empty

theorem expansion_isValidUTF8 {t : Template} (hLiterals : ∀ span, .literal span ∈ t.tokens →
    (t.raw.extract span.start span.stop).IsValidUTF8) (hOffsets : offsets.OnBoundaries text)
    (matchCount : Nat) : (t.expansion text.toUTF8 offsets matchCount).IsValidUTF8 := by
  unfold expansion
  generalize t.tokens = tokens at hLiterals
  induction tokens with
  | nil => exact ByteArray.isValidUTF8_empty
  | cons token tokens ih =>
    have hRest := ih fun span hSpan => hLiterals span (List.mem_cons_of_mem token hSpan)
    refine ByteArray.IsValidUTF8.append ?_ hRest
    cases token with
    | literal span => exact hLiterals span List.mem_cons_self
    | backref group => exact groupBytes_isValidUTF8 hOffsets matchCount group

end Template

theorem splice_isValidUTF8 {text : String} {template : Template} {l : List Accepted}
    {start stop : Nat} (hLiterals : ∀ span, .literal span ∈ template.tokens →
      (template.raw.extract span.start span.stop).IsValidUTF8)
    (hMatches : ∀ a ∈ l, a.offsets.group 0 = some a.span ∧ a.offsets.OnBoundaries text)
    (hStart : OnBoundary text start) (hStop : OnBoundary text stop) :
    (splice text.toUTF8 template start l stop).IsValidUTF8 := by
  induction l generalizing start with
  | nil => exact Utf8.isValidUTF8_extract hStart hStop
  | cons a rest ih =>
    obtain ⟨⟨hWhole, hOffsets⟩, hRest⟩ := List.forall_mem_cons.mp hMatches
    obtain ⟨hFrom, hTo⟩ := hOffsets 0 a.span hWhole
    have hGap := Utf8.isValidUTF8_extract hStart hFrom
    have hExpansion := Template.expansion_isValidUTF8 hLiterals hOffsets a.count
    exact (hGap.append hExpansion).append (ih hRest hTo)

variable {σ : Type} {m : Matcher σ} {text raw : String}

/-- A substitution in a text by a template that is text gives text, as long as no group was recorded
that starts or ends inside a character. -/
theorem substituteInto_isValidUTF8 (hCounts : m.CountsWhole text.toUTF8) (state : σ)
    (limit : Option Nat) (out : OutputBuffer) (patience : Nat)
    (hRecorded : ∀ call ∈ substituteCalls m state text.toUTF8 (.parse raw.toUTF8) limit out patience,
      call.offsets.OnBoundaries text) :
    (∀ span, .literal span ∈ (Template.parse raw.toUTF8).tokens →
      (raw.toUTF8.extract span.start span.stop).IsValidUTF8) ∧
    ∀ report, (substituteInto m state text.toUTF8 (.parse raw.toUTF8) limit out patience).result =
      .ok report → (substituteInto m state text.toUTF8 (.parse raw.toUTF8) limit out
        patience).out.bytes.IsValidUTF8 := by
  refine ⟨fun span => Template.literal_isValidUTF8, ?_⟩
  intro report hOk
  rw [bytes_substituteInto_of_ok hCounts hOk]
  refine splice_isValidUTF8 (fun span => Template.literal_isValidUTF8) ?_
    (Utf8.onBoundary_zero text) (Utf8.onBoundary_size text)
  intro a ha
  obtain ⟨⟨call, hCall, hReported⟩, -⟩ := accepted_backed m state _ _ limit out patience a ha
  obtain ⟨-, -, -, hSame, hWhole⟩ := SearchCall.reported?_eq_some_iff.mp hReported
  exact ⟨hWhole, hSame ▸ hRecorded call hCall⟩

/-- One of these searches starts inside a character. -/
theorem substituteInto_isValidUTF8_words :
    let text := "aé€a"
    let template := Template.parse "\\$é$\x7b1\x7dü$".toUTF8
    ∃ p, CompiledPattern.ofDelimited "/\\b(a?)/".toUTF8 default = .ok p ∧
      p.matcher.CountsWhole text.toUTF8 ∧
      (∀ call ∈ substituteCalls p.matcher () text.toUTF8 template none {} 0,
        call.offsets.OnBoundaries text) ∧
      (∃ call ∈ substituteCalls p.matcher () text.toUTF8 template none {} 0,
        ¬OnBoundary text call.start) ∧
      (substituteInto p.matcher () text.toUTF8 template none {} 0).result =
        .ok { replacements := 4 } ∧
      (substituteInto p.matcher () text.toUTF8 template none {} 0).out.bytes.IsValidUTF8 := by
  intro text template
  have hComputed : ((CompiledPattern.ofDelimited "/\\b(a?)/".toUTF8 default).toOption.map
      fun p => (substituteWithin 9 p.matcher.logged ((), []) text.toUTF8 template none {}).map
        fun s => (s.result.toOption, s.state.2.all fun call => call.offsets.OnBoundaries text,
          s.state.2.any fun call => ¬OnBoundary text call.start)) =
      some (some (some { replacements := 4 }, true, true)) := by decide +kernel
  obtain ⟨p, hCompiled, hWithin⟩ := Option.map_eq_some_iff.mp hComputed
  obtain ⟨hResult, hFacts⟩ := Prod.mk.inj (substituteInto_of_within 9 _ hWithin 0)
  obtain ⟨hAll, hAny⟩ := Prod.mk.inj hFacts
  have hCounts := p.matcher_countsWhole text.toUTF8
  have hRecorded : ∀ call ∈ substituteCalls p.matcher () text.toUTF8 template none {} 0,
      call.offsets.OnBoundaries text :=
    fun call hCall => of_decide_eq_true (List.all_eq_true.mp hAll call hCall)
  obtain ⟨call, hCall, hInside⟩ := List.any_eq_true.mp hAny
  have hOk : (substituteInto p.matcher () text.toUTF8 template none {} 0).result =
      .ok { replacements := 4 } := by
    rw [substituteInto_logged p.matcher () []]
    exact eq_ok_of_toOption hResult
  exact ⟨p, eq_ok_of_toOption hCompiled, hCounts, hRecorded, ⟨call, hCall, of_decide_eq_true hInside⟩,
    hOk, (substituteInto_isValidUTF8 hCounts () none {} 0 hRecorded).2 _ hOk⟩

end PerlPattern
