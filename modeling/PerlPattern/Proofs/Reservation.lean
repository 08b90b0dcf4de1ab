import PerlPattern.Proofs.RoundLog
import PerlPattern.Proofs.TemplateReading

/-! # Room for the output

Each round asks for room once, for all that it is going to append, and then
appends it piece by piece. How much it asks for is worked out apart from the
pieces, yet covers them, with one byte to spare: appending never reserves
anything. Room that is refused is what a run runs out of memory by.
-/

namespace PerlPattern

namespace OutputBuffer

def totalSize (pieces : List ByteArray) : Nat := (pieces.map ByteArray.size).sum

/-- Pieces are appended one after the other, each into room that is there already. -/
inductive Fills : OutputBuffer → List ByteArray → OutputBuffer → Prop
  | nil (b : OutputBuffer) : Fills b [] b
  | cons (b : OutputBuffer) (piece : ByteArray) (pieces : List ByteArray) (out : OutputBuffer)
      (hRoom : (b.extend piece).size + 1 ≤ b.capacity)
      (hKept : (b.extend piece).capacity = b.capacity)
      (hRest : Fills (b.extend piece) pieces out) : Fills b (piece :: pieces) out

variable {b out : OutputBuffer} {pieces : List ByteArray} {required bound : Nat}

@[simp] theorem totalSize_nil : totalSize [] = 0 := rfl

@[simp] theorem totalSize_cons (piece : ByteArray) (pieces : List ByteArray) :
    totalSize (piece :: pieces) = piece.size + totalSize pieces := rfl

@[simp] theorem size_extend (b : OutputBuffer) (more : ByteArray) :
    (b.extend more).size = b.size + more.size := ByteArray.size_append

theorem capacity_extend {more : ByteArray} (hRoom : (b.extend more).size + 1 ≤ b.capacity) :
    (b.extend more).capacity = b.capacity := by
  rw [size_extend] at hRoom
  exact Nat.max_eq_left hRoom

theorem size_foldl_extend (pieces : List ByteArray) (b : OutputBuffer) :
    (pieces.foldl extend b).size = b.size + totalSize pieces := by
  induction pieces generalizing b with
  | nil => rfl
  | cons piece pieces ih => simp [ih, Nat.add_assoc]

/-- Room for all the pieces is room for each when its turn comes. -/
theorem fills_foldl (hRoom : b.size + totalSize pieces + 1 ≤ b.capacity) :
    b.Fills pieces (pieces.foldl extend b) := by
  induction pieces generalizing b with
  | nil => exact .nil b
  | cons piece pieces ih =>
    rw [totalSize_cons] at hRoom
    have hHere : (b.extend piece).size + 1 ≤ b.capacity := by
      rw [size_extend]
      omega
    have hKept := capacity_extend hHere
    refine .cons b piece pieces _ hHere hKept (ih ?_)
    rw [hKept, size_extend]
    omega

theorem capacity_of_fills (h : b.Fills pieces out) : out.capacity = b.capacity := by
  induction h with
  | nil => rfl
  | cons b piece pieces out _ hKept _ ih => rw [ih, hKept]

theorem capacity_of_reserve {target : Nat} (h : b.reserve target bound = .ok out) :
    out.capacity = target := by
  unfold reserve at h
  split at h
  · cases h
  · cases h
    rfl

theorem capacity_of_growFor (h : b.growFor required bound = .ok out) :
    out.capacity =
      if b.capacity ≤ required then b.capacity + 2 * required + 1 else b.capacity := by
  unfold growFor at h
  split at h
  · rw [capacity_of_reserve h, if_pos (by omega)]
  · cases h
    rw [if_neg (by omega)]

theorem capacity_of_growExact (h : b.growExact required bound = .ok out) :
    out.capacity = max b.capacity (required + 1) := by
  unfold growExact at h
  split at h
  · rw [capacity_of_reserve h]
    omega
  · cases h
    omega

theorem room_of_growFor (h : b.growFor required bound = .ok out) :
    out.size = b.size ∧ required + 1 ≤ out.capacity := by
  refine ⟨congrArg ByteArray.size (bytes_of_growFor h), ?_⟩
  rw [capacity_of_growFor h]
  split <;> omega

theorem room_of_growExact (h : b.growExact required bound = .ok out) :
    out.size = b.size ∧ required + 1 ≤ out.capacity := by
  refine ⟨congrArg ByteArray.size (bytes_of_growExact h), ?_⟩
  rw [capacity_of_growExact h]
  exact Nat.le_max_right _ _

theorem size_extract_le (bytes : ByteArray) (start stop : Nat) :
    (bytes.extract start stop).size ≤ stop - start := by
  rw [ByteArray.size_extract]
  omega

/-- One piece of a subject fits where its length was asked for. -/
theorem fills_extract {bytes : ByteArray} {start stop width : Nat} (hSize : out.size = b.size)
    (hRoom : b.size + width + 1 ≤ out.capacity) (hWidth : stop - start ≤ width) :
    out.Fills [bytes.extract start stop] (out.extend (bytes.extract start stop)) := by
  have hPiece := size_extract_le bytes start stop
  refine fills_foldl ?_
  rw [totalSize_cons, totalSize_nil]
  omega

end OutputBuffer

namespace Template

open OutputBuffer (totalSize)

variable {t : Template}

theorem literal_within (raw : ByteArray) : ∀ span, .literal span ∈ (parse raw).tokens →
    span.Within raw.size := by
  obtain ⟨parts, hTiles, -, hTokens⟩ := tokensFrom_parts (Scan.first raw.data.toList)
  intro span hSpan
  rw [show (parse raw).tokens = parts.filterMap Part.token? from hTokens] at hSpan
  obtain ⟨-, hOrder, hStop⟩ := hTiles.within _ (literal_mem hSpan)
  exact ⟨Nat.le_of_lt hOrder, hStop⟩

theorem size_tokenBytes {token : TemplateToken}
    (hLiteral : ∀ span, token = .literal span → span.Within t.raw.size) (subject : ByteArray)
    (offsets : MatchOffsets) (count : Nat) :
    (t.tokenBytes subject offsets count token).size = tokenSize subject offsets count token := by
  cases token with
  | literal span =>
    rw [tokenBytes, ByteArray.size_extract, Nat.min_eq_left (hLiteral span rfl).2]
    rfl
  | backref group => rfl

theorem size_tokenBytes_le (t : Template) (subject : ByteArray) (offsets : MatchOffsets)
    (count : Nat) (token : TemplateToken) :
    (t.tokenBytes subject offsets count token).size ≤ tokenSize subject offsets count token := by
  cases token with
  | literal span => exact OutputBuffer.size_extract_le t.raw span.start span.stop
  | backref group => exact Nat.le_refl _

/-- The size that is added up for a template covers its pieces. -/
theorem totalSize_tokens_le (t : Template) (subject : ByteArray) (offsets : MatchOffsets)
    (count : Nat) : totalSize (t.tokens.map (t.tokenBytes subject offsets count)) ≤
      t.expandedSize subject offsets count := by
  unfold expandedSize
  generalize t.tokens = tokens
  induction tokens with
  | nil => exact Nat.le_refl _
  | cons token tokens ih => exact Nat.add_le_add (t.size_tokenBytes_le subject offsets count token) ih

theorem expandInto_eq (t : Template) (b : OutputBuffer) (subject : ByteArray)
    (offsets : MatchOffsets) (count : Nat) : t.expandInto b subject offsets count =
      (t.tokens.map (t.tokenBytes subject offsets count)).foldl OutputBuffer.extend b :=
  List.foldl_map.symm

variable (hLiterals : ∀ span, .literal span ∈ t.tokens → span.Within t.raw.size)

include hLiterals in
/-- The literals of a template lie within it, so its pieces are as long as the sizes added up. -/
theorem totalSize_tokens (subject : ByteArray) (offsets : MatchOffsets) (count : Nat) :
    totalSize (t.tokens.map (t.tokenBytes subject offsets count)) =
      t.expandedSize subject offsets count := by
  unfold expandedSize
  generalize t.tokens = tokens at hLiterals
  induction tokens with
  | nil => rfl
  | cons token tokens ih =>
    have hToken := size_tokenBytes
      (fun span hSame => hLiterals span (hSame ▸ List.mem_cons_self)) subject offsets count
    have hRest := ih fun span hSpan => hLiterals span (List.mem_cons_of_mem token hSpan)
    simp [hToken, hRest]

include hLiterals in
theorem size_expandInto (b : OutputBuffer) (subject : ByteArray) (offsets : MatchOffsets)
    (count : Nat) : (t.expandInto b subject offsets count).size =
      b.size + t.expandedSize subject offsets count := by
  rw [expandInto_eq, OutputBuffer.size_foldl_extend, totalSize_tokens hLiterals]

end Template

namespace Pass

variable {σ : Type} {m : Matcher σ} {subject : ByteArray} {template : Template}

/-- The room that a round asks for, and the pieces that it is going to append. -/
inductive Asks (m : Matcher σ) (subject : ByteArray) (template : Template) (p : Pass σ) :
    Result OutputBuffer → List ByteArray → Prop
  | replace (outcome : Outcome) (offsets : MatchOffsets) (state : σ) (count : Nat) (whole : Span)
      (asked : Result OutputBuffer) (hSearch : p.search m subject = (.ok outcome, offsets, state))
      (hCount : outcome.matchCount? offsets = some count) (hLeft : p.remaining ≠ some 0)
      (hChecked : Checked offsets count p.start subject.size p.notEmpty whole)
      (hAsked : p.out.growFor (p.required subject template offsets count whole) maxAllocation =
        asked) :
      Asks m subject template p asked (subject.extract p.start whole.start ::
        template.tokens.map (template.tokenBytes subject offsets count))
  | step (outcome : Outcome) (offsets : MatchOffsets) (state : σ) (asked : Result OutputBuffer)
      (hSearch : p.search m subject = (.ok outcome, offsets, state))
      (hNone : outcome.matchCount? offsets = none ∨ p.remaining = some 0)
      (hNotEmpty : p.notEmpty = true) (hInside : p.start < subject.size)
      (hAsked : p.out.growFor (p.out.size + stepWidth m subject p.start state) maxAllocation =
        asked) :
      Asks m subject template p asked
        [subject.extract p.start (p.start + stepWidth m subject p.start state)]
  | rest (outcome : Outcome) (offsets : MatchOffsets) (state : σ) (asked : Result OutputBuffer)
      (hSearch : p.search m subject = (.ok outcome, offsets, state))
      (hNone : outcome.matchCount? offsets = none ∨ p.remaining = some 0)
      (hLast : p.notEmpty = false ∨ p.start = subject.size) (hInside : p.start ≤ subject.size)
      (hAsked : p.out.growExact (p.out.size + (subject.size - p.start)) maxAllocation = asked) :
      Asks m subject template p asked [subject.extract p.start subject.size]

/-- A round appends the pieces that it asked for room for, each into room that is there, or leaves the
output as it is: if the room is refused, and the run ends for that, or if it fails otherwise. -/
inductive Reserves (m : Matcher σ) (subject : ByteArray) (template : Template) (p : Pass σ) :
    Round σ → Prop
  | next (q : Pass σ) (grown : OutputBuffer) (pieces : List ByteArray)
      (hAsks : p.Asks m subject template (.ok grown) pieces) (hFills : grown.Fills pieces q.out) :
      Reserves m subject template p (.next q)
  | ended (q : Pass σ) (report : SubstitutionReport) (grown : OutputBuffer)
      (pieces : List ByteArray) (hAsks : p.Asks m subject template (.ok grown) pieces)
      (hFills : grown.Fills pieces q.out) : Reserves m subject template p (.stop q (.ok report))
  | refused (q : Pass σ) (pieces : List ByteArray)
      (hAsks : p.Asks m subject template (.error .outOfMemory) pieces) (hOut : q.out = p.out) :
      Reserves m subject template p (.stop q (.error (.error .outOfMemory)))
  | failed (q : Pass σ) (fault : PassFault) (hOther : fault ≠ .error .outOfMemory)
      (hGranted : ∀ e pieces, ¬p.Asks m subject template (.error e) pieces) (hOut : q.out = p.out) :
      Reserves m subject template p (.stop q (.error fault))

theorem Asks.eq_outOfMemory {p : Pass σ} {e : PatternError} {pieces : List ByteArray}
    (h : p.Asks m subject template (.error e) pieces) : e = .outOfMemory := by
  cases h with
  | replace _ _ _ _ _ _ _ _ _ _ hAsked => exact OutputBuffer.error_of_growFor hAsked
  | step _ _ _ _ _ _ _ _ hAsked => exact OutputBuffer.error_of_growFor hAsked
  | rest _ _ _ _ _ _ _ _ hAsked => exact OutputBuffer.error_of_growExact hAsked

theorem fills_replace {p : Pass σ} {offsets : MatchOffsets} {count : Nat} {whole : Span}
    {grown : OutputBuffer}
    (hGrow : p.out.growFor (p.required subject template offsets count whole) maxAllocation =
      .ok grown) :
    grown.Fills (subject.extract p.start whole.start ::
        template.tokens.map (template.tokenBytes subject offsets count))
      (template.expandInto (grown.extend (subject.extract p.start whole.start)) subject offsets
        count) := by
  obtain ⟨hSize, hRoom⟩ := OutputBuffer.room_of_growFor hGrow
  have hGap := OutputBuffer.size_extract_le subject p.start whole.start
  rw [Template.expandInto_eq]
  have hPieces := template.totalSize_tokens_le subject offsets count
  refine OutputBuffer.fills_foldl ?_
  rw [OutputBuffer.totalSize_cons]
  unfold required at hRoom
  omega

theorem Step.asks {p q : Pass σ} (h : Step m subject template p q) : ∃ grown pieces,
    p.Asks m subject template (.ok grown) pieces ∧ grown.Fills pieces q.out := by
  cases h with
  | replaced outcome offsets state count whole grown hSearch hCount hLeft hChecked hGrow hInside =>
    exact ⟨grown, _, .replace outcome offsets state count whole _ hSearch hCount hLeft hChecked hGrow,
      fills_replace hGrow⟩
  | stepped outcome offsets state grown hSearch hNone hNotEmpty hInside hGrow =>
    obtain ⟨hSize, hRoom⟩ := OutputBuffer.room_of_growFor hGrow
    exact ⟨grown, _, .step outcome offsets state _ hSearch hNone hNotEmpty hInside hGrow,
      OutputBuffer.fills_extract hSize hRoom (by omega)⟩

theorem Ends.asks {p q : Pass σ} {report : SubstitutionReport} (h : Ends m subject p q report)
    (template : Template) : ∃ grown pieces,
      p.Asks m subject template (.ok grown) pieces ∧ grown.Fills pieces q.out := by
  cases h with
  | copied outcome offsets state grown hSearch hNone hLast hInside hGrow =>
    obtain ⟨hSize, hRoom⟩ := OutputBuffer.room_of_growExact hGrow
    exact ⟨grown, _, .rest outcome offsets state _ hSearch hNone hLast hInside hGrow,
      OutputBuffer.fills_extract hSize hRoom (Nat.le_refl _)⟩

/-- A request that is refused ends the run. -/
theorem Asks.stops {p : Pass σ} {e : PatternError} {pieces : List ByteArray}
    (h : p.Asks m subject template (.error e) pieces) :
    ∃ q, p.round m subject template = .stop q (.error (.error e)) := by
  cases h with
  | replace outcome offsets state count whole _ hSearch hCount hLeft hChecked hAsked =>
    rw [round_of_counted hSearch hCount hLeft, Pass.replace]
    dsimp only
    rw [checkedMatch_eq_ok_iff.mpr hChecked]
    dsimp only
    unfold required at hAsked
    rw [hAsked]
    exact ⟨_, rfl⟩
  | step outcome offsets state _ hSearch hNone hNotEmpty hInside hAsked =>
    rw [round_of_uncounted hSearch hNone, Pass.copy, if_pos ⟨hNotEmpty, hInside⟩]
    unfold stepWidth at hAsked
    dsimp only
    rw [hAsked]
    exact ⟨_, rfl⟩
  | rest outcome offsets state _ hSearch hNone hLast hInside hAsked =>
    have hDone : ¬(p.notEmpty = true ∧ p.start < subject.size) := by
      rintro ⟨hAgain, hBefore⟩
      rcases hLast with hFirst | hEnd
      · exact Bool.false_ne_true (hFirst.symm.trans hAgain)
      · omega
    rw [round_of_uncounted hSearch hNone, Pass.copy, if_neg hDone, if_pos hInside]
    dsimp only
    rw [hAsked]
    exact ⟨_, rfl⟩

/-- Memory ran out by a request of the round. -/
def RanOut (m : Matcher σ) (subject : ByteArray) (template : Template) (p : Pass σ)
    (fault : PassFault) : Prop :=
  fault = .error .outOfMemory → ∃ pieces, p.Asks m subject template (.error .outOfMemory) pieces

theorem ranOut_of_replace {p q : Pass σ} {outcome : Outcome} {offsets : MatchOffsets} {state : σ}
    {count : Nat} {fault : PassFault} (hSearch : p.search m subject = (.ok outcome, offsets, state))
    (hCount : outcome.matchCount? offsets = some count) (hLeft : p.remaining ≠ some 0)
    (h : replace { p with offsets, state, report := warned p.report outcome } subject template count =
      .stop q (.error fault)) : q.out = p.out ∧ p.RanOut m subject template fault := by
  unfold replace at h
  split at h
  · cases h
    exact ⟨rfl, nofun⟩
  · rename_i whole hWhole
    dsimp only at h hWhole
    split at h
    · rename_i e hError
      cases OutputBuffer.error_of_growFor hError
      cases h
      exact ⟨rfl, fun _ => ⟨_, .replace outcome offsets state count whole _ hSearch hCount hLeft
        (checkedMatch_eq_ok_iff.mp hWhole) hError⟩⟩
    · split at h
      · cases h
      · cases h
        exact ⟨rfl, nofun⟩

theorem ranOut_of_copy {p q : Pass σ} {outcome : Outcome} {offsets : MatchOffsets} {state : σ}
    {fault : PassFault} (hSearch : p.search m subject = (.ok outcome, offsets, state))
    (hNone : outcome.matchCount? offsets = none ∨ p.remaining = some 0)
    (h : copy { p with offsets, state, report := warned p.report outcome } m subject =
      .stop q (.error fault)) : q.out = p.out ∧ p.RanOut m subject template fault := by
  unfold copy at h
  split at h
  · rename_i hRetry
    dsimp only at h hRetry
    split at h
    · rename_i e hError
      cases OutputBuffer.error_of_growFor hError
      cases h
      exact ⟨rfl, fun _ => ⟨_, .step outcome offsets state _ hSearch hNone hRetry.1 hRetry.2 hError⟩⟩
    · cases h
  · rename_i hLast
    split at h
    · rename_i hInside
      dsimp only at h hLast hInside
      split at h
      · rename_i e hError
        cases OutputBuffer.error_of_growExact hError
        cases h
        have hDone : p.notEmpty = false ∨ p.start = subject.size := by
          rcases Bool.eq_false_or_eq_true p.notEmpty with hFlag | hFlag
          · exact .inr (Nat.le_antisymm hInside (Nat.not_lt.mp fun hBefore => hLast ⟨hFlag, hBefore⟩))
          · exact .inl hFlag
        exact ⟨rfl, fun _ => ⟨_, .rest outcome offsets state _ hSearch hNone hDone hInside hError⟩⟩
      · cases h
    · cases h
      exact ⟨rfl, nofun⟩

theorem ranOut_of_round {p q : Pass σ} {fault : PassFault}
    (h : p.round m subject template = .stop q (.error fault)) :
    q.out = p.out ∧ p.RanOut m subject template fault := by
  unfold round at h
  split at h
  · cases h
    refine ⟨rfl, ?_⟩
    rintro ⟨⟩
  · rename_i outcome offsets state hSearch
    dsimp only at h
    split at h
    · rename_i count hCount
      split at h
      · rename_i hSpent
        exact ranOut_of_copy hSearch (.inr hSpent) h
      · rename_i hLeft
        exact ranOut_of_replace hSearch hCount hLeft h
    · rename_i hNone
      exact ranOut_of_copy hSearch (.inl hNone) h

theorem round_reserves (p : Pass σ) (m : Matcher σ) (subject : ByteArray) (template : Template) :
    p.Reserves m subject template (p.round m subject template) := by
  cases hRound : p.round m subject template with
  | next q =>
    obtain ⟨grown, pieces, hAsks, hFills⟩ := (step_of_round hRound).asks
    exact .next q grown pieces hAsks hFills
  | stop q result =>
    cases result with
    | ok report =>
      obtain ⟨grown, pieces, hAsks, hFills⟩ := (ends_of_round hRound).asks template
      exact .ended q report grown pieces hAsks hFills
    | error fault =>
      obtain ⟨hOut, hRanOut⟩ := ranOut_of_round hRound
      by_cases hMemory : fault = .error .outOfMemory
      · obtain ⟨pieces, hAsks⟩ := hRanOut hMemory
        subst hMemory
        exact .refused q pieces hAsks hOut
      · refine .failed q fault hMemory ?_ hOut
        intro e pieces hAsks
        obtain ⟨q', hStop⟩ := hAsks.stops
        cases hRound.symm.trans hStop
        exact hMemory (congrArg PassFault.error hAsks.eq_outOfMemory)

end Pass

variable {σ : Type} {m : Matcher σ} {state : σ} {subject : ByteArray} {template : Template}
  {limit : Option Nat} {out : OutputBuffer} {passes : List (Pass σ)} {s : Substitution σ}

/-- A request for room in a substitution is refused: at its start, for the offsets, or in one of its
rounds. -/
inductive Substitution.Refused (m : Matcher σ) (state : σ) (subject : ByteArray) (template : Template)
    (out : OutputBuffer) (passes : List (Pass σ)) : Prop
  | start (hGrow : out.clear.growExact (2 * subject.size) maxAllocation = .error .outOfMemory)
  | offsets (grown : OutputBuffer)
      (hGrow : out.clear.growExact (2 * subject.size) maxAllocation = .ok grown)
      (hOffsets : (m.captureCount state).bind MatchOffsets.ofCaptureCount = .error .outOfMemory)
  | round (p : Pass σ) (pieces : List ByteArray) (hRound : p ∈ passes)
      (hAsks : p.Asks m subject template (.error .outOfMemory) pieces)

theorem Pass.Runs.outOfMemory_iff {p : Pass σ} {last : Pass σ × Except PassFault SubstitutionReport}
    (h : Runs m subject template p passes last) : last.2 = .error (.error .outOfMemory) ↔
      ∃ q ∈ passes, ∃ pieces, q.Asks m subject template (.error .outOfMemory) pieces := by
  refine (h.stops_iff ?_).trans ⟨?_, ?_⟩
  · exact nofun
  · rintro ⟨q, hMember, r, hStop⟩
    exact ⟨q, hMember, (ranOut_of_round hStop).2 rfl⟩
  · rintro ⟨q, hMember, pieces, hAsks⟩
    exact ⟨q, hMember, hAsks.stops⟩

theorem Substitution.Made.outOfMemory_iff (h : Made m state subject template limit out passes s) :
    s.result = .error (.error .outOfMemory) ↔
      Refused m state subject template out passes := by
  cases h with
  | start e hGrow =>
    cases OutputBuffer.error_of_growExact hGrow
    exact iff_of_true rfl (.start hGrow)
  | offsets grown e hGrow hOffsets =>
    constructor
    · intro hMemory
      cases hMemory
      exact .offsets grown hGrow hOffsets
    · rintro (hRefused | ⟨_, _, hRefused⟩ | ⟨_, _, hNone, _⟩)
      · cases hGrow.symm.trans hRefused
      · cases hOffsets.symm.trans hRefused
        rfl
      · cases hNone
  | run grown offsets _ last hGrow hOffsets hRuns =>
    refine hRuns.outOfMemory_iff.trans ⟨?_, ?_⟩
    · rintro ⟨p, hRound, pieces, hAsks⟩
      exact .round p pieces hRound hAsks
    · rintro (hRefused | ⟨_, _, hRefused⟩ | ⟨p, pieces, hRound, hAsks⟩)
      · cases hGrow.symm.trans hRefused
      · cases hOffsets.symm.trans hRefused
      · exact ⟨p, hRound, pieces, hAsks⟩

/-- A substitution is made of its rounds, and each of them only ever appends what it has asked for
room for, with a byte to spare: what a template is said to expand to is what it appends. Memory runs
out where room is asked for and refused, and nowhere else. -/
theorem substituteInto_reserves (m : Matcher σ) (state : σ) (subject raw : ByteArray)
    (limit : Option Nat) (out : OutputBuffer) (patience : Nat) :
    let template := Template.parse raw
    let passes := substitutePasses m state subject template limit out patience
    let s := substituteInto m state subject template limit out patience
    (∀ b offsets count, (template.expandInto b subject offsets count).size =
      b.size + template.expandedSize subject offsets count) ∧
    Substitution.Made m state subject template limit out passes s ∧
    (∀ p ∈ passes, p.Reserves m subject template (p.round m subject template)) ∧
    (s.result = .error (.error .outOfMemory) ↔
      Substitution.Refused m state subject template out passes) := by
  intro template passes s
  have hLiterals := Template.literal_within raw
  have hMade : Substitution.Made m state subject template limit out passes s :=
    substituteInto_made m state subject template limit out patience
  exact ⟨fun b => Template.size_expandInto hLiterals b subject, hMade,
    fun p _ => p.round_reserves m subject template, hMade.outOfMemory_iff⟩

end PerlPattern
