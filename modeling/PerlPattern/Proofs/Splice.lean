import Mathlib.Data.List.Chain
import PerlPattern.Proofs.Rounds
import PerlPattern.Proofs.SearchLog
import PerlPattern.Proofs.ShortRuns

/-! # What a substitution writes

The matches that a pass has replaced stand in order, none of them an empty one
twice; the output is the subject up to the current offset with these matches
replaced. The matches replaced are the first ones that the matcher reported.
-/

namespace PerlPattern

variable {σ : Type} {m : Matcher σ} {subject : ByteArray} {template : Template}

/-- The subject from one offset to another, with matches replaced by what the template gives. -/
def splice (subject : ByteArray) (template : Template) (start : Nat) :
    List Accepted → Nat → ByteArray
  | [], stop => subject.extract start stop
  | a :: rest, stop =>
    subject.extract start a.span.start ++ template.expansion subject a.offsets a.count ++
      splice subject template a.span.stop rest stop

theorem splice_append_singleton (subject : ByteArray) (template : Template) (start : Nat)
    (l : List Accepted) (a : Accepted) (stop : Nat) :
    splice subject template start (l ++ [a]) stop =
      splice subject template start l a.span.start ++
        template.expansion subject a.offsets a.count ++ subject.extract a.span.stop stop := by
  induction l generalizing start with
  | nil => rfl
  | cons b rest ih =>
    simp only [List.cons_append, splice, ih, ByteArray.append_assoc]

theorem splice_extend (subject : ByteArray) (template : Template) {l : List Accepted}
    {middle stop : Nat} (hLast : ∀ a ∈ l.head?, a.span.stop ≤ middle) (hStop : middle ≤ stop) :
    splice subject template 0 l.reverse middle ++ subject.extract middle stop =
      splice subject template 0 l.reverse stop := by
  cases l with
  | nil => exact (ByteArray.extract_eq_extract_append_extract middle (Nat.zero_le _) hStop).symm
  | cons a earlier =>
    have hAfter : a.span.stop ≤ middle := hLast a rfl
    rw [List.reverse_cons, splice_append_singleton, splice_append_singleton,
      ByteArray.append_assoc, ← ByteArray.extract_eq_extract_append_extract middle hAfter hStop]

/-- One match may be replaced after another: it starts no earlier than that one ends, and is not the
same empty match. -/
def Accepted.Precedes (a b : Accepted) : Prop :=
  a.span.stop ≤ b.span.start ∧ ¬(a.span.isEmpty = true ∧ a.span = b.span)

/-- The first items of a list, as many as a limit allows. -/
def atMost {α : Type} (limit : Option Nat) (l : List α) : List α := limit.elim l l.take

namespace Pass

/-- The matches replaced stand in order up to the current offset, where an empty one may end only if
the next must not be empty. -/
structure Ordered (len : Nat) (p : Pass σ) : Prop where
  start_le : p.start ≤ len
  within : ∀ a ∈ p.accepted, a.span.Within len
  chain : p.accepted.IsChain fun b a => a.Precedes b
  last : ∀ a ∈ p.accepted.head?, a.span.stop ≤ p.start
  marked : ∀ a ∈ p.accepted.head?, a.span.isEmpty = true → a.span.stop = p.start →
    p.notEmpty = true

theorem Guarded.ordered {p q : Pass σ} (hGuarded : p.Guarded m subject)
    (h : Step m subject template p q) (hOrdered : p.Ordered subject.size) :
    q.Ordered subject.size := by
  have hBounds := hGuarded.start_le h
  cases h with
  | replaced outcome offsets state count whole out hSearch hCount _ hChecked _ _ =>
    have hWithin := hGuarded.whole_within hSearch hCount hChecked
    refine ⟨hBounds.2, ?_, ?_, ?_, ?_⟩
    · intro a ha
      rcases List.mem_cons.mp ha with rfl | ha
      · exact hWithin
      · exact hOrdered.within a ha
    · refine List.isChain_cons.mpr ⟨?_, hOrdered.chain⟩
      intro a ha
      have hLast := hOrdered.last a ha
      refine ⟨Nat.le_trans hLast hChecked.start_le, ?_⟩
      rintro ⟨hEmpty, hSame⟩
      have hSame : a.span = whole := hSame
      have hOrder := hChecked.start_le
      -- The same empty match again would be a retry that found nothing new.
      have hEnds : a.span.stop ≤ a.span.start := of_decide_eq_true hEmpty
      have hAgain := (hOrdered.within a (List.mem_of_mem_head? ha)).1
      rw [← hSame] at hOrder
      refine hChecked.fresh ⟨hOrdered.marked a ha hEmpty (by omega), hSame ▸ hEmpty, ?_⟩
      rw [← hSame]
      omega
    · rintro a ⟨⟩
      exact Nat.le_refl _
    · rintro a ⟨⟩ hEmpty _
      exact hEmpty
  | stepped outcome offsets state out _ _ _ hInside _ =>
    have hWidth := stepWidth_pos m subject p.start state
    refine ⟨hBounds.2, hOrdered.within, hOrdered.chain, ?_, ?_⟩
    · intro a ha
      exact Nat.le_trans (hOrdered.last a ha) hBounds.1
    · intro a ha _ hHere
      have hLast := hOrdered.last a ha
      dsimp only at hHere
      omega

theorem Step.ordered (hCounts : m.CountsWhole subject) {p q : Pass σ}
    (h : Step m subject template p q) (hOrdered : p.Ordered subject.size) :
    q.Ordered subject.size :=
  (guarded_of_counts hCounts hOrdered.start_le).ordered h hOrdered

/-- The output is the subject up to the current offset with the matches replaced. -/
def Written (subject : ByteArray) (template : Template) (p : Pass σ) : Prop :=
  p.out.bytes = splice subject template 0 p.accepted.reverse p.start

theorem Step.written {p q : Pass σ} (h : Step m subject template p q)
    (hOrdered : p.Ordered subject.size) (hWritten : p.Written subject template) :
    q.Written subject template := by
  unfold Written at hWritten ⊢
  cases h with
  | replaced outcome offsets state count whole out hSearch hCount hLeft hChecked hGrow hInside =>
    simp only [Template.bytes_expandInto, OutputBuffer.bytes_extend, List.reverse_cons,
      splice_append_singleton, ByteArray.extract_same, ByteArray.append_empty]
    rw [OutputBuffer.bytes_of_growFor hGrow, hWritten,
      splice_extend subject template hOrdered.last hChecked.start_le]
  | stepped outcome offsets state out hSearch hNone hNotEmpty hInside hGrow =>
    simp only [OutputBuffer.bytes_extend]
    rw [OutputBuffer.bytes_of_growFor hGrow, hWritten,
      splice_extend subject template hOrdered.last (Nat.le_add_right _ _)]

theorem Ends.written {p q : Pass σ} {report : SubstitutionReport} (h : Ends m subject p q report)
    (hOrdered : p.Ordered subject.size) (hWritten : p.Written subject template) :
    q.out.bytes = splice subject template 0 q.accepted.reverse subject.size := by
  unfold Written at hWritten
  cases h with
  | copied outcome offsets state out hSearch hNone hLast hInside hGrow =>
    simp only [OutputBuffer.bytes_extend]
    rw [OutputBuffer.bytes_of_growExact hGrow, hWritten,
      splice_extend subject template hOrdered.last hInside]

/-- The report and the limit agree with the matches replaced. -/
structure Counted (limit : Option Nat) (p : Pass σ) : Prop where
  replacements : p.report.replacements = min p.accepted.length maxReplacements
  remaining : p.remaining = limit.map (· - p.accepted.length)
  limited : ∀ n ∈ limit, p.accepted.length ≤ n

theorem replacements_warned (report : SubstitutionReport) (outcome : Outcome) :
    (warned report outcome).replacements = report.replacements := by
  cases outcome <;> rfl

theorem Counted.length_lt {limit : Option Nat} {p : Pass σ} (hCounted : p.Counted limit)
    (hLeft : p.remaining ≠ some 0) : ∀ n ∈ limit, p.accepted.length < n := by
  rintro n ⟨⟩
  have hRemaining := hCounted.remaining
  rw [hRemaining] at hLeft
  by_contra hFull
  exact hLeft (congrArg some (Nat.sub_eq_zero_of_le (Nat.not_lt.mp hFull)))

theorem Step.counted {limit : Option Nat} {p q : Pass σ} (h : Step m subject template p q)
    (hCounted : p.Counted limit) : q.Counted limit := by
  cases h with
  | replaced outcome offsets state count whole out hSearch hCount hLeft hChecked hGrow hInside =>
    refine ⟨?_, ?_, ?_⟩
    · simp only [Pass.counted, replacements_warned, hCounted.replacements, List.length_cons]
      omega
    · simp only [hCounted.remaining, Option.map_map, List.length_cons]
      rfl
    · exact hCounted.length_lt hLeft
  | stepped outcome offsets state out hSearch hNone hNotEmpty hInside hGrow =>
    exact ⟨(replacements_warned _ _).trans hCounted.replacements, hCounted.remaining,
      hCounted.limited⟩

theorem Ends.replacements {limit : Option Nat} {p q : Pass σ} {report : SubstitutionReport}
    (h : Ends m subject p q report) (hCounted : p.Counted limit) :
    report.replacements = min q.accepted.length maxReplacements := by
  cases h with
  | copied outcome => exact (replacements_warned _ _).trans hCounted.replacements

/-- The matches replaced are the first ones reported, as many as the limit allows. -/
def Reported (limit : Option Nat) (p : Pass (Logged σ)) : Prop :=
  p.accepted.reverse = atMost limit (p.state.2.filterMap SearchCall.reported?)

theorem atMost_append_singleton {α : Type} {limit : Option Nat} {found accepted : List α} {a : α}
    (hAccepted : accepted = atMost limit found) (hLeft : ∀ n ∈ limit, accepted.length < n) :
    accepted ++ [a] = atMost limit (found ++ [a]) := by
  cases limit with
  | none => rw [hAccepted]; rfl
  | some n =>
    have hRoom := hLeft n rfl
    have hTaken : accepted = found.take n := hAccepted
    have hAll : found.length < n := by
      rw [hTaken, List.length_take] at hRoom
      omega
    rw [List.take_of_length_le (Nat.le_of_lt hAll)] at hTaken
    have hFits : (found ++ [a]).length ≤ n := by
      rw [List.length_append]
      exact hAll
    rw [hTaken]
    exact (List.take_of_length_le hFits).symm

theorem atMost_append {α : Type} {n : Nat} {found accepted more : List α}
    (hAccepted : accepted = atMost (some n) found) (hSpent : n ≤ accepted.length) :
    accepted = atMost (some n) (found ++ more) := by
  have hTaken : accepted = found.take n := hAccepted
  have hEnough : n ≤ found.length := by
    rw [hTaken, List.length_take] at hSpent
    omega
  exact hTaken.trans (List.take_append_of_le_length hEnough).symm

theorem Reported.skip {limit : Option Nat} {p : Pass (Logged σ)} (hReported : p.Reported limit)
    (hCounted : p.Counted limit) {outcome : Outcome} {offsets : MatchOffsets} {s : Logged σ}
    (hSearch : p.search m.logged subject = (.ok outcome, offsets, s))
    (hNone : outcome.matchCount? offsets = none ∨ p.remaining = some 0) :
    p.accepted.reverse = atMost limit (s.2.filterMap SearchCall.reported?) := by
  rw [log_of_search hSearch, List.filterMap_append]
  rcases hNone with hNone | hSpent
  · rw [hReported, List.filterMap_cons, SearchCall.reported?_of_noCount hNone, List.filterMap_nil,
      List.append_nil]
  · obtain ⟨n, rfl, hNothing⟩ := Option.map_eq_some_iff.mp (hCounted.remaining.symm.trans hSpent)
    refine atMost_append hReported ?_
    rw [List.length_reverse]
    omega

theorem Step.reported {limit : Option Nat} {p q : Pass (Logged σ)}
    (h : Step m.logged subject template p q) (hCounted : p.Counted limit)
    (hReported : p.Reported limit) : q.Reported limit := by
  cases h with
  | replaced outcome offsets state count whole out hSearch hCount hLeft hChecked hGrow hInside =>
    unfold Reported
    rw [log_of_search hSearch, List.filterMap_append, List.filterMap_cons,
      SearchCall.reported?_of_matchCount hCount hChecked.group, List.reverse_cons]
    refine atMost_append_singleton hReported ?_
    rw [List.length_reverse]
    exact hCounted.length_lt hLeft
  | stepped outcome offsets state out hSearch hNone hNotEmpty hInside hGrow =>
    exact hReported.skip hCounted hSearch hNone

theorem Ends.reported {limit : Option Nat} {p q : Pass (Logged σ)} {report : SubstitutionReport}
    (h : Ends m.logged subject p q report) (hCounted : p.Counted limit)
    (hReported : p.Reported limit) : q.Reported limit := by
  cases h with
  | copied outcome offsets state out hSearch hNone => exact hReported.skip hCounted hSearch hNone

theorem Ends.last_call {limit : Option Nat} {p q : Pass (Logged σ)} {report : SubstitutionReport}
    (h : Ends m.logged subject p q report) (hCounted : p.Counted limit)
    (hLeft : ∀ n ∈ limit, q.accepted.length < n) :
    ∃ call, q.state.2.getLast? = some call ∧ call.answer = .ok .noMatch ∧
      (call.mode.notEmptyAtStart = false ∨ call.start = subject.size) := by
  cases h with
  | copied outcome offsets state out hSearch hNone hLast hInside hGrow =>
    have hNoMatch : outcome = .noMatch := by
      rcases hNone with hNone | hSpent
      · exact Outcome.matchCount?_eq_none_iff.mp hNone
      · obtain ⟨n, rfl, hNothing⟩ :=
          Option.map_eq_some_iff.mp (hCounted.remaining.symm.trans hSpent)
        have hMore := hLeft n rfl
        dsimp only at hMore
        omega
    refine ⟨⟨p.start, { notEmptyAtStart := p.notEmpty }, .ok outcome, offsets,
      m.advance subject p.start state.1⟩, ?_, congrArg Except.ok hNoMatch, hLast⟩
    rw [log_of_search hSearch, List.getLast?_concat]

structure Sound (subject : ByteArray) (template : Template) (limit : Option Nat)
    (p : Pass (Logged σ)) : Prop where
  ordered : p.Ordered subject.size
  written : p.Written subject template
  counted : p.Counted limit
  reported : p.Reported limit

theorem ordered_first (state : σ) (offsets : MatchOffsets) (out : OutputBuffer)
    (limit : Option Nat) (len : Nat) : (first state offsets out limit).Ordered len where
  start_le := Nat.zero_le _
  within := fun _ ha => nomatch ha
  chain := .nil
  last := fun _ ha => nomatch ha
  marked := fun _ ha => nomatch ha

theorem written_first (state : σ) (offsets : MatchOffsets) {out : OutputBuffer}
    (limit : Option Nat) (subject : ByteArray) (template : Template)
    (hEmpty : out.bytes = .empty) :
    (first state offsets out limit).Written subject template :=
  hEmpty.trans (ByteArray.extract_same (b := subject) (i := 0)).symm

theorem counted_first (state : σ) (offsets : MatchOffsets) (out : OutputBuffer)
    (limit : Option Nat) : (first state offsets out limit).Counted limit where
  replacements := rfl
  remaining := by cases limit <;> rfl
  limited := fun _ _ => Nat.zero_le _

theorem sound_first (state : σ) (offsets : MatchOffsets) {out : OutputBuffer}
    (limit : Option Nat) (subject : ByteArray) (template : Template)
    (hEmpty : out.bytes = .empty) :
    (first (state, []) offsets out limit).Sound subject template limit where
  ordered := ordered_first _ _ _ _ _
  written := written_first _ _ _ _ _ hEmpty
  counted := counted_first _ _ _ _
  reported := by cases limit <;> simp [Reported, first, atMost]

theorem Step.sound (hCounts : m.logged.CountsWhole subject) {limit : Option Nat}
    {p q : Pass (Logged σ)} (h : Step m.logged subject template p q)
    (hSound : p.Sound subject template limit) : q.Sound subject template limit where
  ordered := h.ordered hCounts hSound.ordered
  written := h.written hSound.ordered hSound.written
  counted := h.counted hSound.counted
  reported := h.reported hSound.counted hSound.reported

end Pass

/-- A substitution replaces the first matches that its searches reported, which lie in order within
the subject, and writes the subject with these matches replaced. Unless its limit is used up, it
ends once no match is found. -/
structure Substitution.Spliced (subject : ByteArray) (template : Template) (limit : Option Nat)
    (calls : List SearchCall) (report : SubstitutionReport) (s : Substitution σ) : Prop where
  reported : s.accepted = atMost limit (calls.filterMap SearchCall.reported?)
  within : ∀ a ∈ s.accepted, a.span.Within subject.size
  chain : s.accepted.IsChain Accepted.Precedes
  limited : ∀ n ∈ limit, s.accepted.length ≤ n
  replacements : report.replacements = min s.accepted.length maxReplacements
  bytes : s.out.bytes = splice subject template 0 s.accepted subject.size
  last_call : (∀ n ∈ limit, s.accepted.length < n) →
    ∃ call, calls.getLast? = some call ∧ call.answer = .ok .noMatch ∧
      (call.mode.notEmptyAtStart = false ∨ call.start = subject.size)

theorem Pass.Ends.spliced {limit : Option Nat} {p q : Pass (Logged σ)}
    {report : SubstitutionReport} (h : Ends m.logged subject p q report)
    (hSound : p.Sound subject template limit) :
    (Substitution.ofRun (q, .ok report)).Spliced subject template limit q.state.2 report := by
  have hSame := h.accepted_eq
  refine {
    reported := h.reported hSound.counted hSound.reported
    within := ?_
    chain := ?_
    limited := ?_
    replacements := ?_
    bytes := h.written hSound.ordered hSound.written
    last_call := ?_ }
  · intro a ha
    rw [Substitution.ofRun, hSame] at ha
    exact hSound.ordered.within a (List.mem_reverse.mp ha)
  · rw [Substitution.ofRun, hSame]
    exact List.isChain_reverse.mpr hSound.ordered.chain
  · rw [Substitution.ofRun, hSame, List.length_reverse]
    exact hSound.counted.limited
  · rw [Substitution.ofRun, List.length_reverse]
    exact h.replacements hSound.counted
  · intro hLeft
    rw [Substitution.ofRun, List.length_reverse] at hLeft
    exact h.last_call hSound.counted hLeft

/-- A substitution that gives a report replaces the matches reported and nothing else, whatever the
matcher reports. -/
theorem substituteInto_spliced (hCounts : m.CountsWhole subject) (state : σ)
    (template : Template) (limit : Option Nat) (out : OutputBuffer) (patience : Nat)
    (report : SubstitutionReport)
    (hOk : (substituteInto m state subject template limit out patience).result = .ok report) :
    (substituteInto m state subject template limit out patience).Spliced subject template limit
      (substituteCalls m state subject template limit out patience) report := by
  suffices hAll : (substituteInto m.logged (state, []) subject template limit out patience).Spliced
      subject template limit (substituteCalls m state subject template limit out patience) report by
    rw [substituteInto_logged m state []]
    exact { hAll with }
  rw [substituteInto_logged m state []] at hOk
  unfold substituteCalls
  obtain ⟨e, out', _, _, hEnd⟩ | ⟨offsets, grown, _, hGrow, hEnd⟩ :=
    substituteInto_cases m.logged (state, []) subject template limit out patience
  · rw [hEnd] at hOk
    cases hOk
  · have hFirst := Pass.sound_first state offsets limit subject template
      (OutputBuffer.bytes_of_growExact hGrow)
    obtain ⟨q, hSteps, hStop⟩ :=
      Pass.run_stops hCounts.logged _ template patience hFirst.ordered.start_le
    have hSound : q.Sound subject template limit :=
      hSteps.preserves (fun _ _ hStep hBefore => hStep.sound hCounts.logged hBefore) hFirst
    rw [hEnd] at hOk ⊢
    have hResult : ((Pass.first (state, []) offsets grown limit).run m.logged subject template
        patience).2 = .ok report := hOk
    rw [hResult] at hStop
    have hSpliced := (Pass.ends_of_round hStop).spliced hSound
    rwa [← hResult] at hSpliced

theorem substituteInto_spliced_runs :
    (Matcher.runsOf 98).CountsWhole "abbc".toUTF8 ∧
    (substituteInto (Matcher.runsOf 98) () "abbc".toUTF8 (Template.parse "[$0]".toUTF8) (some 3)
      {} 0).result = .ok { replacements := 3 } ∧
    (substituteInto (Matcher.runsOf 98) () "abbc".toUTF8 (Template.parse "[$0]".toUTF8) (some 3)
      {} 0).Spliced "abbc".toUTF8 (Template.parse "[$0]".toUTF8) (some 3)
      (substituteCalls (Matcher.runsOf 98) () "abbc".toUTF8 (Template.parse "[$0]".toUTF8) (some 3)
        {} 0) { replacements := 3 } :=
  have hCounts := (Matcher.runsOf_wellBehaved 98 "abbc".toUTF8).countsWhole
  have hOk : (substituteInto (Matcher.runsOf 98) () "abbc".toUTF8 (Template.parse "[$0]".toUTF8)
      (some 3) {} 0).result = .ok { replacements := 3 } := result_of_within 9 (by decide +kernel) 0
  ⟨hCounts, hOk, substituteInto_spliced hCounts () _ (some 3) {} 0 _ hOk⟩

end PerlPattern
