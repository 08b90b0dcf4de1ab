import PerlPattern.Proofs.LimitedRuns
import PerlPattern.Proofs.RecordedGroups
import PerlPattern.Proofs.Scans

/-! # Groups from the engine to the output

The room for groups is settled before the first search, and no search changes
it. If each match lists as many groups as that, all of them are recorded and
none of an earlier match is left: what a template copies and what a lookup
answers is what the engine has to say of the group.
-/

namespace PerlPattern

namespace Groups

/-- The bytes of a group; none if it took no part in the match. -/
def text (groups : Groups) (subject : ByteArray) (g : Nat) : ByteArray :=
  ((groups.span? g).map fun span => subject.extract span.start span.stop).getD .empty

theorem Bound.lt_of_span? {groups : Groups} {n g : Nat} (h : groups.Bound n)
    (hTook : (groups.span? g).isSome) : g < n := by
  obtain ⟨top, ⟨-, hHighest⟩, rfl⟩ := h
  exact Nat.lt_succ_of_le (hHighest hTook)

end Groups

namespace Engine

/-- Each match found within a subject lists all the groups there are, the whole match first. -/
def ListsGroups (e : Engine) (subject : ByteArray) : Prop :=
  ∀ start ≤ subject.size, ∀ groups, e.search subject start = .ok (some groups) →
    groups.length = e.groupCount ∧ (groups.span? 0).isSome

instance (e : Engine) (subject : ByteArray) : Decidable (e.ListsGroups subject) :=
  decidable_of_iff (∀ start ≤ subject.size, ∀ groups ∈ (e.search subject start).toOption.join,
      groups.length = e.groupCount ∧ (groups.span? 0).isSome)
    ⟨fun h start hStart groups hSearch => h start hStart groups (by rw [hSearch]; rfl),
      fun h start hStart groups hMember =>
        h start hStart groups (eq_ok_of_toOption (Option.join_eq_some_iff.mp hMember))⟩

/-- A search recorded all the groups of the match that it reports, and no others. -/
structure Complete (e : Engine) (subject : ByteArray) (call : SearchCall) : Prop where
  fits : call.answer ≠ .ok .tooManySubstrings
  matched : ∀ n, call.answer = .ok (.matched n) → ∃ groups,
    e.search subject call.start = .ok (some groups) ∧ groups.length = e.groupCount ∧
      groups.Bound n ∧ ∀ g, call.offsets.group g = groups.span? g

variable {e : Engine} {subject : ByteArray}

theorem complete_exec (hLists : e.ListsGroups subject) {offsets : MatchOffsets}
    (hRoom : offsets.groupCapacity = e.groupCount - 1 + 1) (start : Nat) (mode logged : SearchMode)
    (width : Nat) : e.Complete subject ⟨start, logged, (e.exec subject start mode offsets).1,
      (e.exec subject start mode offsets).2, width⟩ := by
  obtain hBeyond | hStart := Nat.lt_or_ge subject.size start
  · rw [e.exec_of_beyond hBeyond]
    exact ⟨nofun, nofun⟩
  obtain ⟨error, -, hExec⟩ | ⟨found, hSearch, hExec⟩ := e.exec_cases mode hStart
  · rw [hExec]
    exact ⟨nofun, nofun⟩
  rw [hExec]
  cases found with
  | none => exact ⟨nofun, nofun⟩
  | some groups =>
    obtain ⟨hLength, hFirst⟩ := hLists start hStart groups hSearch
    rw [Option.getD_some]
    rcases groups with _ | ⟨_ | whole, captures⟩
    · cases hFirst
    · cases hFirst
    by_cases hAllows : mode.Allows start whole
    · obtain ⟨outcome, after, hRecord, hCapacity, hHolds, hOutcome⟩ :=
        record_kept hAllows (hRoom ▸ Nat.le_add_left 1 _) captures
      rw [hRecord]
      obtain ⟨-, g, hOver, hTook⟩ | ⟨n, rfl, hBound, hFits⟩ := hOutcome
      · have hInside := Groups.lt_length_of_span? hTook
        omega
      · refine ⟨nofun, ?_⟩
        rintro _ ⟨⟩
        exact ⟨_, hSearch, hLength, hBound, hHolds.all (hCapacity.symm ▸ hFits)⟩
    · rw [record_refused hAllows]
      exact ⟨nofun, nofun⟩

/-- What a complete search counts are the groups of the engine's match. -/
theorem Complete.counted {call : SearchCall} (h : e.Complete subject call) {outcome : Outcome}
    {count : Nat} (hAnswer : call.answer = .ok outcome)
    (hCount : outcome.matchCount? call.offsets = some count) :
    ∃ groups, e.search subject call.start = .ok (some groups) ∧ groups.length = e.groupCount ∧
      groups.Bound count ∧ ∀ g, call.offsets.group g = groups.span? g := by
  cases outcome with
  | matched n =>
    cases hCount
    exact h.matched _ hAnswer
  | tooManySubstrings => exact absurd hAnswer h.fits
  | noMatch => cases hCount

end Engine

theorem Occurrence.group_eq_span? {o : Occurrence} {groups : Groups}
    (hBound : groups.Bound o.matchCount) (hGroups : ∀ g, o.offsets.group g = groups.span? g)
    (g : Nat) : o.group g = groups.span? g := by
  unfold Occurrence.group
  split
  · exact hGroups g
  · rename_i hBeyond
    rw [Option.not_isSome_iff_eq_none.mp fun hTook => hBeyond (hBound.lt_of_span? hTook)]

theorem Template.groupBytes_eq_text {subject : ByteArray} {offsets : MatchOffsets} {count : Nat}
    {groups : Groups} (hBound : groups.Bound count)
    (hGroups : ∀ g, offsets.group g = groups.span? g)
    (hWithin : ∀ g < count, ∀ span, offsets.group g = some span → span.Within subject.size)
    (g : Nat) : groupBytes subject offsets count g = groups.text subject g := by
  unfold groupBytes Groups.text
  rw [← hGroups g]
  split
  · rename_i hCounted
    cases hGroup : offsets.group g with
    | none => rfl
    | some span =>
      rw [Option.bind_some, Span.slice?, if_pos (hWithin g hCounted span hGroup)]
      rfl
  · rename_i hBeyond
    have hUnset : groups.span? g = none :=
      Option.not_isSome_iff_eq_none.mp fun hTook => hBeyond (hBound.lt_of_span? hTook)
    rw [hGroups, hUnset]
    rfl

/-- The warning that goes with the answer to a search. -/
def SearchCall.warning? (call : SearchCall) : Option Warning :=
  match call.answer with
  | .ok .tooManySubstrings => some .tooManySubstrings
  | _ => none

section Warnings

variable {σ : Type} {m : Matcher σ} {subject : ByteArray} {template : Template}

namespace Pass

/-- A pass has warned of all the searches with too many groups, in order. -/
def Warned (p : Pass (Logged σ)) : Prop :=
  p.report.warnings = p.state.2.filterMap SearchCall.warning?

theorem Warned.search {p : Pass (Logged σ)} (h : p.Warned) {outcome : Outcome}
    {offsets : MatchOffsets} {s : Logged σ}
    (hSearch : p.search m.logged subject = (.ok outcome, offsets, s)) :
    (warned p.report outcome).warnings = s.2.filterMap SearchCall.warning? := by
  rw [log_of_search hSearch, List.filterMap_append, ← h]
  cases outcome <;> simp [warned, SearchCall.warning?]

theorem Step.warned {p q : Pass (Logged σ)} (h : Step m.logged subject template p q)
    (hWarned : p.Warned) : q.Warned := by
  cases h with
  | replaced outcome offsets s count whole out hSearch => exact hWarned.search hSearch
  | stepped outcome offsets s out hSearch => exact hWarned.search hSearch

theorem Ends.warned {p q : Pass (Logged σ)} {report : SubstitutionReport}
    (h : Ends m.logged subject p q report) (hWarned : p.Warned) :
    report.warnings = q.state.2.filterMap SearchCall.warning? := by
  cases h with
  | copied outcome offsets s out hSearch => exact hWarned.search hSearch

end Pass

theorem warnings_of_ok (hCounts : m.CountsWhole subject) {state : σ} {limit : Option Nat}
    {out : OutputBuffer} {patience : Nat} {report : SubstitutionReport}
    (hOk : (substituteInto m state subject template limit out patience).result = .ok report) :
    report.warnings = (substituteCalls m state subject template limit out patience).filterMap
      SearchCall.warning? := by
  rw [substituteInto_logged m state []] at hOk
  obtain ⟨offsets, grown, q, qLast, -, -, hSteps, hEnds, hRun⟩ :=
    substituteInto_ends hCounts.logged hOk
  unfold substituteCalls
  rw [hRun]
  exact hEnds.warned (hSteps.preserves (fun _ _ hStep hBefore => hStep.warned hBefore) rfl)

end Warnings

namespace CompiledPattern

variable {p : CompiledPattern} {subject : ByteArray} {template : Template}

theorem groupCapacity_of_search {start : Nat} {mode : SearchMode} {offsets after : MatchOffsets}
    {s s' : Logged Unit} {outcome : Outcome}
    (h : p.matcher.logged.exec subject start mode offsets s = (.ok outcome, after, s')) :
    after.groupCapacity = offsets.groupCapacity :=
  (answers_of_exec (Matcher.exec_of_logged h).1).1

theorem substituteCalls_complete (hLists : p.engine.ListsGroups subject) (template : Template)
    (limit : Option Nat) (out : OutputBuffer) (patience : Nat) :
    ∀ call ∈ substituteCalls p.matcher () subject template limit out patience,
      p.engine.Complete subject call := by
  refine forall_substituteCalls (I := fun r => r.offsets.groupCapacity = p.captureCount + 1) ?_ ?_
    (fun r hRoom => Engine.complete_exec hLists hRoom r.start _ _ _) out patience
  · exact fun offsets _ hOffsets => groupCapacity_of_newOffsets hOffsets
  · intro r r' hStep hRoom
    cases hStep with
    | replaced outcome after s count whole out' hSearch =>
      exact (groupCapacity_of_search hSearch).trans hRoom
    | stepped outcome after s out' hSearch => exact (groupCapacity_of_search hSearch).trans hRoom

theorem occurrenceCalls_complete (hLists : p.engine.ListsGroups subject) (occurrence : Nat) :
    ∀ call ∈ occurrenceCalls p.matcher () subject occurrence, p.engine.Complete subject call := by
  refine forall_occurrenceCalls (I := fun r => r.offsets.groupCapacity = p.captureCount + 1) ?_ ?_
    (fun r hRoom => Engine.complete_exec hLists hRoom r.start _ _ _)
  · exact fun offsets hOffsets => groupCapacity_of_newOffsets hOffsets
  · intro r r' hStep hRoom
    cases hStep with
    | passed outcome after s count whole left hSearch =>
      exact (groupCapacity_of_search hSearch).trans hRoom
    | stepped after s hSearch => exact (groupCapacity_of_search hSearch).trans hRoom

/-- No search of a loop has more groups than there is room for, and nothing is warned of. In every
match replaced, a reference stands for the group of that number that the engine listed for this very
match, and likewise each group of a match that is found. -/
theorem groups_kept (hLists : p.engine.ListsGroups subject) :
    (∀ template limit out patience,
      let run := substituteInto p.matcher () subject template limit out patience
      let calls := substituteCalls p.matcher () subject template limit out patience
      (∀ call ∈ calls, call.answer ≠ .ok .tooManySubstrings) ∧
      (∀ report, run.result = .ok report → report.warnings = [] ∧
        run.out.bytes = splice subject template 0 run.accepted subject.size) ∧
      ∀ a ∈ run.accepted, ∃ call ∈ calls, call.reported? = some a ∧
        ∃ groups, p.engine.search subject call.start = .ok (some groups) ∧
          groups.length = p.engine.groupCount ∧ groups.span? 0 = some a.span ∧
          ∀ g, template.tokenBytes subject a.offsets a.count (.backref g) =
            groups.text subject g) ∧
    ∀ occurrence,
      let calls := occurrenceCalls p.matcher () subject occurrence
      (∀ call ∈ calls, call.answer ≠ .ok .tooManySubstrings) ∧
      ∀ o, (findOccurrence p.matcher () subject occurrence).1 = .ok (some o) →
        ∃ call, calls.getLast? = some call ∧
          ∃ groups, p.engine.search subject call.start = .ok (some groups) ∧
            groups.length = p.engine.groupCount ∧ ∀ g, o.group g = groups.span? g := by
  constructor
  · intro template limit out patience run calls
    have hComplete := substituteCalls_complete hLists template limit out patience
    have hCounts := p.matcher_countsWhole subject
    refine ⟨fun call hCall => (hComplete call hCall).fits, ?_, ?_⟩
    · intro report hOk
      refine ⟨?_, bytes_substituteInto_of_ok hCounts hOk⟩
      rw [warnings_of_ok hCounts hOk, List.filterMap_eq_nil_iff]
      intro call hCall
      unfold SearchCall.warning?
      split
      · rename_i hTooMany
        exact absurd hTooMany (hComplete call hCall).fits
      · rfl
    · intro a ha
      obtain ⟨⟨call, hCall, hReported⟩, hWithin⟩ :=
        accepted_backed p.matcher () subject template limit out patience a ha
      obtain ⟨outcome, hAnswer, hCount, hSame, hWhole⟩ :=
        SearchCall.reported?_eq_some_iff.mp hReported
      obtain ⟨groups, hSearch, hLength, hBound, hGroups⟩ :=
        (hComplete call hCall).counted hAnswer hCount
      rw [hSame] at hGroups
      exact ⟨call, hCall, hReported, groups, hSearch, hLength, (hGroups 0).symm.trans hWhole,
        Template.groupBytes_eq_text hBound hGroups hWithin⟩
  · intro occurrence calls
    have hComplete := occurrenceCalls_complete hLists occurrence
    refine ⟨fun call hCall => (hComplete call hCall).fits, ?_⟩
    intro o hFound
    obtain ⟨call, hLast, outcome, hAnswer, hCount, hSame, -⟩ := findOccurrence_found hFound
    obtain ⟨groups, hSearch, hLength, hBound, hGroups⟩ :=
      (hComplete call (List.mem_of_getLast? hLast)).counted hAnswer hCount
    rw [hSame] at hGroups
    exact ⟨call, hLast, groups, hSearch, hLength, Occurrence.group_eq_span? hBound hGroups⟩

/-- The third match leaves out a group that took part in the second. -/
theorem groups_kept_optional :
    let template := Template.parse "[$1|$2|$3|$4]".toUTF8
    ∃ p, CompiledPattern.ofDelimited "/(a)|(b)(c)?/".toUTF8 default = .ok p ∧
      p.engine.ListsGroups "abcb".toUTF8 ∧
      (substituteInto p.matcher () "abcb".toUTF8 template none {} 0).result =
        .ok { replacements := 3 } ∧
      (substituteInto p.matcher () "abcb".toUTF8 template none {} 0).out.bytes =
        "[a|||][|b|c|][|b||]".toUTF8 ∧
      (∀ a ∈ (substituteInto p.matcher () "abcb".toUTF8 template none {} 0).accepted,
        ∃ groups : Groups, groups.length = 4 ∧ groups.span? 0 = some a.span ∧
          ∀ g, template.tokenBytes "abcb".toUTF8 a.offsets a.count (.backref g) =
            groups.text "abcb".toUTF8 g) := by
  intro template
  have hComputed : ((CompiledPattern.ofDelimited "/(a)|(b)(c)?/".toUTF8 default).toOption.map
      fun p => (decide (p.engine.ListsGroups "abcb".toUTF8), p.engine.groupCount,
        (substituteWithin 9 p.matcher () "abcb".toUTF8 template none {}).map fun s =>
          (s.result.toOption, s.out.bytes))) =
      some (true, 4, some (some { replacements := 3 }, "[a|||][|b|c|][|b||]".toUTF8)) := by
    decide +kernel
  obtain ⟨p, hCompiled, hFacts⟩ := Option.map_eq_some_iff.mp hComputed
  obtain ⟨hListed, hFacts⟩ := Prod.mk.inj hFacts
  obtain ⟨hCount, hWithin⟩ := Prod.mk.inj hFacts
  obtain ⟨hResult, hBytes⟩ := Prod.mk.inj (substituteInto_of_within 9 _ hWithin 0)
  have hLists := of_decide_eq_true hListed
  obtain ⟨-, -, hAccepted⟩ := (groups_kept hLists).1 template none {} 0
  refine ⟨p, eq_ok_of_toOption hCompiled, hLists, eq_ok_of_toOption hResult, hBytes, ?_⟩
  intro a ha
  obtain ⟨-, -, -, groups, -, hLength, hWhole, hTexts⟩ := hAccepted a ha
  exact ⟨groups, hLength.trans hCount, hWhole, hTexts⟩

end CompiledPattern

end PerlPattern
