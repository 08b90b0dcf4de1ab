import PerlPattern.Proofs.Rounds

/-! # Reusing a buffer

What a buffer holds or has reserved before a substitution has no effect on it,
unless memory runs out. Two passes that differ in the capacity of their buffers
alone stay that way from round to round.
-/

namespace PerlPattern

theorem OutputBuffer.growFor_cases (b : OutputBuffer) (required bound : Nat) :
    b.growFor required bound = .error .outOfMemory ∨
      ∃ out, b.growFor required bound = .ok out ∧ out.bytes = b.bytes := by
  cases hGrow : b.growFor required bound with
  | error e => exact .inl (congrArg Except.error (error_of_growFor hGrow))
  | ok out => exact .inr ⟨out, rfl, bytes_of_growFor hGrow⟩

theorem OutputBuffer.growExact_cases (b : OutputBuffer) (required bound : Nat) :
    b.growExact required bound = .error .outOfMemory ∨
      ∃ out, b.growExact required bound = .ok out ∧ out.bytes = b.bytes := by
  cases hGrow : b.growExact required bound with
  | error e => exact .inl (congrArg Except.error (error_of_growExact hGrow))
  | ok out => exact .inr ⟨out, rfl, bytes_of_growExact hGrow⟩

theorem OutputBuffer.size_of_bytes_eq {b b' : OutputBuffer} (h : b.bytes = b'.bytes) :
    b.size = b'.size := congrArg ByteArray.size h

variable {σ : Type}

/-- The passes differ in the capacity of their buffers alone. -/
def Pass.Alike (p q : Pass σ) : Prop := ∃ out, out.bytes = p.out.bytes ∧ q = { p with out }

/-- The rounds differ in the capacity of their buffers alone, unless memory ran out in one. -/
inductive Round.Alike : Round σ → Round σ → Prop
  | next (p q : Pass σ) (h : p.Alike q) : Alike (.next p) (.next q)
  | stop (p q : Pass σ) (result : Except PassFault SubstitutionReport) (h : p.Alike q) :
    Alike (.stop p result) (.stop q result)
  | left (p : Pass σ) (r : Round σ) : Alike (.stop p (.error (.error .outOfMemory))) r
  | right (r : Round σ) (q : Pass σ) : Alike r (.stop q (.error (.error .outOfMemory)))

theorem Round.Alike.of_next {p : Pass σ} {r : Round σ} (h : (Round.next p).Alike r) :
    (∃ q, r = .next q ∧ p.Alike q) ∨ ∃ q, r = .stop q (.error (.error .outOfMemory)) := by
  cases h with
  | next _ q h => exact .inl ⟨q, rfl, h⟩
  | right _ q => exact .inr ⟨q, rfl⟩

namespace Pass

variable {p q : Pass σ}

theorem Alike.rank_eq (h : p.Alike q) (len : Nat) : q.rank len = p.rank len := by
  obtain ⟨out, _, rfl⟩ := h
  rfl

theorem Alike.replace (h : p.Alike q) (subject : ByteArray) (template : Template) (count : Nat) :
    (p.replace subject template count).Alike (q.replace subject template count) := by
  obtain ⟨out, hBytes, rfl⟩ := h
  unfold Pass.replace
  dsimp only
  rw [OutputBuffer.size_of_bytes_eq hBytes]
  cases checkedMatch p.offsets count p.start subject.size p.notEmpty with
  | error e => exact .stop _ _ _ ⟨out, hBytes, rfl⟩
  | ok whole =>
    dsimp only
    generalize p.out.size + (whole.start - p.start) +
      template.expandedSize subject p.offsets count = required
    obtain hFull | ⟨grown, hGrow, hSame⟩ := p.out.growFor_cases required maxAllocation
    · rw [hFull]
      exact .left _ _
    obtain hFull | ⟨grown', hGrow', hSame'⟩ := out.growFor_cases required maxAllocation
    · rw [hFull]
      exact .right _ _
    rw [hGrow, hGrow']
    dsimp only
    by_cases hInside : p.start ≤ whole.start ∧ whole.start ≤ subject.size
    · rw [if_pos hInside, if_pos hInside]
      refine .next _ _ ⟨_, ?_, rfl⟩
      simp only [Template.bytes_expandInto, OutputBuffer.bytes_extend, hSame, hSame', hBytes]
    · rw [if_neg hInside, if_neg hInside]
      exact .stop _ _ _ ⟨out, hBytes, rfl⟩

theorem Alike.copy (h : p.Alike q) (m : Matcher σ) (subject : ByteArray) :
    (p.copy m subject).Alike (q.copy m subject) := by
  obtain ⟨out, hBytes, rfl⟩ := h
  unfold Pass.copy
  dsimp only
  rw [OutputBuffer.size_of_bytes_eq hBytes]
  by_cases hRetry : p.notEmpty = true ∧ p.start < subject.size
  · rw [if_pos hRetry, if_pos hRetry]
    generalize max 1 (min (m.advance subject p.start p.state) (subject.size - p.start)) = width
    obtain hFull | ⟨grown, hGrow, hSame⟩ :=
      p.out.growFor_cases (p.out.size + width) maxAllocation
    · rw [hFull]
      exact .left _ _
    obtain hFull | ⟨grown', hGrow', hSame'⟩ :=
      out.growFor_cases (p.out.size + width) maxAllocation
    · rw [hFull]
      exact .right _ _
    rw [hGrow, hGrow']
    refine .next _ _ ⟨_, ?_, rfl⟩
    simp only [OutputBuffer.bytes_extend, hSame, hSame', hBytes]
  · rw [if_neg hRetry, if_neg hRetry]
    by_cases hInside : p.start ≤ subject.size
    · rw [if_pos hInside, if_pos hInside]
      obtain hFull | ⟨grown, hGrow, hSame⟩ :=
        p.out.growExact_cases (p.out.size + (subject.size - p.start)) maxAllocation
      · rw [hFull]
        exact .left _ _
      obtain hFull | ⟨grown', hGrow', hSame'⟩ :=
        out.growExact_cases (p.out.size + (subject.size - p.start)) maxAllocation
      · rw [hFull]
        exact .right _ _
      rw [hGrow, hGrow']
      refine .stop _ _ _ ⟨_, ?_, rfl⟩
      simp only [OutputBuffer.bytes_extend, hSame, hSame', hBytes]
    · rw [if_neg hInside, if_neg hInside]
      exact .stop _ _ _ ⟨out, hBytes, rfl⟩

theorem Alike.round (h : p.Alike q) (m : Matcher σ) (subject : ByteArray)
    (template : Template) : (p.round m subject template).Alike (q.round m subject template) := by
  obtain ⟨out, hBytes, rfl⟩ := h
  unfold Pass.round
  dsimp only
  rcases m.exec subject p.start { notEmptyAtStart := p.notEmpty } p.offsets p.state with
    ⟨e | outcome, offsets, state⟩
  · exact .stop _ _ _ ⟨out, hBytes, rfl⟩
  · have hAlike : { p with offsets, state, report := warned p.report outcome }.Alike
        { p with out, offsets, state, report := warned p.report outcome } := ⟨out, hBytes, rfl⟩
    dsimp only
    cases outcome.matchCount? offsets with
    | none => exact hAlike.copy m subject
    | some count =>
      dsimp only
      split
      · exact hAlike.copy m subject
      · exact hAlike.replace subject template count

theorem Alike.run (h : p.Alike q) (m : Matcher σ) (subject : ByteArray) (template : Template)
    (patience : Nat) :
    (Round.stop (p.run m subject template patience).1 (p.run m subject template patience).2).Alike
      (.stop (q.run m subject template patience).1 (q.run m subject template patience).2) := by
  -- On the rounds of `p`: those of `q` use up the same patience, as the ranks agree.
  fun_induction Pass.run p m subject template patience generalizing q with
  | case1 p patience p' result hRound =>
    have hAlike := h.round m subject template
    rw [hRound] at hAlike
    cases hNext : q.round m subject template with
    | next q' =>
      rw [hNext] at hAlike
      cases hAlike
      exact .left _ _
    | stop q' result' =>
      rw [hNext] at hAlike
      rwa [run_of_stop hNext]
  | case2 p patience p' hRound hNearer ih =>
    have hAlike := h.round m subject template
    rw [hRound] at hAlike
    obtain ⟨q', hNext, h'⟩ | ⟨q', hStop⟩ := hAlike.of_next
    · rw [← h.rank_eq, ← h'.rank_eq] at hNearer
      rw [run_of_nearer hNext hNearer]
      exact ih h'
    · rw [run_of_stop hStop]
      exact .right _ _
  | case3 p p' hRound hFar =>
    have hAlike := h.round m subject template
    rw [hRound] at hAlike
    obtain ⟨q', hNext, h'⟩ | ⟨q', hStop⟩ := hAlike.of_next
    · rw [← h.rank_eq, ← h'.rank_eq] at hFar
      rw [run_of_far_zero hNext hFar]
      exact .stop _ _ _ h'
    · rw [run_of_stop hStop]
      exact .right _ _
  | case4 p p' hRound hFar patience ih =>
    have hAlike := h.round m subject template
    rw [hRound] at hAlike
    obtain ⟨q', hNext, h'⟩ | ⟨q', hStop⟩ := hAlike.of_next
    · rw [← h.rank_eq, ← h'.rank_eq] at hFar
      rw [run_of_far_succ hNext hFar]
      exact ih h'
    · rw [run_of_stop hStop]
      exact .right _ _

end Pass

structure Substitution.Alike (s s' : Substitution σ) : Prop where
  result : s.result = s'.result
  bytes : s.out.bytes = s'.out.bytes
  state : s.state = s'.state
  accepted : s.accepted = s'.accepted

theorem Round.Alike.ofRun {p q : Pass σ} {result result' : Except PassFault SubstitutionReport}
    (h : (Round.stop p result).Alike (.stop q result'))
    (hMemory : result ≠ .error (.error .outOfMemory))
    (hMemory' : result' ≠ .error (.error .outOfMemory)) :
    (Substitution.ofRun (p, result)).Alike (.ofRun (q, result')) := by
  cases h with
  | left => exact absurd rfl hMemory
  | right => exact absurd rfl hMemory'
  | stop _ _ _ h =>
    obtain ⟨out, hBytes, rfl⟩ := h
    refine ⟨rfl, ?_, rfl, rfl⟩
    cases result with
    | ok report => exact hBytes.symm
    | error fault => rfl

/-- Unless memory runs out, a substitution is the same into any two buffers. -/
theorem substituteInto_alike (m : Matcher σ) (state : σ) (subject : ByteArray)
    (template : Template) (limit : Option Nat) (out out' : OutputBuffer) (patience : Nat)
    (hMemory : (substituteInto m state subject template limit out patience).result ≠
      .error (.error .outOfMemory))
    (hMemory' : (substituteInto m state subject template limit out' patience).result ≠
      .error (.error .outOfMemory)) :
    (substituteInto m state subject template limit out patience).Alike
      (substituteInto m state subject template limit out' patience) := by
  obtain ⟨e, b, hWhy, hEmpty, hEnd⟩ | ⟨offsets, grown, hOffsets, hGrow, hEnd⟩ :=
    substituteInto_cases m state subject template limit out patience
  · rw [hEnd] at hMemory ⊢
    have hError : m.captureCount state = .error e := hWhy.resolve_left fun h => hMemory (by rw [h])
    obtain ⟨e', b', hWhy', hEmpty', hEnd'⟩ | ⟨offsets', grown', hOffsets', hGrow', hEnd'⟩ :=
      substituteInto_cases m state subject template limit out' patience
    · rw [hEnd'] at hMemory' ⊢
      have hError' : m.captureCount state = .error e' :=
        hWhy'.resolve_left fun h => hMemory' (by rw [h])
      rw [hError] at hError'
      cases hError'
      exact ⟨rfl, hEmpty.trans hEmpty'.symm, rfl, rfl⟩
    · rw [hError] at hOffsets'
      cases hOffsets'
  · rw [hEnd] at hMemory ⊢
    obtain ⟨e', b', hWhy', hEmpty', hEnd'⟩ | ⟨offsets', grown', hOffsets', hGrow', hEnd'⟩ :=
      substituteInto_cases m state subject template limit out' patience
    · rw [hEnd'] at hMemory'
      have hError' : m.captureCount state = .error e' :=
        hWhy'.resolve_left fun h => hMemory' (by rw [h])
      rw [hError'] at hOffsets
      cases hOffsets
    · rw [hEnd'] at hMemory' ⊢
      rw [hOffsets] at hOffsets'
      cases hOffsets'
      have hFirst : (Pass.first state offsets grown limit).Alike
          (.first state offsets grown' limit) := by
        refine ⟨grown', ?_, rfl⟩
        exact (OutputBuffer.bytes_of_growExact hGrow').trans
          (OutputBuffer.bytes_of_growExact hGrow).symm
      exact (hFirst.run m subject template patience).ofRun hMemory hMemory'

/-- A substitution that fails leaves nothing in its buffer. -/
theorem bytes_substituteInto_of_error {m : Matcher σ} {state : σ} {subject : ByteArray}
    {template : Template} {limit : Option Nat} {out : OutputBuffer} {patience : Nat}
    {fault : PassFault}
    (h : (substituteInto m state subject template limit out patience).result = .error fault) :
    (substituteInto m state subject template limit out patience).out.bytes = .empty := by
  obtain ⟨e, b, _, hEmpty, hEnd⟩ | ⟨offsets, grown, _, _, hEnd⟩ :=
    substituteInto_cases m state subject template limit out patience
  · rw [hEnd]
    exact hEmpty
  · rw [hEnd] at h ⊢
    have hResult : ((Pass.first state offsets grown limit).run m subject template patience).2 =
        .error fault := h
    simp only [Substitution.ofRun, hResult]
    rfl

end PerlPattern
