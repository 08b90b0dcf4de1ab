import PerlPattern.Proofs.Rounds

/-! # The rounds of a run

A run is made of its rounds and of nothing else. The passes that the rounds are
made from are listed by the recursion of the run, so that what holds of every
round can be said of a run. Each round leads to the next pass of the list, and
the last one gives the end of the run.
-/

namespace PerlPattern

namespace Pass

variable {σ : Type} {m : Matcher σ} {subject : ByteArray} {template : Template}

/-- The passes that the rounds of a run are made from, in order. -/
def passes (p : Pass σ) (m : Matcher σ) (subject : ByteArray) (template : Template)
    (patience : Nat) : List (Pass σ) :=
  match p.round m subject template with
  | .stop _ _ => [p]
  | .next q =>
    if q.rank subject.size < p.rank subject.size then p :: q.passes m subject template patience
    else
      match patience with
      | 0 => [p]
      | patience + 1 => p :: q.passes m subject template patience
termination_by (patience, p.rank subject.size)

/-- The rounds made from these passes, one after the other, are a run with this end: the last one
stops it, or has brought it no nearer to its end once too often. -/
inductive Runs (m : Matcher σ) (subject : ByteArray) (template : Template) :
    Pass σ → List (Pass σ) → Pass σ × Except PassFault SubstitutionReport → Prop
  | stop (p q : Pass σ) (result : Except PassFault SubstitutionReport)
      (hRound : p.round m subject template = .stop q result) :
      Runs m subject template p [p] (q, result)
  | stall (p q : Pass σ) (hRound : p.round m subject template = .next q)
      (hFar : ¬q.rank subject.size < p.rank subject.size) :
      Runs m subject template p [p] (q, .error .stalled)
  | next (p q : Pass σ) (rest : List (Pass σ)) (last : Pass σ × Except PassFault SubstitutionReport)
      (hRound : p.round m subject template = .next q) (hRest : Runs m subject template q rest last) :
      Runs m subject template p (p :: rest) last

theorem run_runs (p : Pass σ) (m : Matcher σ) (subject : ByteArray) (template : Template)
    (patience : Nat) : Runs m subject template p (p.passes m subject template patience)
      (p.run m subject template patience) := by
  fun_induction passes p m subject template patience with
  | case1 p patience q result hRound =>
    rw [run_of_stop hRound]
    exact .stop p q result hRound
  | case2 p patience q hRound hNearer ih =>
    rw [run_of_nearer hRound hNearer]
    exact .next p q _ _ hRound ih
  | case3 p q hRound hFar =>
    rw [run_of_far_zero hRound hFar]
    exact .stall p q hRound hFar
  | case4 p q hRound hFar patience ih =>
    rw [run_of_far_succ hRound hFar]
    exact .next p q _ _ hRound ih

variable {p : Pass σ} {rounds : List (Pass σ)} {last : Pass σ × Except PassFault SubstitutionReport}

/-- The round that stops a run is made from one of its passes, and no earlier one stops. -/
theorem Runs.stops_iff {fault : PassFault} (h : Runs m subject template p rounds last)
    (hFault : fault ≠ .stalled) : last.2 = .error fault ↔
      ∃ q ∈ rounds, ∃ r, q.round m subject template = .stop r (.error fault) := by
  induction h with
  | stop p q result hRound =>
    simp only [List.mem_singleton, exists_eq_left, hRound]
    constructor
    · rintro rfl
      exact ⟨q, rfl⟩
    · rintro ⟨r, hStop⟩
      exact (Round.stop.inj hStop).2
  | stall p q hRound =>
    simp only [List.mem_singleton, exists_eq_left, hRound]
    constructor
    · intro hStalled
      exact absurd (Except.error.inj hStalled).symm hFault
    · rintro ⟨r, hStop⟩
      cases hStop
  | next p q rest last hRound _ ih =>
    rw [ih]
    simp only [List.mem_cons, exists_eq_or_imp]
    refine (or_iff_right ?_).symm
    rintro ⟨r, hStop⟩
    cases hRound.symm.trans hStop

end Pass

variable {σ : Type}

def substitutePasses (m : Matcher σ) (state : σ) (subject : ByteArray) (template : Template)
    (limit : Option Nat) (out : OutputBuffer) (patience : Nat) : List (Pass σ) :=
  match out.clear.growExact (2 * subject.size) maxAllocation,
    (m.captureCount state).bind MatchOffsets.ofCaptureCount with
  | .ok grown, .ok offsets =>
    (Pass.first state offsets grown limit).passes m subject template patience
  | _, _ => []

/-- What comes of a substitution: it is refused its room or its offsets, or it is a run. -/
inductive Substitution.Made (m : Matcher σ) (state : σ) (subject : ByteArray) (template : Template)
    (limit : Option Nat) (out : OutputBuffer) : List (Pass σ) → Substitution σ → Prop
  | start (e : PatternError)
      (hGrow : out.clear.growExact (2 * subject.size) maxAllocation = .error e) :
      Substitution.Made m state subject template limit out []
        { result := .error (.error e), out := out.clear, state }
  | offsets (grown : OutputBuffer) (e : PatternError)
      (hGrow : out.clear.growExact (2 * subject.size) maxAllocation = .ok grown)
      (hOffsets : (m.captureCount state).bind MatchOffsets.ofCaptureCount = .error e) :
      Substitution.Made m state subject template limit out []
        { result := .error (.error e), out := grown, state }
  | run (grown : OutputBuffer) (offsets : MatchOffsets) (passes : List (Pass σ))
      (last : Pass σ × Except PassFault SubstitutionReport)
      (hGrow : out.clear.growExact (2 * subject.size) maxAllocation = .ok grown)
      (hOffsets : (m.captureCount state).bind MatchOffsets.ofCaptureCount = .ok offsets)
      (hRuns : Pass.Runs m subject template (.first state offsets grown limit) passes last) :
      Substitution.Made m state subject template limit out passes (.ofRun last)

theorem substituteInto_made (m : Matcher σ) (state : σ) (subject : ByteArray) (template : Template)
    (limit : Option Nat) (out : OutputBuffer) (patience : Nat) :
    Substitution.Made m state subject template limit out
      (substitutePasses m state subject template limit out patience)
      (substituteInto m state subject template limit out patience) := by
  unfold substitutePasses
  cases hGrow : out.clear.growExact (2 * subject.size) maxAllocation with
  | error e =>
    have hEnd : substituteInto m state subject template limit out patience =
        { result := .error (.error e), out := out.clear, state } := by
      unfold substituteInto
      dsimp only
      rw [hGrow]
    rw [hEnd]
    exact .start e hGrow
  | ok grown =>
    cases hOffsets : (m.captureCount state).bind MatchOffsets.ofCaptureCount with
    | error e =>
      have hEnd : substituteInto m state subject template limit out patience =
          { result := .error (.error e), out := grown, state } := by
        unfold substituteInto
        dsimp only
        rw [hGrow, hOffsets]
      rw [hEnd]
      exact .offsets grown e hGrow hOffsets
    | ok offsets =>
      rw [substituteInto_of_first hGrow hOffsets]
      exact .run grown offsets _ _ hGrow hOffsets (Pass.run_runs _ m subject template patience)

end PerlPattern
