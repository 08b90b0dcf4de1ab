import PerlPattern.Proofs.Rounds

/-! # Runs of a few rounds

A run that ends within a given number of rounds can be computed round by round,
by recursion on that number.
-/

namespace PerlPattern

variable {σ : Type}

namespace Pass

variable {m : Matcher σ} {subject : ByteArray} {template : Template}

/-- Rounds to the end, if it comes within a number of them that all bring the pass nearer to it. -/
def runWithin (m : Matcher σ) (subject : ByteArray) (template : Template) :
    Nat → Pass σ → Option (Pass σ × Except PassFault SubstitutionReport)
  | 0, _ => none
  | rounds + 1, p =>
    match p.round m subject template with
    | .stop q result => some (q, result)
    | .next q =>
      if q.rank subject.size < p.rank subject.size then runWithin m subject template rounds q
      else none

theorem run_of_runWithin {rounds : Nat} {p : Pass σ}
    {e : Pass σ × Except PassFault SubstitutionReport}
    (h : runWithin m subject template rounds p = some e) (patience : Nat) :
    p.run m subject template patience = e := by
  induction rounds generalizing p with
  | zero => cases h
  | succ rounds ih =>
    unfold runWithin at h
    split at h
    · rename_i q result hRound
      cases h
      exact run_of_stop hRound patience
    · rename_i q hRound
      split at h
      · rename_i hNearer
        exact (run_of_nearer hRound hNearer patience).trans (ih h)
      · cases h

end Pass

/-- A substitution whose run ends within a number of rounds that all lead on. -/
def substituteWithin (rounds : Nat) (m : Matcher σ) (state : σ) (subject : ByteArray)
    (template : Template) (limit : Option Nat) (out : OutputBuffer) : Option (Substitution σ) :=
  match out.clear.growExact (2 * subject.size) maxAllocation,
    (m.captureCount state).bind MatchOffsets.ofCaptureCount with
  | .ok grown, .ok offsets =>
    (Pass.runWithin m subject template rounds (.first state offsets grown limit)).map .ofRun
  | _, _ => none

/-- What is computed of a short run holds of the whole substitution. -/
theorem substituteInto_of_within {α : Type} (rounds : Nat) {m : Matcher σ} {state : σ}
    {subject : ByteArray} {template : Template} {limit : Option Nat} {out : OutputBuffer}
    (f : Substitution σ → α) {a : α}
    (h : (substituteWithin rounds m state subject template limit out).map f = some a)
    (patience : Nat) : f (substituteInto m state subject template limit out patience) = a := by
  obtain ⟨s, hWithin, rfl⟩ := Option.map_eq_some_iff.mp h
  unfold substituteWithin at hWithin
  split at hWithin
  · rename_i grown offsets hGrow hOffsets
    obtain ⟨e, hRun, rfl⟩ := Option.map_eq_some_iff.mp hWithin
    rw [substituteInto_of_first hGrow hOffsets, Pass.run_of_runWithin hRun]
  · cases hWithin

theorem eq_ok_of_toOption {ε α : Type} {x : Except ε α} {a : α} (h : x.toOption = some a) :
    x = .ok a := by
  cases x with
  | error e => cases h
  | ok a' =>
    cases h
    rfl

theorem result_of_within (rounds : Nat) {m : Matcher σ} {state : σ} {subject : ByteArray}
    {template : Template} {limit : Option Nat} {out : OutputBuffer} {report : SubstitutionReport}
    (h : (substituteWithin rounds m state subject template limit out).map
      (fun s => s.result.toOption) = some (some report)) (patience : Nat) :
    (substituteInto m state subject template limit out patience).result = .ok report :=
  eq_ok_of_toOption (substituteInto_of_within rounds (fun s => s.result.toOption) h patience)

end PerlPattern
