import PerlPattern.Proofs.Reservation
import PerlPattern.Proofs.ShortRuns

/-! # Growth of the output

A round asks for as much room as its output is going to take. A buffer that has
to grow for that is shorter than the output, and grows to more than three times
what it had. So the room reserved is linear in the output, and a pass grows its
buffer a number of times that is logarithmic in it.
-/

namespace PerlPattern

structure Growth where
  before : Nat
  after : Nat
  deriving Repr, DecidableEq

namespace Growth

/-- The growths lead from one capacity to another, each going on from where the last one ended. -/
inductive Lead : Nat → List Growth → Nat → Prop
  | refl (capacity : Nat) : Lead capacity [] capacity
  | head (g : Growth) (rest : List Growth) (reached : Nat) (hRest : Lead g.after rest reached) :
    Lead g.before (g :: rest) reached

/-- The buffer had to grow for no more than `size` bytes, by the rule of `OutputBuffer.growFor`. -/
structure Bounded (size : Nat) (g : Growth) : Prop where
  tripled : 3 * g.before + 1 ≤ g.after
  linear : g.after ≤ 3 * size + 1

variable {growths growths' : List Growth} {first middle reached size size' : Nat}

theorem Lead.append (h : Lead first growths middle) (h' : Lead middle growths' reached) :
    Lead first (growths ++ growths') reached := by
  induction h with
  | refl => exact h'
  | head g rest _ _ ih => exact .head g _ reached (ih h')

theorem Lead.geometric (h : Lead first growths reached)
    (hTripled : ∀ g ∈ growths, 3 * g.before + 1 ≤ g.after) :
    3 ^ growths.length * first ≤ reached := by
  induction h with
  | refl => simp
  | head g rest reached _ ih =>
    obtain ⟨hHere, hRest⟩ := List.forall_mem_cons.mp hTripled
    calc 3 ^ (g :: rest).length * g.before
        = 3 ^ rest.length * (3 * g.before) := by
          rw [List.length_cons, Nat.pow_succ, Nat.mul_assoc]
      _ ≤ 3 ^ rest.length * g.after := Nat.mul_le_mul_left _ (by omega)
      _ ≤ reached := ih hRest

/-- What is reached is where the growths began, or where one of them ended. -/
theorem Lead.eq_or_mem (h : Lead first growths reached) :
    growths = [] ∧ reached = first ∨ ∃ g ∈ growths, reached = g.after := by
  induction h with
  | refl => exact .inl ⟨rfl, rfl⟩
  | head g rest reached _ ih =>
    obtain ⟨-, hSame⟩ | ⟨last, hLast, hSame⟩ := ih
    · exact .inr ⟨g, List.mem_cons_self, hSame⟩
    · exact .inr ⟨last, List.mem_cons_of_mem g hLast, hSame⟩

theorem Bounded.mono {g : Growth} (h : g.Bounded size) (hSize : size ≤ size') :
    g.Bounded size' := by
  obtain ⟨hTripled, hLinear⟩ := h
  exact ⟨hTripled, by omega⟩

end Growth

namespace Pass

open Growth (Lead Bounded)

variable {σ : Type} {m : Matcher σ} {subject : ByteArray} {template : Template}

def growth (p q : Pass σ) : List Growth :=
  if p.out.capacity < q.out.capacity then [⟨p.out.capacity, q.out.capacity⟩] else []

/-- The growths between the rounds of a run. -/
def growths (p : Pass σ) (m : Matcher σ) (subject : ByteArray) (template : Template)
    (patience : Nat) : List Growth :=
  match p.round m subject template with
  | .stop _ _ => []
  | .next q =>
    if q.rank subject.size < p.rank subject.size then
      p.growth q ++ q.growths m subject template patience
    else
      match patience with
      | 0 => p.growth q
      | patience + 1 => p.growth q ++ q.growths m subject template patience
termination_by (patience, p.rank subject.size)

variable (hLiterals : ∀ span, .literal span ∈ template.tokens → span.Within template.raw.size)

include hLiterals in
/-- A round that leads on asks for just the room that its output is going to take, and reserves
nothing else. -/
theorem Step.asks_for_size {p q : Pass σ} (h : Step m subject template p q) :
    ∃ grown, p.out.growFor q.out.size maxAllocation = .ok grown ∧
      grown.capacity = q.out.capacity ∧ p.out.size ≤ q.out.size := by
  cases h with
  | replaced outcome offsets state count whole grown hSearch hCount hLeft hChecked hGrow hInside =>
    obtain ⟨hSame, -⟩ := OutputBuffer.room_of_growFor hGrow
    have hSize : (template.expandInto (grown.extend (subject.extract p.start whole.start)) subject
        offsets count).size = p.required subject template offsets count whole := by
      rw [Template.size_expandInto hLiterals, OutputBuffer.size_extend, ByteArray.size_extract,
        hSame, Nat.min_eq_left hInside]
      rfl
    refine ⟨grown, hSize ▸ hGrow, ?_, ?_⟩
    · exact (OutputBuffer.capacity_of_fills (fills_replace hGrow)).symm
    · rw [hSize, required]
      omega
  | stepped outcome offsets state grown hSearch hNone hNotEmpty hInside hGrow =>
    obtain ⟨hSame, hRoom⟩ := OutputBuffer.room_of_growFor hGrow
    have hWidth := stepWidth_le m state hInside
    let unit := subject.extract p.start (p.start + stepWidth m subject p.start state)
    have hFills : grown.Fills [unit] (grown.extend unit) :=
      OutputBuffer.fills_extract hSame hRoom (by omega)
    have hSize : (grown.extend unit).size = p.out.size + stepWidth m subject p.start state := by
      rw [OutputBuffer.size_extend, ByteArray.size_extract, hSame]
      omega
    refine ⟨grown, hSize ▸ hGrow, (OutputBuffer.capacity_of_fills hFills).symm, ?_⟩
    rw [hSize]
    exact Nat.le_add_right _ _

include hLiterals in
theorem Step.grows {p q : Pass σ} (h : Step m subject template p q) :
    p.out.size ≤ q.out.size ∧ Lead p.out.capacity (p.growth q) q.out.capacity ∧
      ∀ g ∈ p.growth q, g.Bounded q.out.size := by
  obtain ⟨grown, hGrow, hReached, hSize⟩ := h.asks_for_size hLiterals
  have hCapacity := OutputBuffer.capacity_of_growFor hGrow
  rw [hReached] at hCapacity
  refine ⟨hSize, ?_⟩
  unfold growth
  by_cases hFull : p.out.capacity ≤ q.out.size
  · rw [if_pos hFull] at hCapacity
    rw [if_pos (by omega)]
    refine ⟨.head ⟨_, _⟩ [] _ (.refl _), ?_⟩
    rintro g hg
    obtain rfl := List.mem_singleton.mp hg
    constructor <;> dsimp only <;> omega
  · rw [if_neg hFull] at hCapacity
    rw [hCapacity, if_neg (Nat.lt_irrefl _)]
    exact ⟨.refl _, nofun⟩

theorem Ends.grows {p q : Pass σ} {report : SubstitutionReport} (h : Ends m subject p q report) :
    p.out.size ≤ q.out.size ∧ q.out.capacity = max p.out.capacity (q.out.size + 1) := by
  cases h with
  | copied outcome offsets state grown hSearch hNone hLast hInside hGrow =>
    obtain ⟨hSame, hRoom⟩ := OutputBuffer.room_of_growExact hGrow
    let rest := subject.extract p.start subject.size
    have hSize : (grown.extend rest).size = p.out.size + (subject.size - p.start) := by
      rw [OutputBuffer.size_extend, ByteArray.size_extract, hSame, Nat.min_self]
    have hFills : grown.Fills [rest] (grown.extend rest) :=
      OutputBuffer.fills_extract hSame hRoom (Nat.le_refl _)
    dsimp only
    rw [hSize, OutputBuffer.capacity_of_fills hFills, OutputBuffer.capacity_of_growExact hGrow]
    exact ⟨Nat.le_add_right _ _, rfl⟩

/-- The growths of a pass lead to what is reserved at its last round, which makes room for the rest
if there is none yet. -/
structure Grows (p last : Pass σ) (growths : List Growth) : Prop where
  size : p.out.size ≤ last.out.size
  bounded : ∀ g ∈ growths, g.Bounded last.out.size
  leads : ∃ reached, Lead p.out.capacity growths reached ∧
    last.out.capacity = max reached (last.out.size + 1)

include hLiterals in
theorem Grows.head {p q last : Pass σ} {growths : List Growth}
    (hStep : Step m subject template p q) (h : q.Grows last growths) :
    p.Grows last (p.growth q ++ growths) := by
  obtain ⟨hSize, hLead, hBounded⟩ := hStep.grows hLiterals
  obtain ⟨reached, hRest, hLast⟩ := h.leads
  refine ⟨Nat.le_trans hSize h.size, ?_, reached, hLead.append hRest, hLast⟩
  intro g hg
  rcases List.mem_append.mp hg with hHere | hLater
  · exact (hBounded g hHere).mono h.size
  · exact h.bounded g hLater

include hLiterals in
theorem run_grows {p last : Pass σ} {patience : Nat} {report : SubstitutionReport}
    (hRun : p.run m subject template patience = (last, .ok report)) :
    p.Grows last (p.growths m subject template patience) := by
  -- The growths are noted by the recursion of the run itself.
  fun_induction growths p m subject template patience with
  | case1 p patience q result hRound =>
    rw [run_of_stop hRound] at hRun
    cases hRun
    obtain ⟨hSize, hCapacity⟩ := (ends_of_round hRound).grows
    exact ⟨hSize, nofun, _, .refl _, hCapacity⟩
  | case2 p patience q hRound hNearer ih =>
    rw [run_of_nearer hRound hNearer] at hRun
    exact (ih hRun).head hLiterals (step_of_round hRound)
  | case3 p q hRound hFar =>
    rw [run_of_far_zero hRound hFar] at hRun
    cases hRun
  | case4 p q hRound hFar patience ih =>
    rw [run_of_far_succ hRound hFar] at hRun
    exact (ih hRun).head hLiterals (step_of_round hRound)

end Pass

variable {σ : Type}

/-- The growths of the output in a substitution, once there is room for twice the subject. -/
def substituteGrowths (m : Matcher σ) (state : σ) (subject : ByteArray) (template : Template)
    (limit : Option Nat) (out : OutputBuffer) (patience : Nat) : List Growth :=
  match out.clear.growExact (2 * subject.size) maxAllocation,
    (m.captureCount state).bind MatchOffsets.ofCaptureCount with
  | .ok grown, .ok offsets =>
    (Pass.first state offsets grown limit).growths m subject template patience
  | _, _ => []

theorem substituteInto_grows {m : Matcher σ} {state : σ} {subject : ByteArray}
    {template : Template} {limit : Option Nat} {out : OutputBuffer} {patience : Nat}
    {report : SubstitutionReport}
    (hLiterals : ∀ span, .literal span ∈ template.tokens → span.Within template.raw.size)
    (hOk : (substituteInto m state subject template limit out patience).result = .ok report) :
    ∃ first last : Pass σ, first.out.capacity = max out.capacity (2 * subject.size + 1) ∧
      (substituteInto m state subject template limit out patience).out = last.out ∧
      first.Grows last (substituteGrowths m state subject template limit out patience) := by
  obtain ⟨e, out', -, -, hEnd⟩ | ⟨offsets, grown, hOffsets, hGrow, hEnd⟩ :=
    substituteInto_cases m state subject template limit out patience
  · rw [hEnd] at hOk
    cases hOk
  · rw [hEnd] at hOk
    rw [hEnd, substituteGrowths, hGrow, hOffsets]
    let first := Pass.first state offsets grown limit
    cases hRun : first.run m subject template patience with
    | mk last result =>
      have hResult : result = .ok report := (congrArg Prod.snd hRun).symm.trans hOk
      subst hResult
      exact ⟨first, last, (OutputBuffer.capacity_of_growExact hGrow).trans rfl, rfl,
        Pass.run_grows hLiterals hRun⟩

/-- What a substitution reserves is linear in its output, and it grows its buffer to more than three
times what it had whenever it grows it, by a request for just the room that the output is going to
take. -/
theorem substituteInto_growth (m : Matcher σ) (state : σ) (subject raw : ByteArray)
    (limit : Option Nat) (out : OutputBuffer) (patience : Nat) {report : SubstitutionReport}
    (hOk : (substituteInto m state subject (Template.parse raw) limit out patience).result =
      .ok report) :
    let template := Template.parse raw
    let s := substituteInto m state subject template limit out patience
    let growths := substituteGrowths m state subject template limit out patience
    s.out.size + 1 ≤ s.out.capacity ∧
      s.out.capacity ≤ max out.capacity (max (2 * subject.size + 1) (3 * s.out.size + 1)) ∧
      (∀ p q : Pass σ, p.round m subject template = .next q → ∃ grown,
        p.out.growFor q.out.size maxAllocation = .ok grown ∧
          grown.capacity = q.out.capacity) ∧
      (∃ reached, Growth.Lead (max out.capacity (2 * subject.size + 1)) growths reached ∧
        s.out.capacity = max reached (s.out.size + 1)) ∧
      (∀ g ∈ growths, 3 * g.before + 1 ≤ g.after) ∧
      (growths ≠ [] → 3 ^ growths.length * (2 * subject.size + 1) ≤ 3 * s.out.size + 1) := by
  intro template s growths
  have hLiterals := Template.literal_within raw
  obtain ⟨first, last, hFirst, hOut, hGrows⟩ := substituteInto_grows hLiterals hOk
  obtain ⟨reached, hLead, hCapacity⟩ := hGrows.leads
  rw [hFirst] at hLead
  have hTripled : ∀ g ∈ growths, 3 * g.before + 1 ≤ g.after :=
    fun g hg => (hGrows.bounded g hg).tripled
  have hGeometric := hLead.geometric hTripled
  have hSize : s.out.size = last.out.size := congrArg OutputBuffer.size hOut
  have hReached : s.out.capacity = max reached (s.out.size + 1) := by
    rw [hSize, ← hCapacity]
    exact congrArg OutputBuffer.capacity hOut
  have hLinear : growths = [] ∧ reached = max out.capacity (2 * subject.size + 1) ∨
      reached ≤ 3 * s.out.size + 1 := by
    obtain hNone | ⟨g, hg, hSame⟩ := hLead.eq_or_mem
    · exact .inl hNone
    · right
      rw [hSame, hSize]
      exact (hGrows.bounded g hg).linear
  refine ⟨by omega, by omega, ?_, ⟨reached, hLead, hReached⟩, hTripled, ?_⟩
  · intro p q hRound
    obtain ⟨grown, hGrow, hSame, -⟩ := (Pass.step_of_round hRound).asks_for_size hLiterals
    exact ⟨grown, hGrow, hSame⟩
  · intro hSome
    calc 3 ^ growths.length * (2 * subject.size + 1)
        ≤ 3 ^ growths.length * max out.capacity (2 * subject.size + 1) :=
          Nat.mul_le_mul_left _ (Nat.le_max_right _ _)
      _ ≤ reached := hGeometric
      _ ≤ 3 * s.out.size + 1 := hLinear.resolve_left fun hNone => hSome hNone.1

theorem substituteInto_growth_runs :
    let template := Template.parse "<<<<<<$0>>>>>>".toUTF8
    let s := substituteInto (Matcher.runsOf 98) () "abbc".toUTF8 template none {} 0
    let growths := substituteGrowths (Matcher.runsOf 98) () "abbc".toUTF8 template none {} 0
    s.result = .ok { replacements := 4 } ∧ s.out.size = 52 ∧ s.out.capacity = 113 ∧
      growths ≠ [] ∧ (∀ g ∈ growths, 3 * g.before + 1 ≤ g.after) ∧
      3 ^ growths.length * 9 ≤ 3 * 52 + 1 := by
  intro template s growths
  have hOk : s.result = .ok { replacements := 4 } := result_of_within 9 (by decide +kernel) 0
  have hOut : (s.out.size, s.out.capacity) = (52, 113) :=
    substituteInto_of_within 9 (fun s => (s.out.size, s.out.capacity)) (by decide +kernel) 0
  obtain ⟨hSize, hCapacity⟩ := Prod.mk.inj hOut
  obtain ⟨-, -, -, ⟨reached, hLead, hReached⟩, hTripled, hGeometric⟩ :=
    substituteInto_growth (Matcher.runsOf 98) () _ _ none {} 0 hOk
  have hLength : "abbc".toUTF8.size = 4 := by decide +kernel
  have hSome : growths ≠ [] := by
    intro hNone
    obtain ⟨-, hFirst⟩ | ⟨g, hg, -⟩ := hLead.eq_or_mem
    · have hNew : ({} : OutputBuffer).capacity = 0 := rfl
      rw [hCapacity, hSize] at hReached
      omega
    · rw [show substituteGrowths _ _ _ _ _ _ _ = [] from hNone] at hg
      exact List.not_mem_nil hg
  refine ⟨hOk, hSize, hCapacity, hSome, hTripled, ?_⟩
  have := hGeometric hSome
  rwa [hLength, hSize] at this

end PerlPattern
