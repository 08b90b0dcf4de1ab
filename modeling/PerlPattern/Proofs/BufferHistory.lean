import Mathlib.Data.List.DropRight
import Mathlib.Data.List.Infix
import PerlPattern.Proofs.Reservation

/-! # What becomes of a buffer

Whatever is done to a buffer, it holds what was appended since it was last
emptied, and from the first time that anything was reserved there is room for a
byte more. A request finds that room, or reserves a number of bytes that its
rule fixes, or is refused and changes nothing. That the rule is worked out in
machine words, whose sums stop at the largest one, makes no difference.
-/

namespace PerlPattern.OutputBuffer

/-- The largest number of bytes that can be asked for in one piece. -/
def maxRequest : Nat := Nat.pow 2 63 - 1

inductive Request where
  | growFor (required : Nat)
  | growExact (required : Nat)
  deriving Repr, DecidableEq

namespace Request

def required : Request → Nat
  | growFor required | growExact required => required

/-- What is reserved where there is no room yet. -/
def target (b : OutputBuffer) : Request → Nat
  | growFor required => b.capacity + 2 * required + 1
  | growExact required => required + 1

def ask (b : OutputBuffer) (bound : Nat) : Request → Result OutputBuffer
  | growFor required => b.growFor required bound
  | growExact required => b.growExact required bound

end Request

inductive Operation where
  | extend (more : ByteArray)
  | request (r : Request)
  | clear

namespace Operation

def act (b : OutputBuffer) (bound : Nat) : Operation → Result OutputBuffer
  | extend more => .ok (b.extend more)
  | request r => r.ask b bound
  | clear => .ok b.clear

/-- Something is appended, or room is granted. -/
def Takes (b : OutputBuffer) (bound : Nat) : Operation → Prop
  | extend _ => True
  | request r => ∃ out, r.ask b bound = .ok out
  | clear => False

def isClear : Operation → Bool
  | clear => true
  | _ => false

def appended : Operation → List UInt8
  | extend more => more.data.toList
  | _ => []

end Operation

/-- The buffer after an operation; one that fails leaves it as it is. -/
def after (bound : Nat) (b : OutputBuffer) (op : Operation) : OutputBuffer :=
  (op.act b bound).toOption.getD b

def afterAll (bound : Nat) (b : OutputBuffer) (ops : List Operation) : OutputBuffer :=
  ops.foldl (after bound) b

/-- A new buffer, or one with a number of bytes reserved. -/
def start? (bound : Nat) : Option Nat → Result OutputBuffer
  | none => .ok {}
  | some capacity => ofCapacity capacity bound

/-- What was appended since the last time that the buffer was emptied. -/
def written (ops : List Operation) : List UInt8 :=
  (ops.rtakeWhile fun op => !op.isClear).flatMap Operation.appended

def HasTaken (bound : Nat) (b : OutputBuffer) (ops : List Operation) : Prop :=
  ∃ done op, done ++ [op] <+: ops ∧ op.Takes (b.afterAll bound done) bound

variable {b : OutputBuffer} {bound : Nat}

@[simp] theorem afterAll_nil (bound : Nat) (b : OutputBuffer) : b.afterAll bound [] = b := rfl

@[simp] theorem afterAll_concat (bound : Nat) (b : OutputBuffer) (ops : List Operation)
    (op : Operation) : b.afterAll bound (ops ++ [op]) = (b.afterAll bound ops).after bound op := by
  simp [afterAll]

theorem hasTaken_concat (ops : List Operation) (op : Operation) :
    HasTaken bound b (ops ++ [op]) ↔
      HasTaken bound b ops ∨ op.Takes (b.afterAll bound ops) bound := by
  constructor
  · rintro ⟨done, last, hPrefix, hTakes⟩
    rcases List.prefix_concat_iff.mp hPrefix with hSame | hEarlier
    · obtain ⟨rfl, hLast⟩ := List.append_inj' hSame rfl
      obtain rfl := List.singleton_inj.mp hLast
      exact .inr hTakes
    · exact .inl ⟨done, last, hEarlier, hTakes⟩
  · rintro (⟨done, last, hPrefix, hTakes⟩ | hTakes)
    · exact ⟨done, last, hPrefix.trans (List.prefix_append ops [op]), hTakes⟩
    · exact ⟨ops, op, List.prefix_rfl, hTakes⟩

namespace Request

variable {r : Request}

theorem ask_eq (r : Request) (b : OutputBuffer) (bound : Nat) : r.ask b bound =
    if b.capacity < r.required + 1 then b.reserve (r.target b) bound else .ok b := by
  cases r <;> rfl

theorem required_lt_target (r : Request) (b : OutputBuffer) : r.required < r.target b := by
  cases r with
  | growFor required =>
    simp only [Request.required, target]
    omega
  | growExact required => exact Nat.lt_succ_self required

theorem ask_of_room (h : r.required < b.capacity) : r.ask b bound = .ok b := by
  rw [ask_eq, if_neg (by omega)]

theorem ask_of_no_room (h : b.capacity ≤ r.required) : r.ask b bound =
    if bound < r.target b then .error .outOfMemory
    else .ok { b with capacity := r.target b } := by
  rw [ask_eq, if_pos (by omega), reserve]

theorem of_ask_ok {out : OutputBuffer} (h : r.ask b bound = .ok out) :
    out.bytes = b.bytes ∧ b.capacity ≤ out.capacity ∧ r.required < out.capacity ∧
      out.capacity ≤ max b.capacity bound := by
  by_cases hRoom : r.required < b.capacity
  · rw [ask_of_room hRoom] at h
    cases h
    exact ⟨rfl, Nat.le_refl _, hRoom, Nat.le_max_left _ _⟩
  · rw [ask_of_no_room (Nat.le_of_not_lt hRoom)] at h
    have hTarget := r.required_lt_target b
    split at h
    · cases h
    · cases h
      refine ⟨rfl, ?_, hTarget, ?_⟩
      · dsimp only
        omega
      · dsimp only
        omega

end Request

theorem after_request_of_ok {r : Request} {out : OutputBuffer} (h : r.ask b bound = .ok out) :
    b.after bound (.request r) = out := by
  simp [after, Operation.act, h, Except.toOption]

theorem after_request_of_error {r : Request} {e : PatternError} (h : r.ask b bound = .error e) :
    b.after bound (.request r) = b := by
  simp [after, Operation.act, h, Except.toOption]

theorem capacity_le_after (b : OutputBuffer) (bound : Nat) (op : Operation) :
    b.capacity ≤ (b.after bound op).capacity := by
  cases op with
  | extend more => exact Nat.le_max_left _ _
  | clear => exact Nat.le_refl _
  | request r =>
    cases hAsk : r.ask b bound with
    | error e => rw [after_request_of_error hAsk]
    | ok out =>
      rw [after_request_of_ok hAsk]
      exact (Request.of_ask_ok hAsk).2.1

@[simp] theorem written_extend (ops : List Operation) (more : ByteArray) :
    written (ops ++ [.extend more]) = written ops ++ more.data.toList := by
  simp [written, Operation.isClear, Operation.appended]

@[simp] theorem written_request (ops : List Operation) (r : Request) :
    written (ops ++ [.request r]) = written ops := by
  simp [written, Operation.isClear, Operation.appended]

@[simp] theorem written_clear (ops : List Operation) : written (ops ++ [.clear]) = [] := by
  simp [written, Operation.isClear]

/-- A buffer holds what was written into it, with room for a byte more from the time that it has
taken room, and is as new before. -/
structure Kept (taken : Prop) (ops : List Operation) (b : OutputBuffer) : Prop where
  bytes : b.bytes.data.toList = written ops
  room : taken → b.size + 1 ≤ b.capacity
  untouched : ¬taken → b.size = 0 ∧ b.capacity = 0

theorem Kept.after {taken : Prop} {ops : List Operation} (h : Kept taken ops b) (bound : Nat)
    (op : Operation) :
    Kept (taken ∨ op.Takes b bound) (ops ++ [op]) (b.after bound op) := by
  obtain ⟨hBytes, hRoom, hUntouched⟩ := h
  cases op with
  | extend more =>
    have hSize : (b.extend more).size + 1 ≤ (b.extend more).capacity := by
      rw [size_extend]
      exact Nat.le_max_right _ _
    exact ⟨by simp [OutputBuffer.after, Operation.act, Except.toOption, hBytes], fun _ => hSize,
      fun hNever => absurd (.inr trivial) hNever⟩
  | clear =>
    refine ⟨by simp [OutputBuffer.after, Operation.act, Except.toOption], ?_, ?_⟩
    · rintro (hTaken | hTakes)
      · exact Nat.le_trans (Nat.succ_le_succ (Nat.zero_le _)) (hRoom hTaken)
      · exact hTakes.elim
    · intro hNever
      exact ⟨rfl, (hUntouched fun hTaken => hNever (.inl hTaken)).2⟩
  | request r =>
    cases hAsk : r.ask b bound with
    | error e =>
      have hRefused : ¬Operation.Takes b bound (.request r) := by
        rintro ⟨out, hOut⟩
        cases hAsk.symm.trans hOut
      rw [after_request_of_error hAsk]
      exact ⟨by simpa using hBytes, fun hTaken => hRoom (hTaken.resolve_right hRefused),
        fun hNever => hUntouched fun hTaken => hNever (.inl hTaken)⟩
    | ok out =>
      obtain ⟨hSame, hGrows, hRequired, -⟩ := Request.of_ask_ok hAsk
      have hSize := congrArg ByteArray.size hSame
      rw [after_request_of_ok hAsk]
      refine ⟨by simpa [hSame] using hBytes, fun _ => ?_, fun hNever => ?_⟩
      · by_cases hTaken : taken
        · have := hRoom hTaken
          simp only [size] at this ⊢
          omega
        · have := (hUntouched hTaken).1
          simp only [size] at this ⊢
          omega
      · exact absurd (.inr ⟨out, hAsk⟩) hNever

theorem kept_afterAll {taken : Prop} (h : Kept taken [] b) (bound : Nat) (ops : List Operation) :
    Kept (taken ∨ HasTaken bound b ops) ops (b.afterAll bound ops) := by
  -- On the last operation: what is written is counted back from there to the last clear.
  induction ops using List.reverseRecOn with
  | nil =>
    have hNothing : ¬HasTaken bound b [] := by simp [HasTaken]
    simpa [hNothing] using h
  | append_singleton ops op ih =>
    rw [afterAll_concat, hasTaken_concat, ← or_assoc]
    exact ih.after bound op

theorem capacity_after_le {op : Operation} (hCapacity : b.capacity ≤ bound + 1)
    (hSize : (b.after bound op).size ≤ bound) : (b.after bound op).capacity ≤ bound + 1 := by
  cases op with
  | extend more =>
    have hSize : b.size + more.size ≤ bound := by rwa [← size_extend]
    exact Nat.max_le.mpr ⟨hCapacity, Nat.succ_le_succ hSize⟩
  | clear => exact hCapacity
  | request r =>
    cases hAsk : r.ask b bound with
    | error e => rwa [after_request_of_error hAsk]
    | ok out =>
      have hLimit := (Request.of_ask_ok hAsk).2.2.2
      rw [after_request_of_ok hAsk]
      omega

theorem capacity_afterAll_le {ops : List Operation} (hCapacity : b.capacity ≤ bound + 1)
    (hSize : ∀ done ∈ ops.inits, (b.afterAll bound done).size ≤ bound) :
    (b.afterAll bound ops).capacity ≤ bound + 1 := by
  induction ops using List.reverseRecOn with
  | nil => exact hCapacity
  | append_singleton ops op ih =>
    simp only [List.mem_inits] at hSize ih
    have hBefore := ih fun done hDone => hSize done (hDone.trans (List.prefix_append ops [op]))
    have hAfter := hSize (ops ++ [op]) List.prefix_rfl
    rw [afterAll_concat] at hAfter ⊢
    exact capacity_after_le hBefore hAfter

theorem kept_start {capacity : Option Nat} (h : start? bound capacity = .ok b) :
    Kept (capacity.isSome = true) [] b ∧ b.capacity ≤ bound + 1 := by
  cases capacity with
  | none =>
    cases h
    exact ⟨⟨rfl, nofun, fun _ => ⟨rfl, rfl⟩⟩, Nat.zero_le _⟩
  | some capacity =>
    have hAsk : (Request.growExact (capacity - 1)).ask {} bound = .ok b := h
    obtain ⟨hBytes, -, hRequired, hLimit⟩ := Request.of_ask_ok hAsk
    have hSize : b.size = 0 := congrArg ByteArray.size hBytes
    refine ⟨⟨by rw [hBytes]; rfl, fun _ => ?_, fun hNever => absurd rfl hNever⟩, ?_⟩
    · omega
    · have hNew : ({} : OutputBuffer).capacity = 0 := rfl
      omega

/-! ## Machine words -/

/-- The sum of two machine words, which stops at the largest one. -/
def wordAdd (m n : Nat) : Nat := min (m + n) maxWord

namespace Request

/-- What is reserved, worked out in machine words. -/
def wordTarget (b : OutputBuffer) : Request → Nat
  | growFor required => wordAdd (wordAdd b.capacity (wordMul required 2)) 1
  | growExact required => wordAdd required 1

def wordAsk (b : OutputBuffer) (bound : Nat) (r : Request) : Result OutputBuffer :=
  if b.capacity < wordAdd r.required 1 then b.reserve (r.wordTarget b) bound else .ok b

theorem wordTarget_eq (r : Request) (b : OutputBuffer) :
    r.wordTarget b = min (r.target b) maxWord := by
  cases r with
  | growFor required =>
    simp only [wordTarget, target, wordAdd, wordMul]
    omega
  | growExact required => rfl

theorem reserve_min {target most : Nat} (h : bound < most) :
    b.reserve (min target most) bound = b.reserve target bound := by
  unfold reserve
  rcases Nat.le_total target most with hSmall | hLarge
  · rw [Nat.min_eq_left hSmall]
  · rw [Nat.min_eq_right hLarge, if_pos h, if_pos (Nat.lt_of_lt_of_le h hLarge)]

/-- What words cannot hold could not be granted either. -/
theorem wordAsk_eq (r : Request) (hBound : bound + 1 < maxWord)
    (hCapacity : b.capacity ≤ bound + 1) : r.wordAsk b bound = r.ask b bound := by
  have hRoom : b.capacity < wordAdd r.required 1 ↔ b.capacity < r.required + 1 := by
    unfold wordAdd
    omega
  simp only [wordAsk, ask_eq, hRoom, wordTarget_eq, reserve_min (Nat.lt_of_succ_lt hBound)]

/-- How a request is answered: by the room that is there, else as its rule says. -/
structure Answered (r : Request) (b : OutputBuffer) (bound : Nat) : Prop where
  kept : r.required + 1 ≤ b.capacity → r.ask b bound = .ok b
  refused : b.capacity < r.required + 1 →
    (r.ask b bound = .error .outOfMemory ↔ bound < r.target b)
  granted : b.capacity < r.required + 1 → r.target b ≤ bound →
    r.ask b bound = .ok { b with capacity := r.target b }
  room : r.required + 1 ≤ r.target b
  unchanged : ∀ e, r.ask b bound = .error e → b.after bound (.request r) = b
  words : r.wordAsk b bound = r.ask b bound

theorem answered (r : Request) (hBound : bound + 1 < maxWord) (hCapacity : b.capacity ≤ bound + 1) :
    r.Answered b bound where
  kept := ask_of_room
  refused hFull := by
    rw [ask_of_no_room (Nat.le_of_lt_succ hFull)]
    split <;> simp_all
  granted hFull hGranted := by
    rw [ask_of_no_room (Nat.le_of_lt_succ hFull), if_neg (Nat.not_lt.mpr hGranted)]
  room := r.required_lt_target b
  unchanged _ := after_request_of_error
  words := r.wordAsk_eq hBound hCapacity

end Request

/-- Whatever is done to a buffer, it holds what was written, with room for a byte more once it has
taken any, its capacity never shrinks, and its requests are answered by the rule. -/
theorem afterAll_keeps {capacity : Option Nat} {start : OutputBuffer}
    (hStart : start? maxRequest capacity = .ok start) (ops : List Operation)
    (hSize : ∀ done ∈ ops.inits, (start.afterAll maxRequest done).size ≤ maxRequest) :
    let b := start.afterAll maxRequest ops
    b.Kept (capacity.isSome = true ∨ start.HasTaken maxRequest ops) ops ∧
      (∀ op, b.capacity ≤ (b.after maxRequest op).capacity) ∧
      ∀ r : Request, r.Answered b maxRequest := by
  intro b
  obtain ⟨hKept, hCapacity⟩ := kept_start hStart
  have hLimit : b.capacity ≤ maxRequest + 1 := capacity_afterAll_le hCapacity hSize
  have hWords : maxRequest + 1 < maxWord := by decide
  exact ⟨kept_afterAll hKept maxRequest ops, b.capacity_le_after maxRequest,
    fun r => r.answered hWords hLimit⟩

theorem afterAll_keeps_refused :
    let start : OutputBuffer := { capacity := 5 }
    let ops : List Operation := [.extend "abc".toUTF8, .request (.growExact maxRequest), .clear,
      .extend "de".toUTF8, .request (.growFor 5)]
    start? maxRequest (some 5) = .ok start ∧
      (∀ done ∈ ops.inits, (start.afterAll maxRequest done).size ≤ maxRequest) ∧
      (start.afterAll maxRequest ops).Kept
        ((some 5).isSome = true ∨ start.HasTaken maxRequest ops) ops ∧
      written ops = [100, 101] ∧ (start.afterAll maxRequest ops).capacity = 16 ∧
      ∀ r : Request, r.Answered (start.afterAll maxRequest ops) maxRequest := by
  intro start ops
  have hStart : start? maxRequest (some 5) = .ok start := rfl
  have hSize : ∀ done ∈ ops.inits, (start.afterAll maxRequest done).size ≤ maxRequest := by
    decide +kernel
  obtain ⟨hKept, -, hAnswered⟩ := afterAll_keeps hStart ops hSize
  exact ⟨hStart, hSize, hKept, by decide +kernel, by decide +kernel, hAnswered⟩

end PerlPattern.OutputBuffer
