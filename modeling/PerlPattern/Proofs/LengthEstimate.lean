import PerlPattern.Proofs.Rows

/-! # How long a result may get

Where the caller knows a largest length, replacement estimates the length of its
results from the lengths that are reported for the replacement and for the
subject. The estimate is worked out in machine words, and a product of words
stops at the largest one. Since that is far beyond the length of any result that
can be returned, the estimate is either the exact product or none, and the
session reserves room for it.
-/

namespace PerlPattern

/-- A product of words stops at the largest word if any part of it does. -/
theorem OutputBuffer.wordMul_wordMul (m n : Nat) {k : Nat} (hFactor : 0 < k) :
    wordMul (wordMul m n) k = min (m * n * k) maxWord := by
  unfold wordMul
  obtain hWord | hBeyond := Nat.le_total (m * n) maxWord
  · rw [Nat.min_eq_left hWord]
  · have hStays : maxWord ≤ maxWord * k := Nat.le_mul_of_pos_right _ hFactor
    have hProduct : maxWord ≤ m * n * k := Nat.le_trans hBeyond (Nat.le_mul_of_pos_right _ hFactor)
    rw [Nat.min_eq_right hBeyond, Nat.min_eq_right hStays, Nat.min_eq_right hProduct]

namespace SessionOptions

variable {o : SessionOptions} {max : Nat}

/-- Does a largest length decide on the size of the buffer? -/
def Counts (max : Nat) : Prop := 1 ≤ max ∧ max ≤ maxResultLength

theorem bufferSize_of_counts (hMax : o.maxLength = some max) (hCounts : Counts max) :
    o.bufferSize = max + 1 := by
  unfold bufferSize
  rw [hMax]
  exact if_pos hCounts

theorem bufferSize_of_unknown (hNone : ∀ max ∈ o.maxLength, ¬Counts max) :
    o.bufferSize = defaultBufferSize := by
  unfold bufferSize
  cases hMax : o.maxLength with
  | none => rfl
  | some max => exact if_neg (hNone max hMax)

theorem bufferSize_eq_iff (hMax : o.maxLength = some max) :
    o.bufferSize = max + 1 ↔ Counts max := by
  refine ⟨?_, bufferSize_of_counts hMax⟩
  intro hSize
  by_contra hBeyond
  -- The size without a length is one more than a length that counts.
  have hDefault : o.bufferSize = defaultBufferSize := by
    refine bufferSize_of_unknown fun max' hMax' => ?_
    cases hMax.symm.trans hMax'
    exact hBeyond
  have hSame : max + 1 = 1023999 + 1 := hSize.symm.trans hDefault
  cases Nat.succ.inj hSame
  exact hBeyond ⟨by decide, by decide⟩

theorem bufferSize_bounds (o : SessionOptions) :
    2 ≤ o.bufferSize ∧ o.bufferSize ≤ Nat.pow 2 31 := by
  by_cases hCounts : ∃ max ∈ o.maxLength, Counts max
  · obtain ⟨max, hMax, hLeast, hMost⟩ := hCounts
    rw [bufferSize_of_counts hMax ⟨hLeast, hMost⟩]
    exact ⟨Nat.succ_le_succ hLeast, Nat.succ_le_succ hMost⟩
  · rw [bufferSize_of_unknown fun max hMax hCount => hCounts ⟨max, hMax, hCount⟩]
    decide

end SessionOptions

theorem Session.started_of_init {constant : Option ByteArray} {options : SessionOptions}
    {s : Session} (h : Session.init constant options = .ok s) :
    s.options = options ∧ s.buffer = ⟨.empty, options.bufferSize⟩ := by
  have hReserved : OutputBuffer.ofCapacity options.bufferSize maxAllocation =
      .ok ⟨.empty, options.bufferSize⟩ := by
    obtain ⟨hLeast, hMost⟩ := options.bufferSize_bounds
    have hRoom : Nat.pow 2 31 ≤ maxAllocation := by decide
    have hSize : options.bufferSize - 1 + 1 = options.bufferSize := by omega
    unfold OutputBuffer.ofCapacity OutputBuffer.growExact OutputBuffer.reserve
    rw [hSize, if_pos (Nat.lt_of_lt_of_le Nat.two_pos hLeast),
      if_neg (Nat.not_lt.mpr (Nat.le_trans hMost hRoom))]
  unfold Session.init at h
  rw [hReserved] at h
  cases constant with
  | none =>
    cases h
    exact ⟨rfl, rfl⟩
  | some raw =>
    dsimp only at h
    cases hCompile : CompiledPattern.ofDelimited raw options.limits with
    | error e =>
      rw [hCompile] at h
      cases h
    | ok pattern =>
      rw [hCompile] at h
      cases h
      exact ⟨rfl, rfl⟩

namespace Host.Replace

open SessionOptions (maxResultLength)

variable {args : Arguments} {settings : Settings} {f : Replace} {o : SessionOptions}

/-- The length that references are taken to build at worst. -/
def worstLength (args : Arguments) : Nat :=
  args.reportedLength 1 * args.reportedLength 2 * args.reportedLength 1

/-- Is there a length to be estimated, and are there lengths to estimate it from? -/
def Estimates (args : Arguments) (o : SessionOptions) : Prop :=
  (∃ max ∈ o.maxLength, 0 < max) ∧ 0 < args.reportedLength 1 ∧ 0 < args.reportedLength 2

theorem options_of_estimates (h : Estimates args o) : options args o =
    { o with maxLength :=
        if worstLength args ≤ maxResultLength then some (worstLength args) else none } := by
  obtain ⟨⟨max, hMax, hPositive⟩, hReplacement, hSubject⟩ := h
  have hConfigured : o.maxLength.any (0 < ·) = true := by
    rw [Option.mem_def.mp hMax]
    exact decide_eq_true hPositive
  have hEstimate : OutputBuffer.wordMul (OutputBuffer.wordMul (args.reportedLength 1)
      (args.reportedLength 2)) (args.reportedLength 1) =
        min (worstLength args) OutputBuffer.maxWord :=
    OutputBuffer.wordMul_wordMul _ _ hReplacement
  have hWord : maxResultLength < OutputBuffer.maxWord := by decide
  unfold options
  dsimp only
  rw [if_pos ⟨hConfigured, hReplacement, hSubject⟩, hEstimate]
  obtain hBeyond | hCounts := Nat.lt_or_ge maxResultLength (worstLength args)
  · rw [if_neg (Nat.not_le.mpr hBeyond), if_neg (Nat.not_le.mpr (Nat.lt_min.mpr ⟨hBeyond, hWord⟩))]
  · rw [Nat.min_eq_left (Nat.le_trans hCounts (Nat.le_of_lt hWord))]

theorem options_of_not_estimates (h : ¬Estimates args o) : options args o = o := by
  unfold options
  refine if_neg ?_
  rintro ⟨hConfigured, hLengths⟩
  obtain ⟨max, hMax, hPositive⟩ := (Option.any_eq_true _ _).mp hConfigured
  exact h ⟨⟨max, hMax, of_decide_eq_true hPositive⟩, hLengths⟩

/-- A session that replaces starts with the exact estimate or with none, whatever lengths are
reported, and with a buffer of the size that goes with it. -/
theorem init_estimates (hInit : init args settings = .ok f) :
    let configured := settings.session.maxLength
    let replacement := args.reportedLength 1
    let subject := args.reportedLength 2
    let longest := replacement * subject * replacement
    let o := f.session.options
    ((∃ max, configured = some max ∧ 0 < max) ∧ 0 < replacement ∧ 0 < subject →
        (longest ≤ Nat.pow 2 31 - 1 → o.maxLength = some longest) ∧
          (Nat.pow 2 31 - 1 < longest → o.maxLength = none)) ∧
      (configured = none ∨ configured = some 0 ∨ replacement = 0 ∨ subject = 0 →
        o.maxLength = configured) ∧
      (∀ max, o.maxLength = some max →
        (o.bufferSize = max + 1 ↔ 1 ≤ max ∧ max ≤ Nat.pow 2 31 - 1)) ∧
      ((∀ max, o.maxLength = some max → max = 0 ∨ Nat.pow 2 31 - 1 < max) →
        o.bufferSize = 1024000) ∧
      2 ≤ o.bufferSize ∧ o.bufferSize ≤ Nat.pow 2 31 ∧ f.session.buffer = ⟨.empty, o.bufferSize⟩ ∧
      o.limits = settings.session.limits := by
  intro configured replacement subject longest o
  obtain ⟨hOptions, hBuffer⟩ :=
    Session.started_of_init (init_of_initSession (session_of_init hInit).1)
  have hWith : o = options args settings.session := hOptions
  obtain ⟨hLeast, hMost⟩ := o.bufferSize_bounds
  refine ⟨?_, ?_, fun max hMax => SessionOptions.bufferSize_eq_iff hMax, ?_, hLeast, hMost, ?_, ?_⟩
  · intro hEstimates
    rw [hWith, options_of_estimates hEstimates]
    exact ⟨fun hCounts => if_pos hCounts, fun hBeyond => if_neg (Nat.not_le.mpr hBeyond)⟩
  · intro hMissing
    have hNone : ¬Estimates args settings.session := by
      rintro ⟨⟨max, hMax, hPositive⟩, hReplacement, hSubject⟩
      have hConfigured : configured = some max := hMax
      obtain hUnset | hZero | hEmpty | hEmpty := hMissing
      · cases hUnset.symm.trans hConfigured
      · cases hZero.symm.trans hConfigured
        exact Nat.lt_irrefl 0 hPositive
      · exact Nat.ne_of_gt hReplacement hEmpty
      · exact Nat.ne_of_gt hSubject hEmpty
    rw [hWith, options_of_not_estimates hNone]
  · intro hNone
    refine SessionOptions.bufferSize_of_unknown fun max hMax hCounts => ?_
    obtain hZero | hBeyond := hNone max hMax
    · exact Nat.ne_of_gt hCounts.1 hZero
    · exact Nat.not_lt.mpr hCounts.2 hBeyond
  · rw [hBuffer, hWith]
  · rw [hWith, limits_options]

/-- The square of `2 ^ 63 + 1` is 1 in a machine word of 64 bits. -/
theorem init_estimates_near_word :
    let column := Argument.ofValue (.null .string)
    let settings : Settings := { session := { maxLength := some 100 } }
    let started := fun replacement subject => Replace.init
      [column, column.withLength replacement, column.withLength subject] settings
    ∃ small large, started 2 3 = .ok small ∧ small.session.options.maxLength = some 12 ∧
      small.session.options.bufferSize = 13 ∧ started (Nat.pow 2 63 + 1) 5 = .ok large ∧
      large.session.options.maxLength = none ∧ large.session.options.bufferSize = 1024000 := by
  intro column settings started
  obtain ⟨small, hSmall⟩ : ∃ f, started 2 3 = .ok f := ⟨_, rfl⟩
  obtain ⟨large, hLarge⟩ : ∃ f, started (Nat.pow 2 63 + 1) 5 = .ok f := ⟨_, rfl⟩
  obtain ⟨hExact, -, hSize, -⟩ := init_estimates hSmall
  obtain ⟨hNone, -, -, hDefault, -⟩ := init_estimates hLarge
  have hTwelve := (hExact ⟨⟨100, rfl, by decide⟩, by decide, by decide⟩).1 (by decide)
  have hUnknown := (hNone ⟨⟨100, rfl, by decide⟩, by decide, by decide⟩).2 (by decide)
  refine ⟨small, large, hSmall, hTwelve, ?_, hLarge, hUnknown, ?_⟩
  · exact (hSize 12 hTwelve).mpr (by decide)
  · refine hDefault fun max hMax => ?_
    cases hUnknown.symm.trans hMax

end Host.Replace

end PerlPattern
