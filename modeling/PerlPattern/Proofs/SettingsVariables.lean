import PerlPattern.Host.Settings
import PerlPattern.Proofs.CodeSets
import Mathlib.Data.List.Forall2
import Mathlib.Data.List.TakeWhile
import Mathlib.Data.Nat.Digits.Defs
import Mathlib.Data.String.Basic

/-! # Settings read from variables

The languages of the three variables, as relations between a value and what it
means, and the settings that are read from any variables. A variable that is set
decides on one field and no other; which fault is reported depends on the order
of the variables.
-/

namespace PerlPattern

section Trimming

variable {p : Char → Bool} {l core : List Char}

theorem dropWhile_of_head (h : ∀ c ∈ l.head?, p c = false) : l.dropWhile p = l := by
  cases l with
  | nil => rfl
  | cons c l => exact List.dropWhile_cons_of_neg (Bool.eq_false_iff.mp (h c rfl))

theorem not_of_head_dropWhile {c : Char} (h : c ∈ (l.dropWhile p).head?) : p c = false := by
  have hNot := List.head?_dropWhile_not p l
  rw [Option.mem_def.mp h] at hNot
  exact hNot

/-- What is left of a list without the elements with `p` at its ends. -/
theorem dropEnds_eq_iff : ((l.dropWhile p).reverse.dropWhile p).reverse = core ↔
    (∃ before after, l = before ++ core ++ after ∧ (∀ c ∈ before, p c = true) ∧
      ∀ c ∈ after, p c = true) ∧
    (∀ c ∈ core.head?, p c = false) ∧ ∀ c ∈ core.getLast?, p c = false := by
  constructor
  · rintro rfl
    have hEnd : l.dropWhile p = ((l.dropWhile p).reverse.dropWhile p).reverse ++
        ((l.dropWhile p).reverse.takeWhile p).reverse := by
      rw [← List.reverse_append, List.takeWhile_append_dropWhile, List.reverse_reverse]
    refine ⟨⟨l.takeWhile p, ((l.dropWhile p).reverse.takeWhile p).reverse, ?_, ?_, ?_⟩, ?_, ?_⟩
    · rw [List.append_assoc, ← hEnd, List.takeWhile_append_dropWhile]
    · exact fun c hMember => List.mem_takeWhile_imp hMember
    · exact fun c hMember => List.mem_takeWhile_imp (List.mem_reverse.mp hMember)
    · intro c hHead
      refine not_of_head_dropWhile (l := l) ?_
      rw [hEnd]
      exact List.mem_head?_append_of_mem_head? hHead
    · intro c hLast
      rw [List.getLast?_reverse] at hLast
      exact not_of_head_dropWhile hLast
  · rintro ⟨⟨before, after, rfl, hBefore, hAfter⟩, hHead, hLast⟩
    rw [List.append_assoc, List.dropWhile_append_of_pos hBefore]
    cases core with
    | nil => rw [List.nil_append, List.dropWhile_eq_nil_iff.mpr hAfter]; rfl
    | cons c core =>
      have hStop : ∀ d ∈ (c :: core ++ after).head?, p d = false := hHead
      have hAfter' : ∀ d ∈ after.reverse, p d = true :=
        fun d hMember => hAfter d (List.mem_reverse.mp hMember)
      rw [dropWhile_of_head hStop, List.reverse_append, List.dropWhile_append_of_pos hAfter',
        dropWhile_of_head (by rwa [List.head?_reverse]), List.reverse_reverse]

end Trimming

section Letters

variable {c d : Char}

theorem toNat_toLower (hFirst : 'A'.toNat ≤ c.toNat) (hLast : c.toNat ≤ 'Z'.toNat) :
    c.toLower.toNat = c.toNat + 32 := by
  have hLetter : c.val ≥ 'A'.val ∧ c.val ≤ 'Z'.val :=
    ⟨UInt32.le_iff_toNat_le.mpr hFirst, UInt32.le_iff_toNat_le.mpr hLast⟩
  unfold Char.toLower
  rw [dif_pos hLetter]
  change (c.toNat + 32) % 2 ^ 32 = c.toNat + 32
  exact Nat.mod_eq_of_lt (Nat.lt_of_le_of_lt (Nat.add_le_add_right hLast 32) (by decide))

theorem toLower_eq_self (h : ¬('A'.toNat ≤ c.toNat ∧ c.toNat ≤ 'Z'.toNat)) : c.toLower = c := by
  refine dif_neg ?_
  rintro ⟨hFirst, hLast⟩
  exact h ⟨UInt32.le_iff_toNat_le.mp hFirst, UInt32.le_iff_toNat_le.mp hLast⟩

theorem toNat_toUpper (hFirst : 'a'.toNat ≤ c.toNat) (hLast : c.toNat ≤ 'z'.toNat) :
    c.toUpper.toNat + 32 = c.toNat := by
  have hLetter : 'a'.val ≤ c.val ∧ c.val ≤ 'z'.val :=
    ⟨UInt32.le_iff_toNat_le.mpr hFirst, UInt32.le_iff_toNat_le.mpr hLast⟩
  have hSpread : ('A'.val - 'a'.val).toNat = 4294967264 := rfl
  have hSpan : 97 ≤ c.val.toNat ∧ c.val.toNat ≤ 122 := ⟨hFirst, hLast⟩
  unfold Char.toUpper
  rw [dif_pos hLetter]
  change (c.val + ('A'.val - 'a'.val)).toNat + 32 = c.val.toNat
  rw [UInt32.toNat_add, hSpread]
  omega

theorem toLower_eq_iff (hFirst : 'a'.toNat ≤ d.toNat) (hLast : d.toNat ≤ 'z'.toNat) :
    c.toLower = d ↔ c = d ∨ c = d.toUpper := by
  have hUpper := toNat_toUpper hFirst hLast
  have hSpan : 97 ≤ d.toNat ∧ d.toNat ≤ 122 := ⟨hFirst, hLast⟩
  by_cases hLetter : 65 ≤ c.toNat ∧ c.toNat ≤ 90
  · have hLower := toNat_toLower hLetter.1 hLetter.2
    rw [← Char.toNat_inj, ← Char.toNat_inj, ← Char.toNat_inj]
    omega
  · rw [toLower_eq_self hLetter]
    constructor
    · exact .inl
    · rintro (rfl | rfl)
      · rfl
      · omega

theorem map_toLower_eq_iff {l m : List Char}
    (hLetters : ∀ d ∈ m, 'a'.toNat ≤ d.toNat ∧ d.toNat ≤ 'z'.toNat) :
    l.map Char.toLower = m ↔ List.Forall₂ (fun c d => c = d ∨ c = d.toUpper) l m := by
  induction m generalizing l with
  | nil => rw [List.map_eq_nil_iff, List.forall₂_nil_right_iff]
  | cons d m ih =>
    obtain ⟨hLetter, hRest⟩ := List.forall_mem_cons.mp hLetters
    cases l with
    | nil =>
      constructor
      · nofun
      · nofun
    | cons c l =>
      rw [List.map_cons, List.cons.injEq, List.forall₂_cons, ih hRest,
        toLower_eq_iff hLetter.1 hLetter.2]

end Letters

namespace Host

open Unicode (WhiteSpace isWhiteSpace_iff)

/-- A text spells a name, in letters of either case. -/
def Spells (text name : String) : Prop :=
  List.Forall₂ (fun c d => c = d ∨ c = d.toUpper) text.toList name.toList

theorem NullHandling.letters_text (h : NullHandling) :
    ∀ d ∈ h.text.toList, 'a'.toNat ≤ d.toNat ∧ d.toNat ≤ 'z'.toNat := by
  have hAll : h.text.toList.all fun d => 'a'.toNat ≤ d.toNat ∧ d.toNat ≤ 'z'.toNat := by
    cases h <;> decide
  exact fun d hMember => of_decide_eq_true (List.all_eq_true.mp hAll d hMember)

theorem NullHandling.ofText?_eq_some_iff {text : String} {h : NullHandling} :
    ofText? text = some h ↔ Spells text h.text := by
  have hKey : ∀ h : NullHandling, String.ofList (text.toList.map Char.toLower) = h.text ↔
      Spells text h.text := by
    intro h
    rw [Spells, ← map_toLower_eq_iff h.letters_text, String.ofList_eq]
  rw [← hKey h]
  unfold ofText?
  dsimp only
  cases h with
  | modern =>
    split
    · rename_i hModern
      exact iff_of_true rfl hModern
    · rename_i hOther
      split
      · exact iff_of_false nofun hOther
      · exact iff_of_false nofun hOther
  | legacy =>
    split
    · rename_i hModern
      rw [hModern]
      exact iff_of_false nofun (by decide)
    · split
      · rename_i hLegacy
        exact iff_of_true rfl hLegacy
      · rename_i hOther
        exact iff_of_false nofun hOther

namespace Settings

/-! ## Values -/

/-- A text is another one with white space around it, which itself has none at its ends. -/
def Trims (text core : String) : Prop :=
  (∃ before after, text.toList = before ++ core.toList ++ after ∧ (∀ c ∈ before, WhiteSpace c) ∧
    ∀ c ∈ after, WhiteSpace c) ∧
  (∀ c ∈ core.toList.head?, ¬WhiteSpace c) ∧ ∀ c ∈ core.toList.getLast?, ¬WhiteSpace c

theorem trim_eq_iff {text core : String} : trim text = core ↔ Trims text core := by
  unfold trim Trims
  simp only [← isWhiteSpace_iff, Bool.not_eq_true]
  rw [← dropEnds_eq_iff, String.ofList_eq]

theorem exists_trims {text : String} {P : String → Prop} :
    (∃ core, Trims text core ∧ P core) ↔ P (trim text) := by
  constructor
  · rintro ⟨core, hTrims, hCore⟩
    rwa [trim_eq_iff.mpr hTrims]
  · exact fun hCore => ⟨_, trim_eq_iff.mp rfl, hCore⟩

/-- A text is a number in decimal digits, with a plus sign or without. -/
def Numeral (text : String) (n : Nat) : Prop :=
  ∃ digits, (text.toList = digits ∨ text.toList = '+' :: digits) ∧ digits ≠ [] ∧
    (∀ d ∈ digits, d.isDigit = true) ∧
    n = Nat.ofDigits 10 (digits.reverse.map fun d => d.toNat - '0'.toNat)

theorem foldl_digits (digits : List Char) :
    digits.foldl (fun n d => n * 10 + (d.toNat - '0'.toNat)) 0 =
      Nat.ofDigits 10 (digits.reverse.map fun d => d.toNat - '0'.toNat) := by
  rw [Nat.ofDigits_eq_foldr, List.foldr_map, List.foldr_reverse]
  congr 1
  funext n d
  rw [Nat.cast_id]
  omega

/-- A text without a plus sign at its start. -/
def unsigned : List Char → List Char
  | '+' :: rest => rest
  | cs => cs

theorem unsigned_cases (text : List Char) : text = unsigned text ∨ text = '+' :: unsigned text := by
  unfold unsigned
  split
  · exact .inr rfl
  · exact .inl rfl

theorem unsigned_eq {text digits : List Char} (hDigits : ∀ d ∈ digits, d.isDigit = true)
    (hText : text = digits ∨ text = '+' :: digits) : unsigned text = digits := by
  obtain rfl | rfl := hText
  · unfold unsigned
    split
    · exact absurd (hDigits '+' List.mem_cons_self) (by decide)
    · rfl
  · rfl

theorem number?_eq (text : String) : number? text =
    let digits := unsigned text.toList
    if digits.isEmpty ∨ !digits.all Char.isDigit then none
    else
      let value := digits.foldl (fun n d => n * 10 + (d.toNat - '0'.toNat)) 0
      if value ≤ maxNumber then some value else none := rfl

theorem number?_eq_some_iff {text : String} {n : Nat} :
    number? text = some n ↔ Numeral text n ∧ n ≤ 2 ^ 64 - 1 := by
  rw [number?_eq]
  dsimp only
  constructor
  · intro h
    split at h
    · cases h
    · rename_i hRead
      obtain ⟨hSome, hDigits⟩ := not_or.mp hRead
      split at h
      · rename_i hValue
        cases h
        refine ⟨⟨_, unsigned_cases text.toList, ?_, ?_, foldl_digits _⟩, hValue⟩
        · simpa using hSome
        · simpa using hDigits
      · cases h
  · rintro ⟨⟨digits, hText, hSome, hDigits, rfl⟩, hValue⟩
    have hRead : ¬(digits.isEmpty = true ∨ (!digits.all Char.isDigit) = true) := by
      simpa [hSome] using hDigits
    rw [unsigned_eq hDigits hText, foldl_digits, if_neg hRead]
    exact if_pos hValue

/-- A value names a way to treat the literal `NULL`. -/
def Names (value : String) (h : NullHandling) : Prop :=
  ∃ core, Trims value core ∧ Spells core h.text

/-- A value holds a number. -/
def Counts (value : String) (n : Nat) : Prop :=
  ∃ core, Trims value core ∧ Numeral core n ∧ n ≤ 2 ^ 64 - 1

theorem names_iff {value : String} {h : NullHandling} :
    NullHandling.ofText? (trim value) = some h ↔ Names value h :=
  NullHandling.ofText?_eq_some_iff.trans (exists_trims (P := (Spells · h.text))).symm

theorem counts_iff {value : String} {n : Nat} : number? (trim value) = some n ↔ Counts value n :=
  number?_eq_some_iff.trans (exists_trims (P := fun core => Numeral core n ∧ n ≤ 2 ^ 64 - 1)).symm

theorem counts_positive_iff {value : String} {n : Nat} :
    positive? (trim value) = some n ↔ Counts value n ∧ n ≠ 0 := by
  unfold positive?
  rw [Option.filter_eq_some_iff, counts_iff, decide_eq_true_eq, Nat.pos_iff_ne_zero]

/-! ## Variables -/

section Steps

variable {α β : Type} {lookup : String → Option String} {name : String} {Means : String → α → Prop}
  {read? : String → Option α} {change : Settings → α → Settings} {s s' : Settings}
  (hReads : ∀ value a, read? (trim value) = some a ↔ Means value a)

include hReads

theorem applyVar_eq_ok_iff : applyVar lookup name read? change s = .ok s' ↔
    (lookup name = none ∧ s' = s) ∨
      ∃ value a, lookup name = some value ∧ Means value a ∧ s' = change s a := by
  simp only [← hReads]
  unfold applyVar
  cases hValue : lookup name with
  | none => simp [eq_comm]
  | some value =>
    dsimp only
    unfold readVar
    cases hRead : read? (trim value) with
    | none => simp [Except.map, hRead]
    | some a => simp [Except.map, hRead, eq_comm]

theorem applyVar_eq_error_iff {e : SettingsError} :
    applyVar lookup name read? change s = .error e ↔
      lookup name = some e.value ∧ (¬∃ a, Means e.value a) ∧ e.name = name := by
  simp only [← hReads]
  unfold applyVar
  cases hValue : lookup name with
  | none => simp
  | some value =>
    dsimp only
    unfold readVar
    cases hRead : read? (trim value) with
    | none =>
      constructor
      · rintro ⟨⟩
        simp [hRead]
      · rintro ⟨hSame, -, rfl⟩
        cases hSame
        rfl
    | some a =>
      constructor
      · nofun
      · rintro ⟨hSame, hNone, -⟩
        cases hSame
        exact absurd ⟨a, hRead⟩ hNone

/-- A variable leaves alone what its change leaves alone. -/
theorem applyVar_keeps (h : applyVar lookup name read? change s = .ok s') (field : Settings → β)
    (hKeeps : ∀ s a, field (change s a) = field s) : field s' = field s := by
  obtain ⟨-, rfl⟩ | ⟨value, a, -, -, rfl⟩ := (applyVar_eq_ok_iff hReads).mp h
  · rfl
  · exact hKeeps s a

/-- What a variable decides on depends on its value alone. -/
theorem applyVar_sets (h : applyVar lookup name read? change s = .ok s') (field : Settings → β)
    {image : α → β} (hSets : ∀ s a, field (change s a) = image a) :
    (lookup name = none → field s' = field s) ∧
      ∀ value, lookup name = some value → ∃ a, Means value a ∧ field s' = image a := by
  obtain ⟨hUnset, rfl⟩ | ⟨value, a, hSet, hMeans, rfl⟩ := (applyVar_eq_ok_iff hReads).mp h
  · refine ⟨fun _ => rfl, ?_⟩
    intro value hSet
    cases hUnset.symm.trans hSet
  · refine ⟨?_, ?_⟩
    · intro hUnset
      cases hUnset.symm.trans hSet
    · intro value' hSet'
      cases hSet.symm.trans hSet'
      exact ⟨a, hMeans, hSets s a⟩

end Steps

inductive Variable where
  | nullHandling
  | stackBudget
  | matchLimit
  deriving Repr, DecidableEq

namespace Variable

def name : Variable → String
  | nullHandling => nullHandlingVar
  | stackBudget => stackBudgetVar
  | matchLimit => matchLimitVar

/-- The variables in the order in which they are read. -/
def all : List Variable := [nullHandling, stackBudget, matchLimit]

def WellFormed : Variable → String → Prop
  | nullHandling, value => ∃ h, Names value h
  | stackBudget, value => ∃ n, Counts value n
  | matchLimit, value => ∃ n, Counts value n ∧ n ≠ 0

/-- A variable is unset, or set to a value that can be read. -/
def Fits (lookup : String → Option String) (v : Variable) : Prop :=
  ∀ value, lookup v.name = some value → v.WellFormed value

/-- A variable is set to a value that cannot be read, which an error reports as it is. -/
def Fails (lookup : String → Option String) (v : Variable) (e : SettingsError) : Prop :=
  lookup v.name = some e.value ∧ ¬v.WellFormed e.value ∧ e.name = v.name

def apply (lookup : String → Option String) : Variable → Settings → Except SettingsError Settings
  | nullHandling => applyVar lookup nullHandlingVar NullHandling.ofText? withNullHandling
  | stackBudget => applyVar lookup stackBudgetVar number? fun s n => s.withStackBudget (some n)
  | matchLimit => applyVar lookup matchLimitVar positive?
      fun s n => s.withLimits (s.session.limits.withMatchLimit n)

variable {lookup : String → Option String} {v : Variable}

theorem fits_iff : v.Fits lookup ↔ ∀ e, ¬v.Fails lookup e := by
  constructor
  · rintro hFits e ⟨hSet, hFaulty, -⟩
    exact hFaulty (hFits e.value hSet)
  · intro hNever value hSet
    by_contra hFaulty
    exact hNever ⟨v.name, value⟩ ⟨hSet, hFaulty, rfl⟩

theorem apply_eq_error_iff {s : Settings} {e : SettingsError} :
    v.apply lookup s = .error e ↔ v.Fails lookup e := by
  cases v with
  | nullHandling => exact applyVar_eq_error_iff fun _ _ => names_iff
  | stackBudget =>
    unfold apply
    exact applyVar_eq_error_iff fun _ _ => counts_iff
  | matchLimit =>
    unfold apply
    exact applyVar_eq_error_iff fun _ _ => counts_positive_iff

end Variable

/-- A run over a list fails with the first element that fails. -/
theorem foldlM_eq_error_iff {σ α ε : Type} {f : σ → α → Except ε σ} {Fails : α → ε → Prop}
    (hFails : ∀ s a e, f s a = .error e ↔ Fails a e) {l : List α} {s : σ} {e : ε} :
    l.foldlM f s = .error e ↔ ∃ before a after, l = before ++ a :: after ∧
      (∀ b ∈ before, ∀ e, ¬Fails b e) ∧ Fails a e := by
  induction l generalizing s with
  | nil => simp [pure, Except.pure]
  | cons a l ih =>
    rw [List.foldlM_cons]
    cases hFirst : f s a with
    | error e' =>
      have hFault : Fails a e' := (hFails s a e').mp hFirst
      constructor
      · rintro ⟨⟩
        exact ⟨[], a, l, rfl, nofun, hFault⟩
      · rintro ⟨before, b, after, hList, hBefore, hFault'⟩
        cases before with
        | nil =>
          obtain ⟨rfl, rfl⟩ := List.cons.inj hList
          exact hFirst.symm.trans ((hFails s a e).mpr hFault')
        | cons c before =>
          obtain ⟨rfl, -⟩ := List.cons.inj hList
          exact absurd hFault (hBefore a List.mem_cons_self e')
    | ok s' =>
      have hFine : ∀ e, ¬Fails a e := by
        intro e hFault
        cases hFirst.symm.trans ((hFails s a e).mpr hFault)
      change l.foldlM f s' = .error e ↔ _
      rw [ih]
      constructor
      · rintro ⟨before, b, after, rfl, hBefore, hFault⟩
        refine ⟨a :: before, b, after, rfl, ?_, hFault⟩
        exact List.forall_mem_cons.mpr ⟨hFine, hBefore⟩
      · rintro ⟨before, b, after, hList, hBefore, hFault⟩
        cases before with
        | nil =>
          obtain ⟨rfl, -⟩ := List.cons.inj hList
          exact absurd hFault (hFine e)
        | cons c before =>
          obtain ⟨rfl, rfl⟩ := List.cons.inj hList
          exact ⟨before, b, after, rfl, (List.forall_mem_cons.mp hBefore).2, hFault⟩

/-- What the variables say about settings: each of them about one field, and only if it is set. -/
structure Reads (lookup : String → Option String) (s : Settings) : Prop where
  nullHandling : ∀ value, lookup nullHandlingVar = some value → Names value s.nullHandling
  nullHandling_unset : lookup nullHandlingVar = none → s.nullHandling = .modern
  recursionLimit : ∀ value, lookup stackBudgetVar = some value → ∃ n, Counts value n ∧
    s.session.limits.recursionLimit = max 1 ((n - 4096) / 1000)
  recursionLimit_unset : lookup stackBudgetVar = none → s.session.limits.recursionLimit = 192
  matchLimit : ∀ value, lookup matchLimitVar = some value →
    Counts value s.session.limits.matchLimit ∧ s.session.limits.matchLimit ≠ 0
  matchLimit_unset : lookup matchLimitVar = none → s.session.limits.matchLimit = 100000
  maxLength : s.session.maxLength = none

variable {lookup : String → Option String} {s s' : Settings} {e : SettingsError}

theorem ofVars_eq (lookup : String → Option String) : ofVars lookup =
    Variable.all.foldlM (fun s v => v.apply lookup s) {} := by
  unfold ofVars
  simp only [Variable.all, List.foldlM_cons, List.foldlM_nil, bind_pure]
  rfl

theorem ofVars_eq_error_iff : ofVars lookup = .error e ↔ ∃ before v after,
    Variable.all = before ++ v :: after ∧ (∀ u ∈ before, u.Fits lookup) ∧ v.Fails lookup e := by
  simp only [Variable.fits_iff]
  rw [ofVars_eq]
  exact foldlM_eq_error_iff (f := fun s v => Variable.apply lookup v s)
    fun s v e => @Variable.apply_eq_error_iff lookup v s e

theorem steps_of_ofVars (h : ofVars lookup = .ok s) : ∃ s₁ s₂,
    Variable.nullHandling.apply lookup {} = .ok s₁ ∧ Variable.stackBudget.apply lookup s₁ = .ok s₂ ∧
      Variable.matchLimit.apply lookup s₂ = .ok s := by
  change ((Variable.nullHandling.apply lookup {}).bind fun s =>
    (Variable.stackBudget.apply lookup s).bind fun s => Variable.matchLimit.apply lookup s) =
      .ok s at h
  cases hHandling : Variable.nullHandling.apply lookup {} with
  | error e =>
    rw [hHandling] at h
    cases h
  | ok s₁ =>
    rw [hHandling] at h
    change (Variable.stackBudget.apply lookup s₁).bind _ = .ok s at h
    cases hBudget : Variable.stackBudget.apply lookup s₁ with
    | error e =>
      rw [hBudget] at h
      cases h
    | ok s₂ =>
      rw [hBudget] at h
      exact ⟨s₁, s₂, rfl, hBudget, h⟩

theorem nullHandling_withLimits (s : Settings) (limits : MatchLimits) :
    (s.withLimits limits).nullHandling = s.nullHandling := rfl

theorem maxLength_withLimits (s : Settings) (limits : MatchLimits) :
    (s.withLimits limits).session.maxLength = s.session.maxLength := rfl

theorem matchLimit_withLimits (s : Settings) (limits : MatchLimits) (n : Nat) :
    (s.withLimits (limits.withMatchLimit n)).session.limits.matchLimit = n := rfl

theorem matchLimit_withStackBudget (s : Settings) (available : Option Nat) :
    (s.withStackBudget available).session.limits.matchLimit = s.session.limits.matchLimit :=
  matchLimit_withLimits s _ _

theorem recursionLimit_withStackBudget (s : Settings) (n : Nat) :
    (s.withStackBudget (some n)).session.limits.recursionLimit = max 1 ((n - 4096) / 1000) := by
  unfold withStackBudget MatchLimits.ofStackBudget MatchLimits.stackReserve MatchLimits.frameSize
  rfl

namespace Variable

theorem apply_nullHandling (h : nullHandling.apply lookup s = .ok s') :
    ((lookup nullHandlingVar = none → s'.nullHandling = s.nullHandling) ∧
      ∀ value, lookup nullHandlingVar = some value → Names value s'.nullHandling) ∧
    s'.session = s.session := by
  obtain ⟨hUnset, hSet⟩ :=
    applyVar_sets (fun _ _ => names_iff) h Settings.nullHandling fun _ _ => rfl
  refine ⟨⟨hUnset, ?_⟩, applyVar_keeps (fun _ _ => names_iff) h Settings.session fun _ _ => rfl⟩
  intro value hValue
  obtain ⟨handling, hNames, hSame⟩ := hSet value hValue
  rwa [hSame]

theorem apply_stackBudget (h : stackBudget.apply lookup s = .ok s') :
    ((lookup stackBudgetVar = none →
        s'.session.limits.recursionLimit = s.session.limits.recursionLimit) ∧
      ∀ value, lookup stackBudgetVar = some value → ∃ n, Counts value n ∧
        s'.session.limits.recursionLimit = max 1 ((n - 4096) / 1000)) ∧
    s'.nullHandling = s.nullHandling ∧ s'.session.maxLength = s.session.maxLength ∧
    s'.session.limits.matchLimit = s.session.limits.matchLimit := by
  unfold apply at h
  have hReads := fun value n => @counts_iff value n
  exact ⟨applyVar_sets hReads h (·.session.limits.recursionLimit) recursionLimit_withStackBudget,
    applyVar_keeps hReads h Settings.nullHandling fun s _ => s.nullHandling_withLimits _,
    applyVar_keeps hReads h (·.session.maxLength) fun s _ => s.maxLength_withLimits _,
    applyVar_keeps hReads h (·.session.limits.matchLimit) fun s _ => s.matchLimit_withStackBudget _⟩

theorem apply_matchLimit (h : matchLimit.apply lookup s = .ok s') :
    ((lookup matchLimitVar = none → s'.session.limits.matchLimit = s.session.limits.matchLimit) ∧
      ∀ value, lookup matchLimitVar = some value →
        Counts value s'.session.limits.matchLimit ∧ s'.session.limits.matchLimit ≠ 0) ∧
    s'.nullHandling = s.nullHandling ∧ s'.session.maxLength = s.session.maxLength ∧
    s'.session.limits.recursionLimit = s.session.limits.recursionLimit := by
  unfold apply at h
  have hReads := fun value n => @counts_positive_iff value n
  obtain ⟨hUnset, hSet⟩ :=
    applyVar_sets hReads h (·.session.limits.matchLimit) fun _ _ => rfl
  refine ⟨⟨hUnset, ?_⟩,
    applyVar_keeps hReads h Settings.nullHandling fun s _ => s.nullHandling_withLimits _,
    applyVar_keeps hReads h (·.session.maxLength) fun s _ => s.maxLength_withLimits _,
    applyVar_keeps hReads h (·.session.limits.recursionLimit) fun _ _ => rfl⟩
  intro value hValue
  obtain ⟨n, hCounts, hSame⟩ := hSet value hValue
  rwa [hSame]

end Variable

theorem reads_of_ofVars (h : ofVars lookup = .ok s) : Reads lookup s := by
  obtain ⟨s₁, s₂, hFirst, hSecond, hThird⟩ := steps_of_ofVars h
  obtain ⟨⟨hModern, hNames⟩, hSession⟩ := Variable.apply_nullHandling hFirst
  obtain ⟨⟨hDefault, hBudget⟩, hHandling, hMaxLength, hLimit⟩ := Variable.apply_stackBudget hSecond
  obtain ⟨⟨hUnlimited, hPositive⟩, hHandling', hMaxLength', hNesting⟩ :=
    Variable.apply_matchLimit hThird
  rw [hSession] at hDefault hLimit hMaxLength
  rw [hLimit] at hUnlimited
  rw [← hHandling, ← hHandling'] at hModern hNames
  rw [← hNesting] at hDefault hBudget
  exact ⟨hNames, hModern, hBudget, hDefault, hPositive, hUnlimited, hMaxLength'.trans hMaxLength⟩

theorem Names.unique {value : String} {h h' : NullHandling} (hFirst : Names value h)
    (hSecond : Names value h') : h = h' :=
  Option.some.inj ((names_iff.mpr hFirst).symm.trans (names_iff.mpr hSecond))

theorem Counts.unique {value : String} {n n' : Nat} (hFirst : Counts value n)
    (hSecond : Counts value n') : n = n' :=
  Option.some.inj ((counts_iff.mpr hFirst).symm.trans (counts_iff.mpr hSecond))

theorem Reads.unique (h : Reads lookup s) (h' : Reads lookup s') : s = s' := by
  have hHandling : s.nullHandling = s'.nullHandling := by
    cases hValue : lookup nullHandlingVar with
    | none => rw [h.nullHandling_unset hValue, h'.nullHandling_unset hValue]
    | some value => exact (h.nullHandling value hValue).unique (h'.nullHandling value hValue)
  have hNesting : s.session.limits.recursionLimit = s'.session.limits.recursionLimit := by
    cases hValue : lookup stackBudgetVar with
    | none => rw [h.recursionLimit_unset hValue, h'.recursionLimit_unset hValue]
    | some value =>
      obtain ⟨n, hCounts, hLimit⟩ := h.recursionLimit value hValue
      obtain ⟨n', hCounts', hLimit'⟩ := h'.recursionLimit value hValue
      rw [hLimit, hLimit', hCounts.unique hCounts']
  have hLimit : s.session.limits.matchLimit = s'.session.limits.matchLimit := by
    cases hValue : lookup matchLimitVar with
    | none => rw [h.matchLimit_unset hValue, h'.matchLimit_unset hValue]
    | some value => exact (h.matchLimit value hValue).1.unique (h'.matchLimit value hValue).1
  have hMaxLength : s.session.maxLength = s'.session.maxLength :=
    h.maxLength.trans h'.maxLength.symm
  obtain ⟨⟨⟨_, _⟩, _⟩, _⟩ := s
  obtain ⟨⟨⟨_, _⟩, _⟩, _⟩ := s'
  cases hHandling
  cases hNesting
  cases hLimit
  cases hMaxLength
  rfl

theorem Reads.fits (h : Reads lookup s) (v : Variable) : v.Fits lookup := by
  intro value hValue
  cases v with
  | nullHandling => exact ⟨_, h.nullHandling value hValue⟩
  | stackBudget =>
    obtain ⟨n, hCounts, -⟩ := h.recursionLimit value hValue
    exact ⟨n, hCounts⟩
  | matchLimit => exact ⟨_, h.matchLimit value hValue⟩

theorem exists_ofVars (hFits : ∀ v : Variable, v.Fits lookup) : ∃ s, ofVars lookup = .ok s := by
  cases hRead : ofVars lookup with
  | ok s => exact ⟨s, rfl⟩
  | error e =>
    obtain ⟨before, v, after, -, -, hFails⟩ := ofVars_eq_error_iff.mp hRead
    exact absurd hFails (Variable.fits_iff.mp (hFits v) e)

/-- Settings are read exactly if every variable that is set can be read, and they are then the ones
that the variables describe; else the first variable at fault is reported with its whole value. -/
theorem ofVars_reads (lookup : String → Option String) :
    ((∃ s, ofVars lookup = .ok s) ↔
        ∀ v : Variable, ∀ value, lookup v.name = some value → v.WellFormed value) ∧
      (∀ s, ofVars lookup = .ok s ↔ Reads lookup s) ∧
      ∀ e, ofVars lookup = .error e ↔ ∃ before v after, Variable.all = before ++ v :: after ∧
        (∀ u ∈ before, ∀ value, lookup u.name = some value → u.WellFormed value) ∧
        lookup v.name = some e.value ∧ ¬v.WellFormed e.value ∧ e.name = v.name := by
  refine ⟨?_, ?_, fun e => ofVars_eq_error_iff⟩
  · constructor
    · rintro ⟨s, hRead⟩
      exact (reads_of_ofVars hRead).fits
    · exact exists_ofVars
  · intro s
    refine ⟨reads_of_ofVars, ?_⟩
    intro hReads
    obtain ⟨s', hRead⟩ := exists_ofVars hReads.fits
    rw [hRead, hReads.unique (reads_of_ofVars hRead)]

example : (ofVars fun name => if name = stackBudgetVar then some " +0007096\n" else none).toOption =
    some { session := { limits := { matchLimit := 100000, recursionLimit := 3 } } } := by
  decide +kernel

end Settings

end Host

end PerlPattern
