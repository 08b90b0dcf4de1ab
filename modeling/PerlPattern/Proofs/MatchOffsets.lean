import PerlPattern.Offsets

/-! # Match offsets as a map from groups to spans

Whatever number of slots there is, a group that fits reads back the span last
set for it, setting it touches no other group, and clearing unsets them all. A
group that does not fit is unset, and setting it changes nothing.
-/

namespace PerlPattern.MatchOffsets

theorem error_of_ofGroupCapacity {groups : Nat} {e : PatternError}
    (h : ofGroupCapacity groups = .error e) : e = .outOfMemory := by
  unfold ofGroupCapacity at h
  dsimp only at h
  split at h
  · cases h
    rfl
  · cases h

theorem ofGroupCapacity_eq_ok {groups : Nat} {o : MatchOffsets}
    (h : ofGroupCapacity groups = .ok o) : o = ⟨Array.replicate (3 * max groups 1) none⟩ := by
  unfold ofGroupCapacity at h
  dsimp only at h
  split at h
  · cases h
  · exact (Except.ok.inj h).symm

theorem groupCapacity_of_ofGroupCapacity {groups : Nat} {o : MatchOffsets}
    (h : ofGroupCapacity groups = .ok o) : o.groupCapacity = max groups 1 := by
  rw [ofGroupCapacity_eq_ok h, groupCapacity, Array.size_replicate]
  omega

@[simp] theorem size_clear (o : MatchOffsets) : o.clear.size = o.size := Array.size_replicate

@[simp] theorem size_setGroup (o : MatchOffsets) (group : Nat) (span : Span) :
    (o.setGroup group span).size = o.size := by
  unfold setGroup size
  split
  · simp only [Array.size_setIfInBounds]
  · rfl

theorem groupCapacity_eq_of_size_eq {o o' : MatchOffsets} (h : o.size = o'.size) :
    o.groupCapacity = o'.groupCapacity := congrArg (· / 3) h

@[simp] theorem groupCapacity_clear (o : MatchOffsets) :
    o.clear.groupCapacity = o.groupCapacity := groupCapacity_eq_of_size_eq o.size_clear

@[simp] theorem groupCapacity_setGroup (o : MatchOffsets) (group : Nat) (span : Span) :
    (o.setGroup group span).groupCapacity = o.groupCapacity :=
  groupCapacity_eq_of_size_eq (o.size_setGroup group span)

theorem clear_eq_of_size_eq {o o' : MatchOffsets} (h : o.size = o'.size) : o.clear = o'.clear := by
  unfold clear
  rw [show o.slots.size = o'.slots.size from h]

theorem lt_groupCapacity_of_group {o : MatchOffsets} {group : Nat} {span : Span}
    (h : o.group group = some span) : group < o.groupCapacity := by
  unfold MatchOffsets.group at h
  split at h
  · assumption
  · cases h

@[simp] theorem group_clear (o : MatchOffsets) (group : Nat) : o.clear.group group = none := by
  unfold MatchOffsets.group
  split
  · rename_i hFits
    have hSlot : 2 * group < o.slots.size := by
      rw [groupCapacity_clear, groupCapacity] at hFits
      omega
    simp only [clear, Array.getElem?_replicate, if_pos hSlot]
  · rfl

theorem slots_setGroup {o : MatchOffsets} {group : Nat} (span : Span)
    (hFits : group < o.groupCapacity) : (o.setGroup group span).slots =
      (o.slots.setIfInBounds (2 * group) (some span.start)).setIfInBounds (2 * group + 1)
        (some span.stop) := by
  rw [setGroup, if_pos hFits]

theorem group_setGroup_self {o : MatchOffsets} {group : Nat} (span : Span)
    (hFits : group < o.groupCapacity) : (o.setGroup group span).group group = some span := by
  have hSlots : 2 * group + 1 < o.slots.size := by
    rw [groupCapacity] at hFits
    omega
  have hStart : (o.setGroup group span).slots[2 * group]? = some (some span.start) := by
    rw [slots_setGroup span hFits, Array.getElem?_setIfInBounds_ne (by omega),
      Array.getElem?_setIfInBounds_self_of_lt (by omega)]
  have hStop : (o.setGroup group span).slots[2 * group + 1]? = some (some span.stop) := by
    rw [slots_setGroup span hFits, Array.getElem?_setIfInBounds_self_of_lt (by simpa using hSlots)]
  rw [MatchOffsets.group, groupCapacity_setGroup, if_pos hFits, hStart, hStop]

theorem group_setGroup_of_ne {o : MatchOffsets} {group other : Nat} (span : Span)
    (hOther : other ≠ group) : (o.setGroup group span).group other = o.group other := by
  by_cases hFits : group < o.groupCapacity
  · have hStart : (o.setGroup group span).slots[2 * other]? = o.slots[2 * other]? := by
      rw [slots_setGroup span hFits, Array.getElem?_setIfInBounds_ne (by omega),
        Array.getElem?_setIfInBounds_ne (by omega)]
    have hStop : (o.setGroup group span).slots[2 * other + 1]? = o.slots[2 * other + 1]? := by
      rw [slots_setGroup span hFits, Array.getElem?_setIfInBounds_ne (by omega),
        Array.getElem?_setIfInBounds_ne (by omega)]
    rw [MatchOffsets.group, groupCapacity_setGroup, hStart, hStop]
    rfl
  · rw [setGroup, if_neg hFits]

theorem setGroup_of_le {o : MatchOffsets} {group : Nat} (span : Span)
    (h : o.groupCapacity ≤ group) : o.setGroup group span = o := by
  rw [setGroup, if_neg (Nat.not_lt.mpr h)]

theorem group_of_le {o : MatchOffsets} {group : Nat} (h : o.groupCapacity ≤ group) :
    o.group group = none := by
  rw [MatchOffsets.group, if_neg (Nat.not_lt.mpr h)]

theorem slots_setGroup_of_le {o : MatchOffsets} {group slot : Nat} (span : Span)
    (h : 2 * o.groupCapacity ≤ slot) : (o.setGroup group span).slots[slot]? = o.slots[slot]? := by
  rcases Nat.lt_or_ge group o.groupCapacity with hFits | hBeyond
  · rw [slots_setGroup span hFits, Array.getElem?_setIfInBounds_ne (by omega),
      Array.getElem?_setIfInBounds_ne (by omega)]
  · rw [setGroup_of_le span hBeyond]

end PerlPattern.MatchOffsets
