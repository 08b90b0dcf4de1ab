import PerlPattern.Template

/-! # What is written into a buffer

Reserving changes the capacity alone and fails in one way only, so that the
bytes of a buffer are those appended since it was emptied. The expansion of a
template is a byte string of its own, which writing appends as a whole.
-/

namespace PerlPattern

namespace OutputBuffer

@[simp] theorem bytes_clear (b : OutputBuffer) : b.clear.bytes = .empty := rfl

@[simp] theorem bytes_extend (b : OutputBuffer) (more : ByteArray) :
    (b.extend more).bytes = b.bytes ++ more := rfl

theorem bytes_of_reserve {b out : OutputBuffer} {target bound : Nat}
    (h : b.reserve target bound = .ok out) : out.bytes = b.bytes := by
  unfold reserve at h
  split at h
  · cases h
  · cases h
    rfl

theorem error_of_reserve {b : OutputBuffer} {target bound : Nat} {e : PatternError}
    (h : b.reserve target bound = .error e) : e = .outOfMemory := by
  unfold reserve at h
  split at h
  · cases h
    rfl
  · cases h

theorem bytes_of_growFor {b out : OutputBuffer} {required bound : Nat}
    (h : b.growFor required bound = .ok out) : out.bytes = b.bytes := by
  unfold growFor at h
  split at h
  · exact bytes_of_reserve h
  · cases h
    rfl

theorem error_of_growFor {b : OutputBuffer} {required bound : Nat} {e : PatternError}
    (h : b.growFor required bound = .error e) : e = .outOfMemory := by
  unfold growFor at h
  split at h
  · exact error_of_reserve h
  · cases h

theorem bytes_of_growExact {b out : OutputBuffer} {required bound : Nat}
    (h : b.growExact required bound = .ok out) : out.bytes = b.bytes := by
  unfold growExact at h
  split at h
  · exact bytes_of_reserve h
  · cases h
    rfl

theorem error_of_growExact {b : OutputBuffer} {required bound : Nat} {e : PatternError}
    (h : b.growExact required bound = .error e) : e = .outOfMemory := by
  unfold growExact at h
  split at h
  · exact error_of_reserve h
  · cases h

end OutputBuffer

namespace Template

/-- The expansion of a template for one match. -/
def expansion (t : Template) (subject : ByteArray) (offsets : MatchOffsets)
    (matchCount : Nat) : ByteArray :=
  t.tokens.foldr (fun token rest => t.tokenBytes subject offsets matchCount token ++ rest) .empty

@[simp] theorem bytes_expandInto (t : Template) (out : OutputBuffer) (subject : ByteArray)
    (offsets : MatchOffsets) (matchCount : Nat) :
    (t.expandInto out subject offsets matchCount).bytes =
      out.bytes ++ t.expansion subject offsets matchCount := by
  unfold expandInto expansion
  generalize t.tokens = tokens
  induction tokens generalizing out with
  | nil => simp
  | cons token tokens ih =>
    rw [List.foldl_cons, List.foldr_cons, ih, OutputBuffer.bytes_extend, ByteArray.append_assoc]

end Template

end PerlPattern
