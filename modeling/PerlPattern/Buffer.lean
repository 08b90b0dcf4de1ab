import PerlPattern.Offsets

/-! # Output buffers

A buffer holds the bytes written and the number of bytes reserved for them.
Reserving follows a fixed rule and is the only step that can fail: a request
for more than `bound` bytes is refused. Writing keeps the reserved number above
the length.
-/

namespace PerlPattern

structure OutputBuffer where
  bytes : ByteArray := .empty
  capacity : Nat := 0

namespace OutputBuffer

instance : Inhabited OutputBuffer := ⟨{}⟩

def size (b : OutputBuffer) : Nat := b.bytes.size

def isEmpty (b : OutputBuffer) : Bool := b.size == 0

/-- Drops the bytes written; what is reserved stays. -/
def clear (b : OutputBuffer) : OutputBuffer := { b with bytes := .empty }

def reserve (b : OutputBuffer) (target bound : Nat) : Result OutputBuffer :=
  if bound < target then .error .outOfMemory else .ok { b with capacity := target }

/-- Makes room for `required` bytes and one more, with space to grow. -/
def growFor (b : OutputBuffer) (required bound : Nat) : Result OutputBuffer :=
  if b.capacity < required + 1 then b.reserve (b.capacity + 2 * required + 1) bound else .ok b

/-- Makes room for `required` bytes and one more. -/
def growExact (b : OutputBuffer) (required bound : Nat) : Result OutputBuffer :=
  if b.capacity < required + 1 then b.reserve (required + 1) bound else .ok b

/-- An empty buffer with `capacity` bytes reserved, but at least one. -/
def ofCapacity (capacity bound : Nat) : Result OutputBuffer := growExact {} (capacity - 1) bound

/-- The largest number that counts bytes. -/
def maxWord : Nat := Nat.pow 2 64 - 1

/-- The product of two numbers of bytes, which stops at the largest one. -/
def wordMul (m n : Nat) : Nat := min (m * n) maxWord

def extend (b : OutputBuffer) (more : ByteArray) : OutputBuffer where
  bytes := b.bytes ++ more
  capacity := max b.capacity (b.size + more.size + 1)

end OutputBuffer

end PerlPattern
