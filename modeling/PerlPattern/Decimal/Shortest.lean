/-! # Shortest decimal text of a floating-point number

A finite double is `m * 2 ^ q`. Among the decimals that lie in the interval of
reals rounding to it, the text shows one with the fewest digits, and of those
the nearest one, the greater of two that are equally near. The text is positional throughout: no exponent is ever written.
-/

namespace PerlPattern.Decimal

/-- The digits of a positive number and the power of ten of the last one. -/
structure Scaled where
  digits : Nat
  exponent : Int
  deriving Repr, DecidableEq

/-- A finite double taken apart: its sign, `m` and `q`, and whether the next smaller double is only
half as far away as the next greater one. -/
structure Binary where
  negative : Bool
  mantissa : Nat
  exponent : Int
  narrowBelow : Bool
  deriving Repr, DecidableEq

inductive Number where
  | nan
  | infinite (negative : Bool)
  | finite (b : Binary)
  deriving Repr, DecidableEq

def Number.ofBits (bits : UInt64) : Number :=
  let n := bits.toNat
  let negative := Nat.pow 2 63 ≤ n
  let biased := n / Nat.pow 2 52 % Nat.pow 2 11
  let fraction := n % Nat.pow 2 52
  if biased = 2047 then if fraction = 0 then .infinite negative else .nan
  else if biased = 0 then .finite ⟨negative, fraction, -1074, false⟩
  else
    let mantissa := Nat.pow 2 52 + fraction
    .finite ⟨negative, mantissa, Int.ofNat biased - 1075, decide (fraction = 0 ∧ 1 < biased)⟩

/-- The interval of a double in units of `2 ^ (q - 2)`: lower end, value, upper end. -/
def Binary.interval (b : Binary) : Nat × Nat × Nat :=
  (4 * b.mantissa - (if b.narrowBelow then 1 else 2), 4 * b.mantissa, 4 * b.mantissa + 2)

/-- Compares `a * 2 ^ p` with `d * 10 ^ e` by clearing negative powers. -/
def compareScaled (a : Nat) (p : Int) (d : Nat) (e : Int) : Ordering :=
  let left := a * Nat.pow 2 p.toNat * Nat.pow 10 (-e).toNat
  let right := d * Nat.pow 10 e.toNat * Nat.pow 2 (-p).toNat
  compare left right

def floorScaled (a : Nat) (p : Int) (e : Int) : Nat :=
  (a * Nat.pow 2 p.toNat * Nat.pow 10 (-e).toNat) / (Nat.pow 10 e.toNat * Nat.pow 2 (-p).toNat)

/-- Does `d * 10 ^ e` round to the double? The ends do if the mantissa is even. -/
def Binary.roundsHere (b : Binary) (d : Nat) (e : Int) : Bool :=
  let (low, _, high) := b.interval
  let p := b.exponent - 2
  let closed := b.mantissa % 2 = 0
  let above := match compareScaled low p d e with
    | .lt => true
    | .eq => closed
    | .gt => false
  let below := match compareScaled high p d e with
    | .gt => true
    | .eq => closed
    | .lt => false
  above && below

/-- Of the two neighbours of the value on the grid of `10 ^ e` that round to the double, the nearer
one; of two equally near, the greater one. -/
def Binary.onGrid? (b : Binary) (e : Int) : Option Nat :=
  let (_, value, _) := b.interval
  let p := b.exponent - 2
  let d := floorScaled value p e
  match decide (d ≠ 0) && b.roundsHere d e, b.roundsHere (d + 1) e with
  | true, false => some d
  | false, true => some (d + 1)
  | true, true =>
    match compareScaled (2 * value) p (2 * d + 1) e with
    | .lt => some d
    | _ => some (d + 1)
  | false, false => none

/-- Tries grids from `10 ^ e` downwards. -/
def Binary.shortestFrom (b : Binary) (e : Int) : Nat → Scaled
  | 0 => ⟨0, 0⟩
  | tries + 1 =>
    match b.onGrid? e with
    | some d => ⟨d, e⟩
    | none => b.shortestFrom (e - 1) tries

/-- The shortest decimal of a positive double; the first grid is too coarse for any double. -/
def Binary.shortest (b : Binary) : Scaled := b.shortestFrom 309 700

/-- Writes digits with the last one at the power `e` of ten, without an exponent. -/
def positional (digits : String) (e : Int) : String :=
  if 0 ≤ e then digits ++ String.ofList (List.replicate e.toNat '0')
  else
    let places := (-e).toNat
    let padded := List.replicate (places + 1 - digits.length) '0' ++ digits.toList
    String.ofList (padded.take (padded.length - places)) ++ "." ++
      String.ofList (padded.drop (padded.length - places))

/-- The text of a double: the fewest digits that read back, never an exponent, and no point in a
whole number. -/
def shortestText (x : Float) : String :=
  match Number.ofBits x.toBits with
  | .nan => "NaN"
  | .infinite negative => if negative then "-inf" else "inf"
  | .finite b =>
    let sign := if b.negative then "-" else ""
    if b.mantissa = 0 then sign ++ "0"
    else
      let s := b.shortest
      sign ++ positional (toString s.digits) s.exponent

end PerlPattern.Decimal
