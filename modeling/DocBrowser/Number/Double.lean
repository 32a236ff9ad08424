/-!
# Double-precision numbers

A double is stored by its place among the doubles of its sign: the magnitudes, zero first, are
numbered in ascending order, so comparing places compares numbers. The magnitude at a place is
`mantissa * 2 ^ exponent`, and rounding a ratio to the nearest double (ties to the even mantissa)
is exact integer arithmetic.
-/

namespace DocBrowser

/-- The number of doubles from one power of two up to the next, which is 2 to the power of 52. -/
abbrev Double.binade : Nat := 0x10000000000000

/-- The number of magnitudes, which fill 2047 times the room between two powers of two. -/
abbrev Double.places : Nat := 0x7FF0000000000000

/-- A number in the 64-bit binary format; all NaNs are one. -/
inductive Double where
  | nan
  | infinite (negative : Bool)
  | finite (negative : Bool) (place : Fin Double.places)
  deriving DecidableEq, Repr, Inhabited

namespace Double

/-- Zero without a sign. -/
def zero : Double := .finite false 0

/-! ## Magnitudes -/

/-- The mantissa of the magnitude at a place. -/
def mantissa (place : Nat) : Nat :=
  if place < binade then place else binade + place % binade

/-- The exponent of two of the magnitude at a place. -/
def exponent (place : Nat) : Int :=
  if place < binade then -1074 else (place / binade : Nat) - 1075

/-- The nearest natural to a ratio; a half goes to the even neighbour. -/
def roundRatio (num den : Nat) : Nat :=
  let q := num / den
  let r := num % den
  if 2 * r < den then q else if den < 2 * r then q + 1 else q + q % 2

/-- The largest exponent of two that does not exceed a positive ratio. -/
def floorLog2 (num den : Nat) : Int :=
  let k : Int := (Nat.log2 num : Int) - Nat.log2 den
  if (if 0 ≤ k then den * Nat.pow 2 k.toNat ≤ num else den ≤ num * Nat.pow 2 (-k).toNat) then k else k - 1

/-- The place of the double nearest to a positive ratio, not yet bounded by the largest double. -/
def nearestPlace (num den : Nat) : Nat :=
  let q := max (floorLog2 num den - 52) (-1074)
  let m := if 0 ≤ q then roundRatio num (den * Nat.pow 2 q.toNat) else roundRatio (num * Nat.pow 2 (-q).toNat) den
  (q + 1074).toNat * binade + m

/-- The double at a place, infinite past the last one. -/
def ofPlace (negative : Bool) (place : Nat) : Double :=
  if h : place < places then .finite negative ⟨place, h⟩ else .infinite negative

/-- The double nearest to `num / den`, with the sign given apart. -/
def ofRatio (negative : Bool) (num den : Nat) : Double :=
  if num = 0 then .finite negative 0 else ofPlace negative (nearestPlace num den)

/--
The double nearest to `coefficient * 10 ^ scale`. Exponents far outside the range are answered
without writing the power of ten out.
-/
def ofDecimal (negative : Bool) (coefficient : Nat) (scale : Int) : Double :=
  if coefficient = 0 then .finite negative 0
  else if 400 < scale then .infinite negative
  else if scale + Nat.log2 coefficient + 1 < -400 then .finite negative 0
  else if 0 ≤ scale then ofRatio negative (coefficient * Nat.pow 10 scale.toNat) 1
  else ofRatio negative coefficient (Nat.pow 10 (-scale).toNat)

/-! ## Classes and order -/

/-- Whether a double is neither infinite nor NaN. -/
def isFinite : Double → Bool
  | .finite .. => true
  | _ => false

/-- Whether a double is a zero of either sign. -/
def isZero : Double → Bool
  | .finite _ place => place.val = 0
  | _ => false

/-- Whether two stored doubles are the same number: zeros of both signs agree and NaN agrees with itself. That
NaN is the one object which all data spelled `NaN` shares. One that is spelled otherwise is a new object
wherever it is read and agrees with no other; a double does not tell which of the two it is. -/
def same (a b : Double) : Bool :=
  a = b || (a.isZero && b.isZero)

/-- A finite double counted in units of the smallest positive double. -/
def units : Bool → Nat → Int
  | negative, place =>
    let n : Int := mantissa place * Nat.pow 2 (exponent place + 1074).toNat
    if negative then -n else n

end Double

end DocBrowser
