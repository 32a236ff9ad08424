import DocBrowser.Number.Double
/-!
# Shortest decimal text of a double

The digits of a double are the fewest that read back as the same double, and of those the nearest
to it. They are found by trying one, two, … seventeen digits: on each decimal grid only the two
neighbours of the number can be nearest. Numbers from `1e-4` up to `1e16` are written
positionally and always with a fraction, others with an exponent of at least two digits.
-/

namespace DocBrowser.Double

/-- The largest power of ten that does not exceed a positive ratio. -/
def floorLog10 (num den : Nat) : Int :=
  let guess : Int := floorLog2 num den * 30103 / 100000
  let fits (e : Int) : Bool :=
    if 0 ≤ e then den * Nat.pow 10 e.toNat ≤ num else den ≤ num * Nat.pow 10 (-e).toNat
  if fits (guess + 1) then guess + 1 else if fits guess then guess else guess - 1

/-- The magnitude at a place as a ratio. -/
def ratio (place : Nat) : Nat × Nat :=
  let q := exponent place
  if 0 ≤ q then (mantissa place * Nat.pow 2 q.toNat, 1) else (mantissa place, Nat.pow 2 (-q).toNat)

/-- The magnitude at a place as an exact decimal. -/
def exactDecimal (place : Nat) : Nat × Int :=
  let q := exponent place
  if 0 ≤ q then (mantissa place * Nat.pow 2 q.toNat, 0) else (mantissa place * Nat.pow 5 (-q).toNat, q)

/-- Whether a decimal reads back as the double at a place. -/
def readsBack (place coefficient : Nat) (scale : Int) : Bool :=
  match ofDecimal false coefficient scale with
  | .finite _ p => p.val = place
  | _ => false

/-- The nearest decimal of the given scale that reads back as the double at a place. -/
def onGrid (place : Nat) (scale : Int) : Option (Nat × Int) :=
  let (num, den) := ratio place
  let num' := if 0 ≤ scale then num else num * Nat.pow 10 (-scale).toNat
  let den' := if 0 ≤ scale then den * Nat.pow 10 scale.toNat else den
  let low := num' / den'
  let nearer := roundRatio num' den'
  let other := if nearer = low then low + 1 else low
  if readsBack place nearer scale then some (nearer, scale)
  else if readsBack place other scale then some (other, scale)
  else none

/-- The fewest digits that read back as the double at a place, as coefficient and scale. -/
def shortest (place : Nat) : Nat × Int :=
  if place = 0 then (0, 0)
  else
    let (num, den) := ratio place
    let top := floorLog10 num den
    ((List.range 17).findSome? fun (n : Nat) => onGrid place (top - n)).getD (exactDecimal place)

/-- Digits without the zeros at their end, and how many zeros were dropped. -/
def dropZeros (digits : List Char) : List Char × Nat :=
  let kept := (digits.reverse.dropWhile (· == '0')).reverse
  (kept, digits.length - kept.length)

/-- The exponent of ten in a text: a sign and at least two digits. -/
def exponentText (e : Int) : List Char :=
  let digits := Nat.toDigits 10 e.natAbs
  'e' :: (if e < 0 then '-' else '+') :: (if digits.length < 2 then '0' :: digits else digits)

/-- Lays out digits whose first one has the weight `10 ^ top`. -/
def layout (digits : List Char) (top : Int) : List Char :=
  if top < -4 || 16 ≤ top then
    match digits with
    | [] => []
    | [d] => d :: exponentText top
    | d :: rest => d :: '.' :: rest ++ exponentText top
  else if top < 0 then
    '0' :: '.' :: List.replicate (-top - 1).toNat '0' ++ digits
  else
    let whole := top.toNat + 1
    if digits.length ≤ whole then
      digits ++ List.replicate (whole - digits.length) '0' ++ ['.', '0']
    else digits.take whole ++ '.' :: digits.drop whole

/-- The text of the magnitude at a place. -/
def magnitudeText (place : Nat) : List Char :=
  if place = 0 then ['0', '.', '0']
  else
    let (coefficient, scale) := shortest place
    let digits := Nat.toDigits 10 coefficient
    layout (dropZeros digits).1 (scale + digits.length - 1)

/-- The text of a finite double. -/
def finiteText (negative : Bool) (place : Nat) : List Char :=
  if negative then '-' :: magnitudeText place else magnitudeText place

/-- The shortest text of a double; those that are not finite are `inf`, `-inf` and `nan`. -/
def text : Double → List Char
  | .nan => "nan".toList
  | .infinite negative => if negative then "-inf".toList else "inf".toList
  | .finite negative place => finiteText negative place

end DocBrowser.Double
