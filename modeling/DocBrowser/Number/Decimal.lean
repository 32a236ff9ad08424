import DocBrowser.Text.Digits
import DocBrowser.Number.Shortest
/-!
# Decimal numbers

Decimals keep their digits and their exponent, so `1.0` and `1.00` are two decimals of one value.
A decimal is read from text in any script, underscores ignored, and written in the scientific
form of decimal arithmetic: positional when no zeros need to be added on the right and at most
six on the left of the digits.
-/

namespace DocBrowser

/-- A decimal number, an infinity, or a NaN that may be signaling and may carry a payload. -/
inductive Decimal where
  | finite (negative : Bool) (coefficient : Nat) (exponent : Int)
  | infinite (negative : Bool)
  | nan (negative signaling : Bool) (payload : Nat)
  deriving DecidableEq, Repr, Inhabited

namespace Decimal

/-- The largest exponent that the first digit of a decimal may have. -/
def maxExponent : Int := 999999999999999999

/-- The smallest exponent that the last digit of a decimal may have. -/
def minExponent : Int := -1999999999999999997

/-- The exponent of ten of the first digit; that of a zero is its own. -/
def topExponent (coefficient : Nat) (exponent : Int) : Int :=
  if coefficient = 0 then exponent else exponent + (Nat.toDigits 10 coefficient).length - 1

/-- Whether the digits of a decimal lie between the bounds. -/
def InRange : Decimal → Prop
  | .finite _ coefficient exponent =>
    topExponent coefficient exponent ≤ maxExponent ∧ minExponent ≤ exponent
  | _ => True

/-! ## Reading -/

/-- A character of a number in ASCII lower case; `none` for characters that no number has. -/
def plain? (c : Char) : Option Char :=
  if c.toNat < 128 then some c.toLower
  else (decimal c).map fun d => Char.ofNat (48 + d)
where
  /-- The value of a digit of any script. -/
  decimal (c : Char) : Option Nat := Text.decimalValue? c

/-- The characters of a number: white space around it and underscores are dropped. -/
def plainText? (cs : List Char) : Option (List Char) :=
  ((Text.trim cs).filter (· ≠ '_')).mapM plain?

/-- The values of a text of ASCII digits alone. -/
def digits? (cs : List Char) : Option (List Nat) :=
  cs.mapM fun c => if c.isDigit then some (c.toNat - 48) else none

/-- Reads the exponent part: nothing, or `e`, a sign and digits. -/
def readExponent? : List Char → Option Int
  | [] => some 0
  | 'e' :: rest =>
    let (negative, ds) := Text.takeSign rest
    if ds = [] then none
    else (digits? ds).map fun ds => Text.signed negative (Text.ofDigitValues 10 ds)
  | _ => none

/-- Splits a point and the digits behind it off a text. -/
def takeFraction : List Char → List Char × List Char
  | '.' :: rest => (rest.takeWhile Char.isDigit, rest.dropWhile Char.isDigit)
  | cs => ([], cs)

/-- A finite decimal whose exponent is in range. -/
def bounded? (negative : Bool) (coefficient : Nat) (exponent : Int) : Option Decimal :=
  if topExponent coefficient exponent ≤ maxExponent ∧ minExponent ≤ exponent then
    some (.finite negative coefficient exponent)
  else none

/-- Reads digits with at most one point, then an exponent. -/
def readFinite? (negative : Bool) (cs : List Char) : Option Decimal :=
  let whole := cs.takeWhile Char.isDigit
  let rest := cs.dropWhile Char.isDigit
  let (fraction, rest) := takeFraction rest
  if whole = [] ∧ fraction = [] then none
  else do
    let ds ← digits? (whole ++ fraction)
    let e ← readExponent? rest
    bounded? negative (Text.ofDigitValues 10 ds) (e - fraction.length)

/-- Reads a number without its sign. -/
def readUnsigned? (negative : Bool) (cs : List Char) : Option Decimal :=
  match cs with
  | 'i' :: 'n' :: 'f' :: rest =>
    if rest = [] || rest = "inity".toList then some (.infinite negative) else none
  | 'n' :: 'a' :: 'n' :: payload =>
    (digits? payload).map fun ds => .nan negative false (Text.ofDigitValues 10 ds)
  | 's' :: 'n' :: 'a' :: 'n' :: payload =>
    (digits? payload).map fun ds => .nan negative true (Text.ofDigitValues 10 ds)
  | _ => readFinite? negative cs

/-- Reads a decimal. -/
def ofText? (cs : List Char) : Option Decimal :=
  (plainText? cs).bind fun plain =>
    let (negative, rest) := Text.takeSign plain
    readUnsigned? negative rest

/-! ## Writing -/

/-- The text of the exponent: its sign is always written. -/
def exponentText (e : Int) : List Char :=
  'E' :: (if e < 0 then '-' else '+') :: Nat.toDigits 10 e.natAbs

/-- The text of a coefficient and an exponent. -/
def finiteText (coefficient : Nat) (exponent : Int) : List Char :=
  let digits := Nat.toDigits 10 coefficient
  let top := exponent + digits.length - 1
  if exponent ≤ 0 ∧ -6 ≤ top then
    let whole := exponent + digits.length
    if exponent = 0 then digits
    else if 0 < whole then digits.take whole.toNat ++ '.' :: digits.drop whole.toNat
    else '0' :: '.' :: List.replicate (-whole).toNat '0' ++ digits
  else
    match digits with
    | d :: [] => d :: exponentText top
    | d :: rest => d :: '.' :: rest ++ exponentText top
    | [] => []

/-- The text of a decimal. -/
def text : Decimal → List Char
  | .finite negative coefficient exponent => sign negative ++ finiteText coefficient exponent
  | .infinite negative => sign negative ++ "Infinity".toList
  | .nan negative signaling payload =>
    sign negative ++ (if signaling then "sNaN".toList else "NaN".toList) ++
      (if payload = 0 then [] else Nat.toDigits 10 payload)
where
  /-- A minus sign for negative numbers. -/
  sign (negative : Bool) : List Char := if negative then ['-'] else []

/-! ## Value -/

/-- Divides a positive coefficient by ten as long as that is exact. -/
def dropZeros (coefficient : Nat) (exponent : Int) : Nat × Int :=
  if h : coefficient ≠ 0 ∧ coefficient % 10 = 0 then dropZeros (coefficient / 10) (exponent + 1)
  else (coefficient, exponent)
termination_by coefficient
decreasing_by omega

/-- A number up to its spelling: sign, digits without zeros at the end, exponent. -/
inductive Magnitude where
  | finite (negative : Bool) (coefficient : Nat) (exponent : Int)
  | infinite (negative : Bool)
  deriving DecidableEq, Repr

/-- The one way to write a finite number without zeros at the end. -/
def Magnitude.normal (negative : Bool) (coefficient : Nat) (exponent : Int) : Magnitude :=
  if coefficient = 0 then .finite false 0 0
  else
    let (c, e) := dropZeros coefficient exponent
    .finite negative c e

/-- Whether a decimal is a signaling NaN. -/
def isSignaling : Decimal → Bool
  | .nan _ signaling _ => signaling
  | _ => false

/-- The number that a decimal stands for; `none` for NaN. -/
def magnitude? : Decimal → Option Magnitude
  | .finite negative coefficient exponent => some (.normal negative coefficient exponent)
  | .infinite negative => some (.infinite negative)
  | .nan .. => none

/-- The nearest double; a signaling NaN has none. -/
def toDouble? : Decimal → Option Double
  | .finite negative coefficient exponent => some (.ofDecimal negative coefficient exponent)
  | .infinite negative => some (.infinite negative)
  | .nan _ signaling _ => if signaling then none else some .nan

/-- Whether a decimal is a zero of either sign. -/
def isZero : Decimal → Bool
  | .finite _ coefficient _ => coefficient = 0
  | _ => false

end Decimal

/-- The number that a double stands for; `none` for NaN. -/
def Double.magnitude? : Double → Option Decimal.Magnitude
  | .nan => none
  | .infinite negative => some (.infinite negative)
  | .finite negative place =>
    let (coefficient, exponent) := exactDecimal place
    some (.normal negative coefficient exponent)

/-! ## Doubles from free text -/

/--
Reads a double from text: white space around it is dropped, single underscores may separate digits,
and infinities and NaN have their names in either case.
-/
def Double.ofText? (cs : List Char) : Option Double := do
  let plain ← (Text.trimNumber cs).mapM Decimal.plain?
  let plain ← dropUnderscores plain
  let (negative, rest) := Text.takeSign plain
  if rest = "inf".toList || rest = "infinity".toList then some (.infinite negative)
  else if rest = "nan".toList then some .nan
  else
    let whole := rest.takeWhile Char.isDigit
    let rest := rest.dropWhile Char.isDigit
    let (fraction, rest) := Decimal.takeFraction rest
    if whole = [] ∧ fraction = [] then none
    else
      let ds ← Decimal.digits? (whole ++ fraction)
      let e ← Decimal.readExponent? rest
      some (.ofDecimal negative (Text.ofDigitValues 10 ds) (e - fraction.length))
where
  /-- Drops underscores that stand between two digits; any other one spoils the text. -/
  dropUnderscores : List Char → Option (List Char)
    | [] => some []
    | '_' :: _ => none
    | c :: '_' :: d :: rest =>
      if c.isDigit && d.isDigit then (dropUnderscores (d :: rest)).map (c :: ·) else none
    | [_, '_'] => none
    | c :: rest => (dropUnderscores rest).map (c :: ·)

end DocBrowser
