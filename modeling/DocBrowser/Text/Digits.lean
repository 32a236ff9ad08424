import DocBrowser.Text.Blank
import DocBrowser.Text.Letter
/-!
# Numbers written in digits

Reading and writing whole numbers. Digits of any script count; an underscore may stand between two
digits where a reader says so. Conversions of more than 4300 digits are refused.
-/

namespace DocBrowser.Text

/-- The decimal text of a whole number. -/
def intText (n : Int) : List Char :=
  if n < 0 then '-' :: Nat.toDigits 10 n.natAbs else Nat.toDigits 10 n.natAbs

/-- The number that digit values of a base spell. -/
def ofDigitValues (base : Nat) (ds : List Nat) : Nat :=
  ds.foldl (fun n d => n * base + d) 0

/-- The most digits that a conversion of decimal text accepts. -/
def digitLimit : Nat := 4300

/-- Why a text is not a whole number. -/
inductive IntFault where
  | notANumber
  | tooManyDigits (count : Nat)
  deriving DecidableEq, Repr

/-- The number spelled by decimal digits, within the limit. -/
def natOfDigits (ds : List Nat) : Except IntFault Nat :=
  if digitLimit < ds.length then .error (.tooManyDigits ds.length) else .ok (ofDigitValues 10 ds)

/-- The value of a digit below 36 in ASCII letters and the decimal digits of any script. -/
def digitValue? (c : Char) : Option Nat :=
  match decimalValue? c with
  | some d => some d
  | none =>
    let n := c.toNat
    if 97 ≤ n && n ≤ 122 then some (n - 87)
    else if 65 ≤ n && n ≤ 90 then some (n - 55)
    else none

/-- The digit values of a text in which single underscores may separate digits. -/
def spacedDigits? (base : Nat) : List Char → Option (List Nat)
  | [] => none
  | [c] => (digitBelow? c).map ([·])
  | c :: '_' :: rest => (digitBelow? c).bind fun d => (spacedDigits? base rest).map (d :: ·)
  | c :: c' :: rest => (digitBelow? c).bind fun d => (spacedDigits? base (c' :: rest)).map (d :: ·)
where
  /-- A digit of the base. -/
  digitBelow? (c : Char) : Option Nat := (digitValue? c).filter (· < base)

/-- White space around a number: ASCII separators of information do not count. -/
def isNumberBlank (c : Char) : Bool :=
  isBlank c && !(28 ≤ c.toNat && c.toNat ≤ 31)

/-- Drops the white space around a number. -/
def trimNumber (cs : List Char) : List Char :=
  dropEndWhile isNumberBlank (cs.dropWhile isNumberBlank)

/-- Splits an optional sign off a text. -/
def takeSign : List Char → Bool × List Char
  | '-' :: rest => (true, rest)
  | '+' :: rest => (false, rest)
  | cs => (false, cs)

/-- A natural with a sign. -/
def signed (negative : Bool) (n : Nat) : Int := if negative then -(n : Int) else n

/-- Reads a whole decimal number: white space, a sign, digits. -/
def readInt (cs : List Char) : Except IntFault Int :=
  let (negative, digits) := takeSign (trimNumber cs)
  match spacedDigits? 10 digits with
  | none => .error .notANumber
  | some ds => (natOfDigits ds).map (signed negative)

/-- Reads a whole hexadecimal number, with or without `0x` in front. -/
def readHexInt? (cs : List Char) : Option Int :=
  let (negative, digits) := takeSign (trimNumber cs)
  let digits := match digits with
    | '0' :: 'x' :: '_' :: rest | '0' :: 'X' :: '_' :: rest => rest
    | '0' :: 'x' :: rest | '0' :: 'X' :: rest => rest
    | _ => digits
  (spacedDigits? 16 digits).map fun ds => signed negative (ofDigitValues 16 ds)

/-- Whether a text is a sign and decimal digits, with at most a newline behind them. -/
def isIntegerText (cs : List Char) : Bool :=
  let digits := (takeSign cs).2
  let rest := digits.dropWhile isDecimalDigit
  digits.length ≠ rest.length && (rest = [] || rest = ['\n'])

/-- What is said about a conversion that would exceed the digit limit. -/
def tooManyDigitsMessage (count : Nat) : String :=
  s!"Exceeds the limit ({digitLimit} digits) for integer string conversion: value has {count} " ++
    "digits; use sys.set_int_max_str_digits() to increase the limit"

/-- What is said about a number with more digits than the limit, which is not written. -/
def unwrittenMessage : String :=
  s!"Exceeds the limit ({digitLimit} digits) for integer string conversion; " ++
    "use sys.set_int_max_str_digits() to increase the limit"

end DocBrowser.Text
