import DocBrowser.Text.Quoted
/-!
# Bytes and their texts

UTF-8, hexadecimal and base64. Base64 is read strictly: only the alphabet and padding at the end.
-/

namespace DocBrowser.Text

/-! ## UTF-8 -/

/-- The bytes of a character. -/
def encodeChar (c : Char) : List UInt8 :=
  let n := c.toNat
  if n < 0x80 then [n.toUInt8]
  else if n < 0x800 then [(0xC0 + n / 64).toUInt8, (0x80 + n % 64).toUInt8]
  else if n < 0x10000 then
    [(0xE0 + n / 4096).toUInt8, (0x80 + n / 64 % 64).toUInt8, (0x80 + n % 64).toUInt8]
  else
    [(0xF0 + n / 262144).toUInt8, (0x80 + n / 4096 % 64).toUInt8, (0x80 + n / 64 % 64).toUInt8,
      (0x80 + n % 64).toUInt8]

/-- The bytes of a text. -/
def encodeUtf8 (cs : List Char) : List UInt8 := cs.flatMap encodeChar

/-- Whether a byte continues a character, with the bounds that apply to it. -/
def continues (low high : Nat) : List UInt8 → Bool
  | b :: _ => low ≤ b.toNat && b.toNat ≤ high
  | [] => false

/-- The low six bits of the first byte. -/
def tailBits : List UInt8 → Nat
  | b :: _ => b.toNat % 64
  | [] => 0

/--
The character at the head of the bytes and the bytes it takes. Where there is none, the count is
that of the longest start of a character, at least one.
-/
def decodeHead (b : UInt8) (rest : List UInt8) : Option Char × Nat :=
  let n := b.toNat
  let rest₂ := rest.drop 1
  let rest₃ := rest.drop 2
  if n < 0x80 then (some (Char.ofNat n), 1)
  else if n < 0xC2 then (none, 1)
  else if n < 0xE0 then
    if continues 0x80 0xBF rest then (some (Char.ofNat (n % 32 * 64 + tailBits rest)), 2) else (none, 1)
  else if n < 0xF0 then
    let low := if n = 0xE0 then 0xA0 else 0x80
    let high := if n = 0xED then 0x9F else 0xBF
    if !continues low high rest then (none, 1)
    else if !continues 0x80 0xBF rest₂ then (none, 2)
    else (some (Char.ofNat (n % 16 * 4096 + tailBits rest * 64 + tailBits rest₂)), 3)
  else if n < 0xF5 then
    let low := if n = 0xF0 then 0x90 else 0x80
    let high := if n = 0xF4 then 0x8F else 0xBF
    if !continues low high rest then (none, 1)
    else if !continues 0x80 0xBF rest₂ then (none, 2)
    else if !continues 0x80 0xBF rest₃ then (none, 3)
    else
      (some (Char.ofNat (n % 8 * 262144 + tailBits rest * 4096 + tailBits rest₂ * 64 + tailBits rest₃)), 4)
  else (none, 1)

/-- The characters of bytes, `none` standing for each malformed piece. -/
def decodePieces : List UInt8 → List (Option Char)
  | [] => []
  | b :: rest =>
    let (c, count) := decodeHead b rest
    c :: decodePieces (rest.drop (count - 1))
termination_by bytes => bytes.length
decreasing_by simp only [List.length_drop, List.length_cons]; omega

/-- The text of well-formed UTF-8. -/
def decodeUtf8? (bytes : List UInt8) : Option (List Char) := (decodePieces bytes).mapM id

/-- The text of bytes, the replacement character standing for each malformed piece. -/
def decodeUtf8Lossy (bytes : List UInt8) : List Char :=
  (decodePieces bytes).map (·.getD (Char.ofNat 0xFFFD))

/-! ## Hexadecimal -/

/-- Two hexadecimal digits for each byte. -/
def hexOfBytes (bytes : List UInt8) : List Char := bytes.flatMap fun b => hexText 2 b.toNat

/-- The value of a hexadecimal digit. -/
def hexDigit? (c : Char) : Option Nat :=
  let n := c.toNat
  if 48 ≤ n && n ≤ 57 then some (n - 48)
  else if 97 ≤ n && n ≤ 102 then some (n - 87)
  else if 65 ≤ n && n ≤ 70 then some (n - 55)
  else none

/-- The bytes that pairs of hexadecimal digits spell. -/
def bytesOfHex? : List Char → Option (List UInt8)
  | [] => some []
  | [_] => none
  | a :: b :: rest => do
    let high ← hexDigit? a
    let low ← hexDigit? b
    let more ← bytesOfHex? rest
    some ((high * 16 + low).toUInt8 :: more)

/-! ## Base64 -/

/-- The sign of a six-bit number. -/
def base64Char (n : Nat) : Char :=
  if n < 26 then Char.ofNat (65 + n)
  else if n < 52 then Char.ofNat (71 + n)
  else if n < 62 then Char.ofNat (n - 4)
  else if n = 62 then '+' else '/'

/-- The six-bit number of a sign. -/
def base64Value? (c : Char) : Option Nat :=
  let n := c.toNat
  if 65 ≤ n && n ≤ 90 then some (n - 65)
  else if 97 ≤ n && n ≤ 122 then some (n - 71)
  else if 48 ≤ n && n ≤ 57 then some (n + 4)
  else if c = '+' then some 62
  else if c = '/' then some 63
  else none

/-- The padded base64 text of bytes. -/
def base64OfBytes : List UInt8 → List Char
  | [] => []
  | [a] => [base64Char (a.toNat / 4), base64Char (a.toNat % 4 * 16), '=', '=']
  | [a, b] =>
    [base64Char (a.toNat / 4), base64Char (a.toNat % 4 * 16 + b.toNat / 16),
      base64Char (b.toNat % 16 * 4), '=']
  | a :: b :: c :: rest =>
    base64Char (a.toNat / 4) :: base64Char (a.toNat % 4 * 16 + b.toNat / 16) ::
      base64Char (b.toNat % 16 * 4 + c.toNat / 64) :: base64Char (c.toNat % 64) :: base64OfBytes rest

/--
The bytes of base64 text. Bits that a last group leaves over are dropped, and padding behind a
complete text is accepted; a text that starts with padding is not.
-/
def bytesOfBase64? (cs : List Char) : Option (List UInt8) :=
  if cs.head? = some '=' then none else groups cs
where
  /-- Reads groups of four signs. -/
  groups : List Char → Option (List UInt8)
    | [] => some []
    | '=' :: rest => if rest.all (· = '=') then some [] else none
    | [a, b, '=', '='] => do
      let x ← base64Value? a
      let y ← base64Value? b
      some [(x * 4 + y / 16).toUInt8]
    | [a, b, c, '='] => do
      let x ← base64Value? a
      let y ← base64Value? b
      let z ← base64Value? c
      some [(x * 4 + y / 16).toUInt8, (y % 16 * 16 + z / 4).toUInt8]
    | a :: b :: c :: d :: rest => do
      let x ← base64Value? a
      let y ← base64Value? b
      let z ← base64Value? c
      let w ← base64Value? d
      let more ← groups rest
      some ((x * 4 + y / 16).toUInt8 :: (y % 16 * 16 + z / 4).toUInt8 :: (z % 4 * 64 + w).toUInt8 :: more)
    | _ => none

end DocBrowser.Text
