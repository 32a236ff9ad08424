import Mathlib
import DocBrowser.Proofs.Text.Digits
import DocBrowser.Text.Bytes
import DocBrowser.Value.Basic
/-!
# Bytes read back

Hexadecimal digits, base64 and UTF-8 each give back the bytes or the characters that were written.
-/

namespace DocBrowser.Text

/-! ## Hexadecimal -/

theorem hexDigit?_digitChar : ∀ n < 16, hexDigit? (Nat.digitChar n) = some n := by decide

theorem toNat_lt_of_mem_hexOfBytes {c : Char} {bytes : List UInt8} (h : c ∈ hexOfBytes bytes) : c.toNat < 128 := by
  obtain ⟨b, -, hb⟩ := List.mem_flatMap.1 h
  exact toNat_lt_of_mem_hexText b.toNat_lt hb

theorem bytesOfHex?_hexOfBytes (bytes : List UInt8) : bytesOfHex? (hexOfBytes bytes) = some bytes := by
  induction bytes with
  | nil => rfl
  | cons b rest ih =>
    have hb : b.toNat < 256 := b.toNat_lt
    have hhigh := hexDigit?_digitChar (b.toNat / 16) (by omega)
    have hlow := hexDigit?_digitChar (b.toNat % 16) (by omega)
    have hsum : b.toNat / 16 * 16 + b.toNat % 16 = b.toNat := by omega
    rw [hexOfBytes] at ih ⊢
    rw [List.flatMap_cons, hexText_two hb]
    simp only [List.cons_append, List.nil_append, bytesOfHex?, hhigh, hlow, ih, Option.bind_eq_bind,
      Option.bind_some, hsum]
    simp

/-! ## Base64 -/

theorem base64Value?_base64Char : ∀ n < 64, base64Value? (base64Char n) = some n := by decide

theorem base64Char_ne_pad : ∀ n < 64, base64Char n ≠ '=' := by decide

theorem base64Char_lt : ∀ n < 64, (base64Char n).toNat < 128 := by decide

/-- Three bytes are four groups of six bits. -/
theorem groups_base64 (x y z w : ℕ) (rest : List Char) (hx : x < 64) (hy : y < 64) (hz : z < 64)
    (hw : w < 64) :
    bytesOfBase64?.groups (base64Char x :: base64Char y :: base64Char z :: base64Char w :: rest) =
      (bytesOfBase64?.groups rest).map fun more =>
        (x * 4 + y / 16).toUInt8 :: (y % 16 * 16 + z / 4).toUInt8 :: (z % 4 * 64 + w).toUInt8 :: more := by
  have hxp := base64Char_ne_pad x hx
  have hwp := base64Char_ne_pad w hw
  rw [bytesOfBase64?.groups]
  · simp only [base64Value?_base64Char _ hx, base64Value?_base64Char _ hy, base64Value?_base64Char _ hz,
      base64Value?_base64Char _ hw, Option.bind_eq_bind, Option.bind_some]
    cases bytesOfBase64?.groups rest <;> rfl
  · exact hxp
  · simp_all
  · simp_all

theorem groups_base64OfBytes (bytes : List UInt8) :
    bytesOfBase64?.groups (base64OfBytes bytes) = some bytes := by
  induction bytes using base64OfBytes.induct with
  | case1 => rfl
  | case2 a =>
    -- two signs are padding, and four bits of the second group are zero
    have ha : a.toNat < 256 := a.toNat_lt
    have hx := base64Value?_base64Char (a.toNat / 4) (by omega)
    have hy := base64Value?_base64Char (a.toNat % 4 * 16) (by omega)
    have hxp := base64Char_ne_pad (a.toNat / 4) (by omega)
    rw [base64OfBytes, bytesOfBase64?.groups]
    · simp only [hx, hy, Option.bind_eq_bind, Option.bind_some]
      rw [show a.toNat / 4 * 4 + a.toNat % 4 * 16 / 16 = a.toNat by omega]
      simp
    · exact hxp
  | case3 a b =>
    -- one sign is padding, and two bits of the third group are zero
    have ha : a.toNat < 256 := a.toNat_lt
    have hb : b.toNat < 256 := b.toNat_lt
    have hx := base64Value?_base64Char (a.toNat / 4) (by omega)
    have hy := base64Value?_base64Char (a.toNat % 4 * 16 + b.toNat / 16) (by omega)
    have hz := base64Value?_base64Char (b.toNat % 16 * 4) (by omega)
    have hxp := base64Char_ne_pad (a.toNat / 4) (by omega)
    have hzp := base64Char_ne_pad (b.toNat % 16 * 4) (by omega)
    rw [base64OfBytes, bytesOfBase64?.groups]
    · simp only [hx, hy, hz, Option.bind_eq_bind, Option.bind_some]
      rw [show a.toNat / 4 * 4 + (a.toNat % 4 * 16 + b.toNat / 16) / 16 = a.toNat by omega,
        show (a.toNat % 4 * 16 + b.toNat / 16) % 16 * 16 + b.toNat % 16 * 4 / 4 = b.toNat by omega]
      simp
    · exact hxp
    · exact hzp
  | case4 a b c rest ih =>
    have ha : a.toNat < 256 := a.toNat_lt
    have hb : b.toNat < 256 := b.toNat_lt
    have hc : c.toNat < 256 := c.toNat_lt
    rw [base64OfBytes, groups_base64 _ _ _ _ _ (by omega) (by omega) (by omega) (by omega), ih]
    rw [show a.toNat / 4 * 4 + (a.toNat % 4 * 16 + b.toNat / 16) / 16 = a.toNat by omega,
      show (a.toNat % 4 * 16 + b.toNat / 16) % 16 * 16 + (b.toNat % 16 * 4 + c.toNat / 64) / 4
        = b.toNat by omega,
      show (b.toNat % 16 * 4 + c.toNat / 64) % 4 * 64 + c.toNat % 64 = c.toNat by omega]
    simp

/-- Base64 text starts with no padding. -/
theorem head?_base64OfBytes (bytes : List UInt8) : (base64OfBytes bytes).head? ≠ some '=' := by
  have hne (a : UInt8) : base64Char (a.toNat / 4) ≠ '=' :=
    base64Char_ne_pad _ (by have := a.toNat_lt; omega)
  cases bytes using base64OfBytes.fun_cases <;> simp [base64OfBytes, hne]

theorem bytesOfBase64?_base64OfBytes (bytes : List UInt8) :
    bytesOfBase64? (base64OfBytes bytes) = some bytes := by
  rw [bytesOfBase64?, if_neg (head?_base64OfBytes bytes), groups_base64OfBytes]

theorem base64OfBytes_lt (bytes : List UInt8) : ∀ c ∈ base64OfBytes bytes, c.toNat < 128 := by
  -- three bytes give four characters; one or two bytes left over are padded with `=`
  induction bytes using base64OfBytes.induct with
  | case1 => simp [base64OfBytes]
  | case2 a =>
    have ha : a.toNat < 256 := a.toNat_lt
    simp only [base64OfBytes, List.forall_mem_cons]
    exact ⟨base64Char_lt _ (by omega), base64Char_lt _ (by omega), by decide, by decide, by simp⟩
  | case3 a b =>
    have ha : a.toNat < 256 := a.toNat_lt
    have hb : b.toNat < 256 := b.toNat_lt
    simp only [base64OfBytes, List.forall_mem_cons]
    exact ⟨base64Char_lt _ (by omega), base64Char_lt _ (by omega), base64Char_lt _ (by omega),
      by decide, by simp⟩
  | case4 a b c rest ih =>
    have ha : a.toNat < 256 := a.toNat_lt
    have hb : b.toNat < 256 := b.toNat_lt
    have hc : c.toNat < 256 := c.toNat_lt
    simp only [base64OfBytes, List.forall_mem_cons]
    exact ⟨base64Char_lt _ (by omega), base64Char_lt _ (by omega), base64Char_lt _ (by omega),
      base64Char_lt _ (by omega), ih⟩

/-! ## UTF-8 -/

theorem toNat_toUInt8 {n : ℕ} (h : n < 256) : n.toUInt8.toNat = n := by
  simp [Nat.mod_eq_of_lt h]

/-- Behind the first byte of a character, every byte carries six bits. -/
theorem toNat_continuation (n : ℕ) : (0x80 + n % 64).toUInt8.toNat = 0x80 + n % 64 :=
  toNat_toUInt8 (by omega)

/-- A character is no surrogate. -/
theorem toNat_scalar (c : Char) : c.toNat < 0xD800 ∨ 0xDFFF < c.toNat ∧ c.toNat < 0x110000 := c.valid

/-- The bytes of a character read back as that character, whatever follows. -/
theorem decodePieces_encodeChar (c : Char) (rest : List UInt8) :
    decodePieces (encodeChar c ++ rest) = some c :: decodePieces rest := by
  have hscalar := toNat_scalar c
  have hc : Char.ofNat c.toNat = c := Char.ofNat_toNat c
  simp only [encodeChar]
  -- one case for each number of bytes; the first byte tells the cases apart when they are read
  split_ifs with h1 h2 h3
  · simp only [List.cons_append, List.nil_append, decodePieces, decodeHead,
      toNat_toUInt8 (show c.toNat < 256 by omega), if_pos h1]
    simp [hc]
  · have hlead : (0xC0 + c.toNat / 64).toUInt8.toNat = 0xC0 + c.toNat / 64 := toNat_toUInt8 (by omega)
    simp only [List.cons_append, List.nil_append, decodePieces, decodeHead, hlead, continues, tailBits,
      toNat_continuation]
    rw [if_neg (by omega), if_neg (by omega), if_pos (by omega), if_pos (by simp; omega),
      show (0xC0 + c.toNat / 64) % 32 * 64 + (0x80 + c.toNat % 64) % 64 = c.toNat by omega, hc]
    simp
  · have hlead : (0xE0 + c.toNat / 4096).toUInt8.toNat = 0xE0 + c.toNat / 4096 := toNat_toUInt8 (by omega)
    simp only [List.cons_append, List.nil_append, decodePieces, decodeHead, hlead, continues, tailBits,
      toNat_continuation, List.drop_succ_cons, List.drop_zero]
    -- the checks against overlong forms and surrogates are passed
    rw [if_neg (by omega), if_neg (by omega), if_neg (by omega), if_pos (by omega),
      if_neg (by simp; split_ifs <;> omega), if_neg (by simp; omega),
      show (0xE0 + c.toNat / 4096) % 16 * 4096 + (0x80 + c.toNat / 64 % 64) % 64 * 64 +
        (0x80 + c.toNat % 64) % 64 = c.toNat by omega, hc]
    simp
  · have hlead : (0xF0 + c.toNat / 262144).toUInt8.toNat = 0xF0 + c.toNat / 262144 :=
      toNat_toUInt8 (by omega)
    simp only [List.cons_append, List.nil_append, decodePieces, decodeHead, hlead, continues, tailBits,
      toNat_continuation, List.drop_succ_cons, List.drop_zero]
    rw [if_neg (by omega), if_neg (by omega), if_neg (by omega), if_neg (by omega), if_pos (by omega),
      if_neg (by simp; split_ifs <;> omega), if_neg (by simp; omega), if_neg (by simp; omega),
      show (0xF0 + c.toNat / 262144) % 8 * 262144 + (0x80 + c.toNat / 4096 % 64) % 64 * 4096 +
        (0x80 + c.toNat / 64 % 64) % 64 * 64 + (0x80 + c.toNat % 64) % 64 = c.toNat by omega, hc]
    simp

theorem decodePieces_encodeUtf8 (cs : List Char) : decodePieces (encodeUtf8 cs) = cs.map some := by
  induction cs with
  | nil => simp [encodeUtf8, decodePieces]
  | cons c rest ih =>
    rw [encodeUtf8] at ih ⊢
    rw [List.flatMap_cons, decodePieces_encodeChar, ih, List.map_cons]

/-- Text written as UTF-8 reads back. -/
theorem decodeUtf8?_encodeUtf8 (cs : List Char) : decodeUtf8? (encodeUtf8 cs) = some cs := by
  have hall : (cs.map some).mapM id = some cs := by
    induction cs with
    | nil => rfl
    | cons c rest ih =>
      simp only [List.map_cons, List.mapM_cons, id, ih]
      rfl
  rw [decodeUtf8?, decodePieces_encodeUtf8, hall]

end DocBrowser.Text

namespace DocBrowser

/-- An identifier reads back from its digits. -/
theorem ObjectId.ofHex?_hex (id : ObjectId) : ObjectId.ofHex? id.hex = some id := by
  rw [ofHex?, hex, Text.bytesOfHex?_hexOfBytes, Option.bind_some, ofBytes?, dif_pos id.length_eq]

/-- Bytes read back from their base64 text, with any subtype. -/
theorem Binary.ofBase64_base64OfBytes (data : List UInt8) (subtype : UInt8) :
    Binary.ofBase64 (String.ofList (Text.base64OfBytes data)) subtype.toNat = .ok (.binary data subtype) := by
  have hascii : ((Text.base64OfBytes data).any fun c => 127 < c.toNat) = false := by
    rw [List.any_eq_false]
    intro c hc
    have := Text.base64OfBytes_lt data c hc
    simp
    omega
  have hbyte : subtype.toNat < 256 := subtype.toNat_lt
  have hsub : Binary.subtype? (subtype.toNat : ℤ) = some subtype := by
    rw [Binary.subtype?, if_pos (by omega)]
    simp
  simp only [Binary.ofBase64, String.toList_ofList, hascii, Text.bytesOfBase64?_base64OfBytes, hsub]
  rfl

end DocBrowser
