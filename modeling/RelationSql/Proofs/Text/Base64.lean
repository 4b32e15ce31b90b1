import RelationSql.Text.Base64
import RelationSql.Text.Blank

/-!
# Base64 texts read back

Writing a byte string in Base64 and reading the text again gives the byte string. The proof follows
the groups of three bytes: a group is a number of 24 bits, cut into bytes on one side and into
six-bit values on the other, and the alphabet names each six-bit value by one character.

* `decodeBytes?_encodeBytes` — on lists of bytes;
* `decode?_trim_encode` — on texts, with white space cut off first: the alphabet has no blanks.
-/

namespace RelationSql.Text.Base64

/-! ## The alphabet -/

/-- Each six-bit value is read back from its character. -/
theorem value?_symbol : ∀ {n : Nat}, n < 64 → value? (symbol n) = some n := by decide

/-- The padding is no character of the alphabet. -/
theorem symbol_ne_padding : ∀ {n : Nat}, n < 64 → symbol n ≠ '=' := by decide

/-- The alphabet has no blanks. -/
theorem isBlank_symbol (n : Nat) : isBlank (symbol n) = false := by
  have hsmall : ∀ k < 64, isBlank (symbol k) = false := by decide
  by_cases hn : n < 64
  · exact hsmall n hn
  · -- numbers that are no six-bit values share the last character
    have hlast : symbol n = symbol 63 := by
      rw [symbol, if_neg (by omega), if_neg (by omega), if_neg (by omega), if_neg (by omega)]
      rfl
    rw [hlast]
    exact hsmall 63 (by decide)

/-! ## Groups -/

/-- A byte is put together from its high six bits and its low two. -/
theorem oneByte?_symbols (a : UInt8) :
    oneByte? (symbol (a.toNat / 4)) (symbol (a.toNat % 4 * 16)) = some [a] := by
  have ha := a.toNat_lt
  rw [oneByte?, value?_symbol (by omega), value?_symbol (by omega)]
  have hlow : a.toNat % 4 * 16 % 16 = 0 := by omega
  have hbyte : a.toNat / 4 * 4 + a.toNat % 4 * 16 / 16 = a.toNat := by omega
  simp only [Option.bind_eq_bind, Option.bind_some, hlow, hbyte, UInt8.ofNat_toNat, if_pos]

/-- Two bytes are put together from three six-bit values. -/
theorem twoBytes?_symbols (a b : UInt8) :
    twoBytes? (symbol (a.toNat / 4)) (symbol (a.toNat % 4 * 16 + b.toNat / 16))
      (symbol (b.toNat % 16 * 4)) = some [a, b] := by
  have ha := a.toNat_lt
  have hb := b.toNat_lt
  rw [twoBytes?, value?_symbol (by omega), value?_symbol (by omega), value?_symbol (by omega)]
  have hlow : b.toNat % 16 * 4 % 4 = 0 := by omega
  have hfirst : a.toNat / 4 * 4 + (a.toNat % 4 * 16 + b.toNat / 16) / 16 = a.toNat := by omega
  have hsecond : (a.toNat % 4 * 16 + b.toNat / 16) % 16 * 16 + b.toNat % 16 * 4 / 4 = b.toNat := by
    omega
  simp only [Option.bind_eq_bind, Option.bind_some, hlow, hfirst, hsecond, UInt8.ofNat_toNat,
    if_pos]

/-- Three bytes are put together from four six-bit values. -/
theorem threeBytes?_symbols (a b c : UInt8) :
    threeBytes? (symbol (a.toNat / 4)) (symbol (a.toNat % 4 * 16 + b.toNat / 16))
      (symbol (b.toNat % 16 * 4 + c.toNat / 64)) (symbol (c.toNat % 64)) = some [a, b, c] := by
  have ha := a.toNat_lt
  have hb := b.toNat_lt
  have hc := c.toNat_lt
  rw [threeBytes?, value?_symbol (by omega), value?_symbol (by omega), value?_symbol (by omega),
    value?_symbol (by omega)]
  have hfirst : a.toNat / 4 * 4 + (a.toNat % 4 * 16 + b.toNat / 16) / 16 = a.toNat := by omega
  have hsecond : (a.toNat % 4 * 16 + b.toNat / 16) % 16 * 16 +
      (b.toNat % 16 * 4 + c.toNat / 64) / 4 = b.toNat := by omega
  have hthird : (b.toNat % 16 * 4 + c.toNat / 64) % 4 * 64 + c.toNat % 64 = c.toNat := by omega
  simp only [Option.bind_eq_bind, Option.bind_some, hfirst, hsecond, hthird, UInt8.ofNat_toNat]

/-- A group whose last character is no padding is read as a full one. -/
theorem decodeBytes?_group {p q r s : Char} (hs : s ≠ '=') (rest : List Char) :
    decodeBytes? (p :: q :: r :: s :: rest) =
      (threeBytes? p q r s).bind fun bytes => (decodeBytes? rest).map (bytes ++ ·) := by
  rw [decodeBytes?.eq_4 p q r s rest (fun _ h _ => hs h) (fun h _ => hs h)]
  simp only [Option.bind_eq_bind, Option.map_eq_bind, Function.comp_def]

/-! ## Texts -/

/-- **Byte strings read back.** -/
theorem decodeBytes?_encodeBytes (bytes : List UInt8) :
    decodeBytes? (encodeBytes bytes) = some bytes := by
  fun_induction encodeBytes bytes with
  | case1 => rfl
  | case2 a => rw [decodeBytes?, oneByte?_symbols]
  | case3 a b =>
    -- a group of two bytes is told from a group of one by its third character
    have hr : symbol (b.toNat % 16 * 4) ≠ '=' := symbol_ne_padding (by omega)
    rw [decodeBytes?, twoBytes?_symbols]
    exact fun h => hr h
  | case4 a b c rest ih =>
    have hs : symbol (c.toNat % 64) ≠ '=' := symbol_ne_padding (by omega)
    rw [decodeBytes?_group hs, threeBytes?_symbols, ih]
    rfl

/-- A Base64 text holds no blanks. -/
theorem isBlank_of_mem_encodeBytes (bytes : List UInt8) :
    ∀ c ∈ encodeBytes bytes, isBlank c = false := by
  have hpad : isBlank '=' = false := by decide
  fun_induction encodeBytes bytes with
  | case1 => simp
  | case2 a => simp [isBlank_symbol, hpad]
  | case3 a b => simp [isBlank_symbol, hpad]
  | case4 a b c rest ih => simpa [isBlank_symbol] using ih

/-- **Texts read back**, as the bytes of their UTF-8 form. -/
theorem decode?_trim_encode (s : String) : decode? (trim (encode s)) = some s.toUTF8 := by
  have hblank := isBlank_of_mem_encodeBytes s.toUTF8.data.toList
  have htrim : trimChars (encodeBytes s.toUTF8.data.toList) = encodeBytes s.toUTF8.data.toList :=
    trimChars_eq_self (fun c hc => hblank c (List.mem_of_head? hc))
      (fun c hc => hblank c (List.mem_of_getLast? hc))
  rw [trim, encode, String.toList_ofList, htrim, decode?, String.toList_ofList,
    decodeBytes?_encodeBytes]
  rfl

/-- The UTF-8 form of a text is read as that text. -/
theorem fromUTF8?_toUTF8 (s : String) : String.fromUTF8? s.toUTF8 = some s := by
  have hvalid : s.toUTF8.IsValidUTF8 := s.isValidUTF8
  rw [String.fromUTF8?, dif_pos hvalid]
  rfl

end RelationSql.Text.Base64
