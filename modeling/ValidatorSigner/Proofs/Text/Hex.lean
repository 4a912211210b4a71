import Mathlib
import ValidatorSigner.Proofs.Sequence
import ValidatorSigner.Text.Blank
import ValidatorSigner.Text.Hex
import ValidatorSigner.Text.Utf8

/-! # What hexadecimal texts mean

A text is read as bytes exactly if it consists of an even number of hexadecimal digits, and the bytes are those
that are written as the same digits in lower case. Otherwise the text is broken: it is of odd length, or has a
first byte that is no digit.
-/
namespace ValidatorSigner.Text
namespace Hex

inductive Digit : Char → Nat → Prop
  | decimal {c : Char} (h : '0' ≤ c ∧ c ≤ '9') : Digit c (c.toNat - '0'.toNat)
  | small {c : Char} (h : 'a' ≤ c ∧ c ≤ 'f') : Digit c (10 + (c.toNat - 'a'.toNat))
  | capital {c : Char} (h : 'A' ≤ c ∧ c ≤ 'F') : Digit c (10 + (c.toNat - 'A'.toNat))

section Digits
variable {c d : Char} {v : Nat} {byte : UInt8}

theorem le_iff_toNat_le : c ≤ d ↔ c.toNat ≤ d.toNat := Char.le_def.trans UInt32.le_iff_toNat_le

/-- Digits by their codes, for arithmetic. -/
theorem digit_iff_code :
    Digit c v ↔ 48 ≤ c.toNat ∧ c.toNat ≤ 57 ∧ v = c.toNat - 48 ∨ 97 ≤ c.toNat ∧ c.toNat ≤ 102 ∧ v = c.toNat - 87 ∨
      65 ≤ c.toNat ∧ c.toNat ≤ 70 ∧ v = c.toNat - 55 := by
  have hzero : '0'.toNat = 48 := rfl
  have hnine : '9'.toNat = 57 := rfl
  have ha : 'a'.toNat = 97 := rfl
  have hf : 'f'.toNat = 102 := rfl
  have hA : 'A'.toNat = 65 := rfl
  have hF : 'F'.toNat = 70 := rfl
  constructor
  · intro h
    cases h with
    | decimal h => rw [le_iff_toNat_le, le_iff_toNat_le] at h; omega
    | small h => rw [le_iff_toNat_le, le_iff_toNat_le] at h; omega
    | capital h => rw [le_iff_toNat_le, le_iff_toNat_le] at h; omega
  · rintro (⟨hlow, hhigh, rfl⟩ | ⟨hlow, hhigh, hv⟩ | ⟨hlow, hhigh, hv⟩)
    · exact .decimal ⟨le_iff_toNat_le.mpr hlow, le_iff_toNat_le.mpr hhigh⟩
    · obtain rfl : v = 10 + (c.toNat - 'a'.toNat) := by omega
      exact .small ⟨le_iff_toNat_le.mpr hlow, le_iff_toNat_le.mpr hhigh⟩
    · obtain rfl : v = 10 + (c.toNat - 'A'.toNat) := by omega
      exact .capital ⟨le_iff_toNat_le.mpr hlow, le_iff_toNat_le.mpr hhigh⟩

theorem Digit.lt (h : Digit c v) : v < 16 := by
  rw [digit_iff_code] at h
  omega

theorem Digit.unique {w : Nat} (hv : Digit c v) (hw : Digit c w) : v = w := by
  rw [digit_iff_code] at hv hw
  omega

theorem isHexDigit_iff : c.isHexDigit = true ↔ ∃ v, Digit c v := by
  have hcode : c.isHexDigit = true ↔
      48 ≤ c.toNat ∧ c.toNat ≤ 57 ∨ 97 ≤ c.toNat ∧ c.toNat ≤ 102 ∨ 65 ≤ c.toNat ∧ c.toNat ≤ 70 := by
    simp [Char.isHexDigit, Char.isDigit, UInt32.le_iff_toNat_le, or_assoc]
  rw [hcode]
  simp only [digit_iff_code]
  constructor
  · rintro (h | h | h)
    · exact ⟨_, .inl ⟨h.1, h.2, rfl⟩⟩
    · exact ⟨_, .inr (.inl ⟨h.1, h.2, rfl⟩)⟩
    · exact ⟨_, .inr (.inr ⟨h.1, h.2, rfl⟩)⟩
  · rintro ⟨v, h⟩
    omega

theorem toNat_toLower (c : Char) :
    c.toLower.toNat = if 65 ≤ c.toNat ∧ c.toNat ≤ 90 then c.toNat + 32 else c.toNat := by
  by_cases h : c.isUpper
  · have hcode : 65 ≤ c.toNat ∧ c.toNat ≤ 90 := by simpa [Char.isUpper, UInt32.le_iff_toNat_le] using h
    rw [Char.toLower_eq_of_isUpper h, if_pos hcode, Char.toNat_ofNat, if_pos (.inl (by omega))]
  · have hcode : ¬ (65 ≤ c.toNat ∧ c.toNat ≤ 90) := by simpa [Char.isUpper, UInt32.le_iff_toNat_le] using h
    rw [Char.toLower_eq_of_not_isUpper h, if_neg hcode]

theorem toNat_digit (h : v < 16) : (digit v).toNat = if v < 10 then 48 + v else 87 + v := by
  rw [digit, Char.toNat_ofNat, if_pos (.inl (by split <;> omega))]

/-- A digit of either case is the written one in lower case. -/
theorem toLower_eq_digit_iff (h : v < 16) : c.toLower = digit v ↔ Digit c v := by
  rw [← Char.toNat_inj, toNat_toLower, toNat_digit h, digit_iff_code]
  split <;> split <;> omega

theorem toLower_digit (h : v < 16) : (digit v).toLower = digit v := by
  rw [← Char.toNat_inj, toNat_toLower, toNat_digit h]
  split <;> split <;> omega

/-- The digits stand in ASCII in the order of their values. -/
theorem digit_lt_digit_iff {w : Nat} (hv : v < 16) (hw : w < 16) : digit v < digit w ↔ v < w := by
  rw [Char.lt_def, UInt32.lt_iff_toNat_lt, Char.toNat_val, Char.toNat_val, toNat_digit hv, toNat_digit hw]
  split <;> split <;> omega

theorem digit_inj {w : Nat} (hv : v < 16) (hw : w < 16) : digit v = digit w ↔ v = w := by
  rw [← Char.toNat_inj, toNat_digit hv, toNat_digit hw]
  split <;> split <;> omega

theorem digitValue?_eq_some_iff : digitValue? byte = some v ↔ Digit (Char.ofNat byte.toNat) v := by
  have hbyte := byte.toNat_lt
  have hcode : (Char.ofNat byte.toNat).toNat = byte.toNat := by
    rw [Char.toNat_ofNat, if_pos (.inl (by omega))]
  rw [digit_iff_code, hcode]
  unfold digitValue?
  dsimp only
  split_ifs with hdecimal hsmall hcapital
  · simp only [Option.some.injEq]; omega
  · simp only [Option.some.injEq]; omega
  · simp only [Option.some.injEq]; omega
  · rw [false_iff]; omega

end Digits

abbrev charOf (byte : UInt8) : Char := Char.ofNat byte.toNat

section Bytes
variable {position : Nat} {text : List UInt8} {bytes : List UInt8} {byte : UInt8} {fault : Fault} {v : Nat}

theorem encode_cons (byte : UInt8) (rest : List UInt8) :
    encode (byte :: rest) = digit (byte.toNat / 16) :: digit (byte.toNat % 16) :: encode rest := rfl

theorem length_encode (bytes : List UInt8) : (encode bytes).length = 2 * bytes.length := by
  induction bytes with
  | nil => rfl
  | cons byte rest ih =>
    rw [encode_cons, List.length_cons, List.length_cons, ih, List.length_cons]
    omega

theorem length_of_map_toLower {digits : List Char} (h : digits.map Char.toLower = encode bytes) :
    digits.length = 2 * bytes.length := by
  rw [← length_encode, ← h, List.length_map]

theorem map_toLower_encode (bytes : List UInt8) : (encode bytes).map Char.toLower = encode bytes := by
  induction bytes with
  | nil => rfl
  | cons byte rest ih =>
    have hbyte := byte.toNat_lt
    rw [encode_cons, List.map_cons, List.map_cons, ih, toLower_digit (by omega), toLower_digit (by omega)]

/-- Bytes are in the order of their digits. -/
theorem encode_lt_encode_iff {other : List UInt8} : encode bytes < encode other ↔ bytes < other := by
  induction bytes generalizing other with
  | nil =>
    cases other with
    | nil => simp [encode]
    | cons byte rest => exact iff_of_true .nil .nil
  | cons byte rest ih =>
    cases other with
    | nil => simp [encode]
    | cons byte' rest' =>
      have hbyte := byte.toNat_lt
      have hbyte' := byte'.toNat_lt
      have heq : byte = byte' ↔ byte.toNat / 16 = byte'.toNat / 16 ∧ byte.toNat % 16 = byte'.toNat % 16 := by
        rw [← UInt8.toNat_inj]
        omega
      have hlt : byte < byte' ↔ byte.toNat / 16 < byte'.toNat / 16 ∨
          byte.toNat / 16 = byte'.toNat / 16 ∧ byte.toNat % 16 < byte'.toNat % 16 := by
        rw [UInt8.lt_iff_toNat_lt]
        omega
      -- Two bytes are compared like their high digits, and like their low ones if those are the same.
      rw [encode_cons, encode_cons, List.cons_lt_cons_iff, List.cons_lt_cons_iff, List.cons_lt_cons_iff, ih, heq, hlt]
      rw [digit_lt_digit_iff (by omega) (by omega), digit_lt_digit_iff (by omega) (by omega),
        digit_inj (by omega) (by omega), digit_inj (by omega) (by omega), and_or_left, or_assoc, and_assoc]

theorem readDigit_ok_iff : readDigit byte position = .ok v ↔ Digit (charOf byte) v := by
  rw [← digitValue?_eq_some_iff, readDigit]
  cases digitValue? byte with
  | none => simp
  | some value => simp

theorem readDigit_error_iff :
    readDigit byte position = .error fault ↔ (charOf byte).isHexDigit = false ∧ fault = .badDigit byte position := by
  rw [← Bool.not_eq_true, isHexDigit_iff]
  simp only [← digitValue?_eq_some_iff]
  rw [readDigit]
  cases digitValue? byte with
  | none => simp [eq_comm]
  | some value => simp

theorem decodeFrom_cons_cons_ok_iff {high low : UInt8} {rest : List UInt8} :
    decodeFrom position (high :: low :: rest) = .ok bytes ↔
      ∃ h, Digit (charOf high) h ∧ ∃ l, Digit (charOf low) l ∧ ∃ tail, decodeFrom (position + 2) rest = .ok tail ∧
        bytes = UInt8.ofNat (16 * h + l) :: tail := by
  rw [decodeFrom]
  simp only [bind_ok_iff, readDigit_ok_iff, pure, Except.pure, Except.ok.injEq, eq_comm (a := bytes)]

theorem decodeFrom_cons_cons_error_iff {high low : UInt8} {rest : List UInt8} :
    decodeFrom position (high :: low :: rest) = .error fault ↔
      (charOf high).isHexDigit = false ∧ fault = .badDigit high position ∨
      (charOf high).isHexDigit = true ∧ ((charOf low).isHexDigit = false ∧ fault = .badDigit low (position + 1) ∨
      (charOf low).isHexDigit = true ∧ decodeFrom (position + 2) rest = .error fault) := by
  rw [decodeFrom]
  simp only [bind_error_iff, readDigit_error_iff, readDigit_ok_iff, pure, Except.pure, reduceCtorEq, and_false,
    exists_false, or_false, exists_and_right, ← isHexDigit_iff]

/-- The halves of a byte are the values of its two digits. -/
theorem digits_of_byte_iff {c d : Char} {h l : Nat} (hc : Digit c h) (hd : Digit d l) :
    byte = UInt8.ofNat (16 * h + l) ↔ h = byte.toNat / 16 ∧ l = byte.toNat % 16 := by
  have hh := hc.lt
  have hl := hd.lt
  have hbyte := byte.toNat_lt
  rw [← UInt8.toNat_inj, UInt8.toNat_ofNat', Nat.mod_eq_of_lt (by omega)]
  omega

/-- Bytes are read off the digits that they are written as, in either case. -/
theorem decodeFrom_ok_iff :
    decodeFrom position text = .ok bytes ↔ (text.map charOf).map Char.toLower = encode bytes := by
  -- The induction takes two digits at a time, as reading does.
  fun_induction decodeFrom position text generalizing bytes with
  | case1 position high low rest ih =>
    have hpair := @decodeFrom_cons_cons_ok_iff position bytes high low rest
    rw [decodeFrom] at hpair
    rw [hpair]
    simp only [ih, List.map_cons]
    constructor
    · rintro ⟨h, hhigh, l, hlow, tail, htail, rfl⟩
      obtain ⟨hh, hl⟩ := (digits_of_byte_iff hhigh hlow).mp rfl
      rw [encode_cons, ← htail, ← hh, ← hl, (toLower_eq_digit_iff hhigh.lt).mpr hhigh,
        (toLower_eq_digit_iff hlow.lt).mpr hlow]
    · intro h
      cases bytes with
      | nil => cases h
      | cons byte tail =>
        have hbyte := byte.toNat_lt
        rw [encode_cons, List.cons.injEq, List.cons.injEq, toLower_eq_digit_iff (by omega),
          toLower_eq_digit_iff (by omega)] at h
        obtain ⟨hhigh, hlow, htail⟩ := h
        exact ⟨_, hhigh, _, hlow, tail, htail, by rw [← (digits_of_byte_iff hhigh hlow).mpr ⟨rfl, rfl⟩]⟩
  | case2 position byte =>
    constructor
    · intro h
      cases h
    · intro h
      have hodd := length_of_map_toLower h
      rw [List.length_map, List.length_singleton] at hodd
      omega
  | case3 position =>
    cases bytes with
    | nil => simp [encode]
    | cons byte tail => simp [encode_cons]

inductive Broken (text : List UInt8) : Fault → Prop
  | oddLength (h : text.length % 2 = 1) : Broken text .oddLength
  | badDigit {before after : List UInt8} {byte : UInt8} (heven : text.length % 2 = 0)
      (hsplit : text = before ++ byte :: after) (hbefore : ∀ other ∈ before, (charOf other).isHexDigit = true)
      (h : (charOf byte).isHexDigit = false) : Broken text (.badDigit byte before.length)

/-- Digits are read up to the first byte that is none. -/
theorem decodeFrom_error_iff (heven : text.length % 2 = 0) :
    decodeFrom position text = .error fault ↔
      ∃ before byte after, text = before ++ byte :: after ∧ (∀ other ∈ before, (charOf other).isHexDigit = true) ∧
        (charOf byte).isHexDigit = false ∧ fault = .badDigit byte (position + before.length) := by
  fun_induction decodeFrom position text with
  | case1 position high low rest ih =>
    have hpair := @decodeFrom_cons_cons_error_iff position fault high low rest
    rw [decodeFrom] at hpair
    have hrest : rest.length % 2 = 0 := by
      rw [List.length_cons, List.length_cons] at heven
      omega
    have hplace (before : List UInt8) : position + 2 + before.length = position + (before.length + 1 + 1) := by omega
    rw [hpair, ih hrest]
    constructor
    · rintro (⟨hhigh, rfl⟩ | ⟨hhigh, ⟨hlow, rfl⟩ | ⟨hlow, before, byte, after, rfl, hbefore, hbyte, rfl⟩⟩)
      · exact ⟨[], high, low :: rest, rfl, nofun, hhigh, rfl⟩
      · exact ⟨[high], low, rest, rfl, by simpa using hhigh, hlow, rfl⟩
      · refine ⟨high :: low :: before, byte, after, rfl, by simpa using ⟨hhigh, hlow, hbefore⟩, hbyte, ?_⟩
        rw [List.length_cons, List.length_cons, hplace]
    · rintro ⟨before, byte, after, hsplit, hbefore, hbyte, rfl⟩
      -- The first bad byte is one of the two that are read first, or comes after them.
      rcases before with _ | ⟨first, _ | ⟨second, before⟩⟩
      · obtain ⟨rfl, -⟩ := List.cons.inj hsplit
        exact .inl ⟨hbyte, rfl⟩
      · simp only [List.cons_append, List.nil_append, List.cons.injEq] at hsplit
        obtain ⟨rfl, rfl, -⟩ := hsplit
        exact .inr ⟨hbefore high (by simp), .inl ⟨hbyte, rfl⟩⟩
      · simp only [List.cons_append, List.cons.injEq] at hsplit
        obtain ⟨rfl, rfl, rfl⟩ := hsplit
        refine .inr ⟨hbefore high (by simp), .inr ⟨hbefore low (by simp), before, byte, after, rfl, ?_, hbyte, ?_⟩⟩
        · exact fun other ho => hbefore other (by simp [ho])
        · rw [List.length_cons, List.length_cons, hplace]
  | case2 position byte => simp at heven
  | case3 position => simp

theorem decode_ok_iff : decode text = .ok bytes ↔ (text.map charOf).map Char.toLower = encode bytes := by
  rw [decode]
  split
  · rename_i hodd
    constructor
    · intro h
      cases h
    · intro h
      have hlength := length_of_map_toLower h
      rw [List.length_map] at hlength
      omega
  · exact decodeFrom_ok_iff

theorem decode_error_iff : decode text = .error fault ↔ Broken text fault := by
  rw [decode]
  split
  · rename_i hodd
    constructor
    · intro h
      cases h
      exact .oddLength hodd
    · intro h
      cases h with
      | oddLength _ => rfl
      | badDigit heven => omega
  · rename_i hodd
    have heven : text.length % 2 = 0 := by omega
    rw [decodeFrom_error_iff heven]
    constructor
    · rintro ⟨before, byte, after, hsplit, hbefore, hbyte, rfl⟩
      rw [Nat.zero_add]
      exact .badDigit heven hsplit hbefore hbyte
    · intro h
      cases h with
      | oddLength h => omega
      | badDigit _ hsplit hbefore hbyte => exact ⟨_, _, _, hsplit, hbefore, hbyte, by rw [Nat.zero_add]⟩

end Bytes

def InPairs (digits : List Char) : Prop := digits.length % 2 = 0 ∧ ∀ c ∈ digits, c.isHexDigit = true

section Texts
variable {c : Char} {digits : List Char} {bytes : List UInt8} {fault : Fault}

theorem toNat_lt_of_isHexDigit (h : c.isHexDigit = true) : c.toNat < 128 := by
  obtain ⟨v, hv⟩ := isHexDigit_iff.mp h
  rw [digit_iff_code] at hv
  omega

theorem isBlank_of_isHexDigit (h : c.isHexDigit = true) : isBlank c = false := by
  obtain ⟨v, hv⟩ := isHexDigit_iff.mp h
  rw [digit_iff_code] at hv
  simp only [isBlank, Bool.or_eq_false_iff, Bool.and_eq_false_iff, decide_eq_false_iff_not, beq_eq_false_iff_ne]
  omega

theorem utf8EncodeChar_ascii (h : c.toNat < 128) : String.utf8EncodeChar c = [UInt8.ofNat c.toNat] := by
  have hle : c.val.toNat ≤ 127 := by
    rw [Char.toNat_val]
    omega
  rw [String.utf8EncodeChar, if_pos hle, Char.toNat_val]

theorem charOf_ascii (h : c.toNat < 128) : charOf (UInt8.ofNat c.toNat) = c := by
  rw [charOf, UInt8.toNat_ofNat', Nat.mod_eq_of_lt (by omega), Char.ofNat_toNat]

/-- The bytes of a character beyond ASCII all lie beyond it. -/
theorem le_of_mem_utf8EncodeChar (h : ¬ c.toNat < 128) {byte : UInt8} (hb : byte ∈ String.utf8EncodeChar c) :
    128 ≤ byte.toNat := by
  have hgt : ¬ c.val.toNat ≤ 127 := by
    rw [Char.toNat_val]
    omega
  rw [String.utf8EncodeChar, if_neg hgt] at hb
  split_ifs at hb
  · simp only [List.mem_cons, List.not_mem_nil, or_false] at hb
    rcases hb with rfl | rfl <;> rw [UInt8.toNat_ofNat'] <;> omega
  · simp only [List.mem_cons, List.not_mem_nil, or_false] at hb
    rcases hb with rfl | rfl | rfl <;> rw [UInt8.toNat_ofNat'] <;> omega
  · simp only [List.mem_cons, List.not_mem_nil, or_false] at hb
    rcases hb with rfl | rfl | rfl | rfl <;> rw [UInt8.toNat_ofNat'] <;> omega

theorem mem_utf8Bytes_iff {byte : UInt8} :
    byte ∈ utf8Bytes (.ofList digits) ↔ ∃ c ∈ digits, byte ∈ String.utf8EncodeChar c := by
  rw [utf8Bytes, String.toList_ofList, List.mem_flatMap]

theorem map_charOf_utf8Bytes (h : ∀ c ∈ digits, c.isHexDigit = true) :
    (utf8Bytes (.ofList digits)).map charOf = digits := by
  rw [utf8Bytes, String.toList_ofList]
  induction digits with
  | nil => rfl
  | cons c rest ih =>
    obtain ⟨hc, hrest⟩ := List.forall_mem_cons.mp h
    have hascii := toNat_lt_of_isHexDigit hc
    rw [List.flatMap_cons, utf8EncodeChar_ascii hascii, List.map_append, ih hrest, List.map_singleton,
      charOf_ascii hascii, List.singleton_append]

/-- A text whose bytes are all digits has no other characters. -/
theorem forall_utf8Bytes_iff :
    (∀ byte ∈ utf8Bytes (.ofList digits), (charOf byte).isHexDigit = true) ↔ ∀ c ∈ digits, c.isHexDigit = true := by
  constructor
  · intro h c hc
    obtain ⟨byte, hbyte⟩ := List.exists_mem_of_ne_nil _ (@String.utf8EncodeChar_ne_nil c)
    have hdigit := h byte (mem_utf8Bytes_iff.mpr ⟨c, hc, hbyte⟩)
    by_cases hascii : c.toNat < 128
    · rw [utf8EncodeChar_ascii hascii, List.mem_singleton] at hbyte
      rwa [hbyte, charOf_ascii hascii] at hdigit
    · -- Beyond ASCII there are only bytes from 128 on, and none of those is a digit.
      have hsmall := toNat_lt_of_isHexDigit hdigit
      have hlarge := le_of_mem_utf8EncodeChar hascii hbyte
      have hbound := byte.toNat_lt
      rw [charOf, Char.toNat_ofNat, if_pos (.inl (by omega))] at hsmall
      omega
  · intro h byte hbyte
    have hmem := List.mem_map_of_mem (f := charOf) hbyte
    rw [map_charOf_utf8Bytes h] at hmem
    exact h _ hmem

/-- Only digits become digits in lower case. -/
theorem isHexDigit_of_map_toLower (h : digits.map Char.toLower = encode bytes) : ∀ c ∈ digits, c.isHexDigit = true := by
  intro c hc
  have hmem := List.mem_map_of_mem (f := Char.toLower) hc
  rw [h, encode, List.mem_flatMap] at hmem
  obtain ⟨byte, -, hbyte⟩ := hmem
  have hbound := byte.toNat_lt
  simp only [encodeByte, List.mem_cons, List.not_mem_nil, or_false] at hbyte
  rcases hbyte with hhigh | hlow
  · exact isHexDigit_iff.mpr ⟨_, (toLower_eq_digit_iff (by omega)).mp hhigh⟩
  · exact isHexDigit_iff.mpr ⟨_, (toLower_eq_digit_iff (by omega)).mp hlow⟩

/-- A text is read as the bytes that are written as the same digits in lower case. -/
theorem decode_utf8Bytes_ok_iff :
    decode (utf8Bytes (.ofList digits)) = .ok bytes ↔ digits.map Char.toLower = encode bytes := by
  rw [decode_ok_iff]
  constructor
  · intro h
    have hbytes := isHexDigit_of_map_toLower h
    have hdigits := forall_utf8Bytes_iff.mp fun byte hb => hbytes _ (List.mem_map_of_mem hb)
    rwa [map_charOf_utf8Bytes hdigits] at h
  · intro h
    rwa [map_charOf_utf8Bytes (isHexDigit_of_map_toLower h)]

theorem exists_encode_iff : (∃ bytes, digits.map Char.toLower = encode bytes) ↔ InPairs digits := by
  constructor
  · rintro ⟨bytes, h⟩
    have hlength := length_of_map_toLower h
    exact ⟨by omega, isHexDigit_of_map_toLower h⟩
  · rintro ⟨heven, hdigits⟩
    -- Such a text is read, since it is not broken.
    cases hread : decode (utf8Bytes (.ofList digits)) with
    | ok bytes => exact ⟨bytes, decode_utf8Bytes_ok_iff.mp hread⟩
    | error fault =>
      have hall := forall_utf8Bytes_iff.mpr hdigits
      have hlength := congrArg List.length (map_charOf_utf8Bytes hdigits)
      rw [List.length_map] at hlength
      cases decode_error_iff.mp hread with
      | oddLength hodd => omega
      | badDigit _ hsplit _ hbyte =>
        have hmem := hall _ (hsplit ▸ List.mem_append_right _ List.mem_cons_self)
        rw [hbyte] at hmem
        cases hmem

/-- A text is broken exactly if it does not consist of digits in pairs. -/
theorem exists_broken_iff : (∃ fault, Broken (utf8Bytes (.ofList digits)) fault) ↔ ¬ InPairs digits := by
  rw [← exists_encode_iff]
  simp only [← decode_utf8Bytes_ok_iff, ← decode_error_iff]
  cases decode (utf8Bytes (.ofList digits)) with
  | error fault => simp
  | ok bytes => simp

/-- Digits, most significant first, and the number that they spell. -/
def Spells (digits : List Char) (n : Nat) : Prop :=
  ∃ values, List.Forall₂ Digit digits values ∧ n = Nat.ofDigits 16 values.reverse

theorem Spells.unique {m n : Nat} (hm : Spells digits m) (hn : Spells digits n) : m = n := by
  obtain ⟨values, hvalues, rfl⟩ := hm
  obtain ⟨values', hvalues', rfl⟩ := hn
  have hsame : values = values' := List.right_unique_forall₂' (fun _ _ _ hv hw => hv.unique hw) hvalues hvalues'
  rw [hsame]

theorem Spells.isHexDigit {n : Nat} (h : Spells digits n) : ∀ c ∈ digits, c.isHexDigit = true := by
  obtain ⟨values, hvalues, -⟩ := h
  induction hvalues with
  | nil => simp
  | cons hc _ ih => exact List.forall_mem_cons.mpr ⟨isHexDigit_iff.mpr ⟨_, hc⟩, ih⟩

theorem spells_nil : Spells [] 0 := ⟨[], .nil, rfl⟩

theorem Spells.cons {n : Nat} {v : Nat} (hc : Digit c v) (h : Spells digits n) :
    Spells (c :: digits) (v * 16 ^ digits.length + n) := by
  obtain ⟨values, hvalues, rfl⟩ := h
  refine ⟨v :: values, .cons hc hvalues, ?_⟩
  rw [List.reverse_cons, Nat.ofDigits_append, Nat.ofDigits_singleton, List.length_reverse, ← hvalues.length_eq]
  ring

end Texts
end Hex

/-- What a text is without one leading `0x`, which it need not have. -/
inductive Unmarked : List Char → List Char → Prop
  | marked (digits : List Char) : Unmarked ('0' :: 'x' :: digits) digits
  | bare {digits : List Char} (h : ¬ ['0', 'x'] <+: digits) : Unmarked digits digits

section Marks
variable {chars digits : List Char}

theorem unmarked_iff : Unmarked chars digits ↔ digits = dropHexMark chars := by
  constructor
  · intro h
    cases h with
    | marked => rfl
    | bare h =>
      unfold dropHexMark
      split
      · rename_i rest
        exact absurd ⟨rest, rfl⟩ h
      · rfl
  · rintro rfl
    unfold dropHexMark
    split
    · exact .marked _
    · rename_i hbare
      refine .bare fun ⟨rest, h⟩ => ?_
      exact hbare rest h.symm

theorem exists_unmarked (chars : List Char) : ∃ digits, Unmarked chars digits := ⟨_, unmarked_iff.mpr rfl⟩

/-- Digits have no mark, since `x` is none. -/
theorem dropHexMark_digits (h : ∀ c ∈ digits, c.isHexDigit = true) : dropHexMark digits = digits := by
  refine (unmarked_iff.mp (.bare fun hmark => ?_)).symm
  have hx := h 'x' (hmark.subset (by simp))
  exact absurd hx (by decide)

end Marks
end ValidatorSigner.Text
