import ValidatorSigner.FixedBytes.Json
import ValidatorSigner.Proofs.Text.Hex

/-! # The written form of byte strings

A byte string is read from as many pairs of hexadecimal digits as it has bytes, under an optional mark, and from no
other text. It is written as the same digits in lower case, so that reading what was written gives it back.
-/
namespace ValidatorSigner.FixedBytes
open Text (Unmarked dropHexMark unmarked_iff utf8Bytes)
open Text.Hex (InPairs Broken encode)

variable {kind : ByteKind} {value : FixedBytes kind} {text : String} {digits : List Char} {error : BytesError}

theorem ofBytes_ok_iff {bytes : List UInt8} : ofBytes kind bytes = .ok value ↔ bytes = value.toList := by
  unfold ofBytes
  split
  · rw [Except.ok.injEq, FixedBytes.ext_iff]
  · rename_i hlength
    constructor
    · intro h
      cases h
    · rintro rfl
      exact absurd value.length_eq hlength

theorem ofBytes_error_iff {bytes : List UInt8} :
    ofBytes kind bytes = .error error ↔ bytes.length ≠ kind.width ∧ error = .length kind bytes.length := by
  unfold ofBytes
  split
  · rename_i hlength
    simp [hlength]
  · rename_i hlength
    simp [hlength, eq_comm]

theorem ofHex_ok_iff (hd : Unmarked text.toList digits) :
    ofHex kind text = .ok value ↔ digits.map Char.toLower = encode value.toList := by
  obtain rfl := unmarked_iff.mp hd
  rw [← Text.Hex.decode_utf8Bytes_ok_iff, ofHex]
  cases Text.Hex.decode (utf8Bytes (.ofList (dropHexMark text.toList))) with
  | error fault => simp
  | ok bytes => simp [ofBytes_ok_iff]

theorem ofHex_error_iff (hd : Unmarked text.toList digits) :
    ofHex kind text = .error error ↔
      (∃ bytes, digits.map Char.toLower = encode bytes ∧ bytes.length ≠ kind.width ∧
        error = .length kind bytes.length) ∨
      ∃ fault, Broken (utf8Bytes (.ofList digits)) fault ∧ error = .hex kind fault := by
  obtain rfl := unmarked_iff.mp hd
  simp only [← Text.Hex.decode_utf8Bytes_ok_iff, ← Text.Hex.decode_error_iff]
  rw [ofHex]
  cases Text.Hex.decode (utf8Bytes (.ofList (dropHexMark text.toList))) with
  | error fault => simp [eq_comm]
  | ok bytes => simp [ofBytes_error_iff]

theorem ofHex_toHex (value : FixedBytes kind) : ofHex kind value.toHex = .ok value := by
  have hd : Unmarked value.toHex.toList (encode value.toList) := by
    rw [toHex, String.toList_ofList]
    exact .marked _
  exact (ofHex_ok_iff hd).mpr (Text.Hex.map_toLower_encode value.toList)

theorem ofHex_toBareHex (value : FixedBytes kind) : ofHex kind value.toBareHex = .ok value := by
  have hlower := Text.Hex.map_toLower_encode value.toList
  have hd : Unmarked value.toBareHex.toList (encode value.toList) := by
    rw [unmarked_iff, toBareHex, String.toList_ofList,
      Text.dropHexMark_digits (Text.Hex.isHexDigit_of_map_toLower hlower)]
  exact (ofHex_ok_iff hd).mpr hlower

theorem toHex_of_digits (h : digits.map Char.toLower = encode value.toList) :
    value.toHex = "0x" ++ .ofList (digits.map Char.toLower) := by
  rw [h, ← String.toList_inj, toHex, String.toList_append, String.toList_ofList, String.toList_ofList]
  simp

theorem ofJson_text (kind : ByteKind) (text : String) :
    ofJson kind (.text text) = (ofHex kind text).mapError .bytes := by
  rw [ofJson]
  cases ofHex kind text with
  | error error => rfl
  | ok value => rfl

structure Reads (kind : ByteKind) (text : String) (digits : List Char) : Prop where
  accepts : (∃ value, ofHex kind text = .ok value) ↔
    digits.length = 2 * kind.width ∧ ∀ c ∈ digits, c.isHexDigit = true
  /-- What was read is written in lower case. -/
  rewrites : ∀ value, ofHex kind text = .ok value → value.toHex = "0x" ++ .ofList (digits.map Char.toLower)
  /-- Too few or too many bytes are told by their number. -/
  miscounts : ∀ kind' found, ofHex kind text = .error (.length kind' found) ↔
    kind' = kind ∧ InPairs digits ∧ found = digits.length / 2 ∧ found ≠ kind.width
  rejects : (∃ fault, ofHex kind text = .error (.hex kind fault)) ↔ ¬ InPairs digits
  faults : ∀ kind' fault, ofHex kind text = .error (.hex kind' fault) ↔
    kind' = kind ∧ Broken (utf8Bytes (.ofList digits)) fault
  /-- Texts are read alike wherever they stand. -/
  asText : ofText kind text = ofHex kind text
  asJson : ofJson kind (.text text) = (ofHex kind text).mapError .bytes

theorem reads_of_unmarked (hd : Unmarked text.toList digits) : Reads kind text digits where
  accepts := by
    simp only [ofHex_ok_iff hd]
    constructor
    · rintro ⟨value, h⟩
      rw [Text.Hex.length_of_map_toLower h, value.length_eq]
      exact ⟨rfl, Text.Hex.isHexDigit_of_map_toLower h⟩
    · rintro ⟨hlength, hdigits⟩
      obtain ⟨bytes, h⟩ := Text.Hex.exists_encode_iff.mpr ⟨by omega, hdigits⟩
      have hwidth := Text.Hex.length_of_map_toLower h
      exact ⟨⟨bytes, by omega⟩, h⟩
  rewrites value h := toHex_of_digits ((ofHex_ok_iff hd).mp h)
  miscounts kind' found := by
    rw [ofHex_error_iff hd]
    constructor
    · rintro (⟨bytes, h, hwidth, he⟩ | ⟨fault, -, he⟩)
      · obtain ⟨rfl, rfl⟩ := BytesError.length.inj he
        have hlength := Text.Hex.length_of_map_toLower h
        exact ⟨rfl, Text.Hex.exists_encode_iff.mp ⟨bytes, h⟩, by omega, hwidth⟩
      · cases he
    · rintro ⟨rfl, hpairs, rfl, hwidth⟩
      obtain ⟨bytes, h⟩ := Text.Hex.exists_encode_iff.mpr hpairs
      have hlength : digits.length / 2 = bytes.length := by
        rw [Text.Hex.length_of_map_toLower h]
        omega
      rw [hlength] at hwidth ⊢
      exact .inl ⟨bytes, h, hwidth, rfl⟩
  rejects := by
    rw [← Text.Hex.exists_broken_iff]
    simp only [ofHex_error_iff hd, reduceCtorEq, and_false, exists_false, false_or, BytesError.hex.injEq, true_and,
      exists_eq_right']
  faults kind' fault := by
    rw [ofHex_error_iff hd]
    simp only [reduceCtorEq, and_false, exists_false, false_or, BytesError.hex.injEq]
    constructor
    · rintro ⟨_, h, rfl, rfl⟩
      exact ⟨rfl, h⟩
    · rintro ⟨rfl, h⟩
      exact ⟨fault, h, rfl, rfl⟩
  asText := rfl
  asJson := ofJson_text kind text

/-- Byte strings are read from their digits and from nothing else, and each is read back from all its written forms. -/
theorem written_form_exact (kind : ByteKind) :
    (∀ text : String, ∃ digits, Unmarked text.toList digits ∧ Reads kind text digits) ∧
      ∀ value : FixedBytes kind, ofHex kind value.toHex = .ok value ∧ ofHex kind value.toBareHex = .ok value ∧
        ofText kind value.toHex = .ok value ∧ ofJson kind value.toJson = .ok value := by
  constructor
  · intro text
    obtain ⟨digits, hd⟩ := Text.exists_unmarked text.toList
    exact ⟨digits, hd, reads_of_unmarked hd⟩
  · intro value
    refine ⟨ofHex_toHex value, ofHex_toBareHex value, ofHex_toHex value, ?_⟩
    rw [toJson, ofJson_text, ofHex_toHex]
    rfl

end ValidatorSigner.FixedBytes
