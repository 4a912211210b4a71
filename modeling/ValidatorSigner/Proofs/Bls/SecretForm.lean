import ValidatorSigner.Bls.KeyPair
import ValidatorSigner.Proofs.Bls.BigEndian
import ValidatorSigner.Proofs.Text.Blank

/-! # The written form of secret keys

A secret key is read from 64 hexadecimal digits that spell a number between zero and the group order, with a mark and
blanks around them or not, and from no other text. It is written as these digits in lower case.
-/
namespace ValidatorSigner.Bls.SecretKey
open Text (Trimmed Unmarked trimmed_iff unmarked_iff trimBlanks dropHexMark utf8Bytes isBlank)
open Text.Hex (InPairs Broken Spells encode)

variable {key : SecretKey} {text : String} {core digits : List Char} {bytes : List UInt8} {error : SecretKeyError}

theorem ext {a b : SecretKey} (h : a.value = b.value) : a = b := by
  cases a
  cases b
  cases h
  rfl

theorem lt_pow (key : SecretKey) : key.value < 256 ^ 32 := key.lt_order.trans (by decide)

theorem length_toBytes (key : SecretKey) : key.toBytes.length = 32 := length_bytesOfNumber ..

theorem numberOfBytes_toBytes (key : SecretKey) : numberOfBytes key.toBytes = key.value := by
  rw [toBytes, numberOfBytes_bytesOfNumber, Nat.mod_eq_of_lt key.lt_pow]

theorem ofNumber_ok_iff {n : Nat} : ofNumber n = .ok key ↔ n = key.value := by
  unfold ofNumber
  split
  · rw [Except.ok.injEq]
    constructor
    · rintro rfl
      rfl
    · intro h
      exact ext h
  · rename_i hrange
    constructor
    · intro h
      cases h
    · rintro rfl
      exact absurd ⟨key.pos, key.lt_order⟩ hrange

theorem ofNumber_error_iff {n : Nat} :
    ofNumber n = .error error ↔ ¬ (0 < n ∧ n < groupOrder) ∧ error = .badEncoding := by
  unfold ofNumber
  split
  · rename_i hrange
    simp [hrange]
  · rename_i hrange
    rw [Except.error.injEq, eq_comm, iff_and_self]
    exact fun _ => hrange

theorem ofBytes_ok_iff : ofBytes bytes = .ok key ↔ bytes = key.toBytes := by
  unfold ofBytes
  split
  · rename_i hlength
    rw [ofNumber_ok_iff]
    constructor
    · intro h
      rw [toBytes, ← h, ← hlength, bytesOfNumber_numberOfBytes]
    · rintro rfl
      exact key.numberOfBytes_toBytes
  · rename_i hlength
    constructor
    · intro h
      cases h
    · rintro rfl
      exact absurd key.length_toBytes hlength

theorem ofBytes_error_iff :
    ofBytes bytes = .error error ↔
      ¬ (bytes.length = 32 ∧ 0 < numberOfBytes bytes ∧ numberOfBytes bytes < groupOrder) ∧ error = .badEncoding := by
  unfold ofBytes
  split
  · rename_i hlength
    rw [ofNumber_error_iff]
    simp [hlength]
  · rename_i hlength
    simp [hlength, eq_comm]

theorem ofHex_ok_iff (ht : Trimmed text.toList core) (hd : Unmarked core digits) :
    ofHex text = .ok key ↔ digits.map Char.toLower = encode key.toBytes := by
  obtain rfl := trimmed_iff.mp ht
  obtain rfl := unmarked_iff.mp hd
  rw [← Text.Hex.decode_utf8Bytes_ok_iff, ofHex]
  cases Text.Hex.decode (utf8Bytes (.ofList (dropHexMark (trimBlanks text.toList)))) with
  | error fault => simp
  | ok bytes => simp [ofBytes_ok_iff]

theorem ofHex_error_iff (ht : Trimmed text.toList core) (hd : Unmarked core digits) :
    ofHex text = .error error ↔
      (∃ bytes, digits.map Char.toLower = encode bytes ∧
        ¬ (bytes.length = 32 ∧ 0 < numberOfBytes bytes ∧ numberOfBytes bytes < groupOrder) ∧ error = .badEncoding) ∨
      ∃ fault, Broken (utf8Bytes (.ofList digits)) fault ∧ error = .hex fault := by
  obtain rfl := trimmed_iff.mp ht
  obtain rfl := unmarked_iff.mp hd
  simp only [← Text.Hex.decode_utf8Bytes_ok_iff, ← Text.Hex.decode_error_iff]
  rw [ofHex]
  cases Text.Hex.decode (utf8Bytes (.ofList (dropHexMark (trimBlanks text.toList)))) with
  | error fault => simp [eq_comm]
  | ok bytes => simp [ofBytes_error_iff]

def Proper (digits : List Char) : Prop :=
  digits.length = 64 ∧ ∃ n, Spells digits n ∧ 0 < n ∧ n < groupOrder

theorem proper_iff (h : digits.map Char.toLower = encode bytes) :
    Proper digits ↔ bytes.length = 32 ∧ 0 < numberOfBytes bytes ∧ numberOfBytes bytes < groupOrder := by
  have hlength := Text.Hex.length_of_map_toLower h
  have h64 : digits.length = 64 ↔ bytes.length = 32 := by omega
  simp only [Proper, h64, spells_iff h, exists_eq_left]

theorem exists_toBytes_iff : (∃ key : SecretKey, digits.map Char.toLower = encode key.toBytes) ↔ Proper digits := by
  constructor
  · rintro ⟨key, h⟩
    rw [proper_iff h, key.numberOfBytes_toBytes]
    exact ⟨key.length_toBytes, key.pos, key.lt_order⟩
  · intro hproper
    obtain ⟨hlength, n, hspells, -⟩ := id hproper
    obtain ⟨bytes, h⟩ := Text.Hex.exists_encode_iff.mpr ⟨by omega, hspells.isHexDigit⟩
    obtain ⟨h32, hpos, hlt⟩ := (proper_iff h).mp hproper
    have hkey : ofBytes bytes = .ok ⟨numberOfBytes bytes, hpos, hlt⟩ := by
      rw [ofBytes, if_pos h32, ofNumber_ok_iff]
    rw [ofBytes_ok_iff.mp hkey] at h
    exact ⟨_, h⟩

/-- What comes of reading a text, `digits` being what it is without blanks and mark. -/
structure Reads (text : String) (digits : List Char) : Prop where
  accepts : (∃ key, ofHex text = .ok key) ↔ Proper digits
  /-- The key is the number that the digits spell, and is written as these in lower case. -/
  keeps : ∀ key, ofHex text = .ok key → Spells digits key.value ∧ key.toHex = .ofList (digits.map Char.toLower)
  rejects : (∃ fault, ofHex text = .error (.hex fault)) ↔ ¬ InPairs digits
  faults : ∀ fault, ofHex text = .error (.hex fault) ↔ Broken (utf8Bytes (.ofList digits)) fault
  /-- The number of digits and the number that they spell are looked at last. -/
  bounds : ofHex text = .error .badEncoding ↔ InPairs digits ∧ ¬ Proper digits

theorem reads_of_unmarked (ht : Trimmed text.toList core) (hd : Unmarked core digits) : Reads text digits where
  accepts := by simp only [ofHex_ok_iff ht hd, exists_toBytes_iff]
  keeps key h := by
    have hdigits := (ofHex_ok_iff ht hd).mp h
    rw [spells_iff hdigits, key.numberOfBytes_toBytes, toHex, hdigits]
    exact ⟨rfl, rfl⟩
  rejects := by
    rw [← Text.Hex.exists_broken_iff]
    simp only [ofHex_error_iff ht hd, reduceCtorEq, and_false, exists_false, false_or, SecretKeyError.hex.injEq,
      exists_eq_right']
  faults fault := by
    simp only [ofHex_error_iff ht hd, reduceCtorEq, and_false, exists_false, false_or, SecretKeyError.hex.injEq,
      exists_eq_right']
  bounds := by
    simp only [ofHex_error_iff ht hd, reduceCtorEq, and_false, exists_false, or_false, and_true]
    rw [← Text.Hex.exists_encode_iff]
    constructor
    · rintro ⟨bytes, h, hbad⟩
      exact ⟨⟨bytes, h⟩, fun hproper => hbad ((proper_iff h).mp hproper)⟩
    · rintro ⟨⟨bytes, h⟩, hbad⟩
      exact ⟨bytes, h, fun hgood => hbad ((proper_iff h).mpr hgood)⟩

/-- The texts that stand for a key: its digits in either case, with a mark and with blanks around them or not. -/
def Shows (text : String) (key : SecretKey) : Prop :=
  ∃ before mark digits after, text.toList = before ++ (mark ++ digits) ++ after ∧
    (∀ c ∈ before, isBlank c = true) ∧ (∀ c ∈ after, isBlank c = true) ∧ (mark = [] ∨ mark = ['0', 'x']) ∧
    digits.map Char.toLower = key.toHex.toList

theorem toList_toHex (key : SecretKey) : key.toHex.toList = encode key.toBytes := String.toList_ofList

theorem unmarked_append {mark : List Char} (hm : mark = [] ∨ mark = ['0', 'x'])
    (h : ∀ c ∈ digits, c.isHexDigit = true) : Unmarked (mark ++ digits) digits := by
  rcases hm with rfl | rfl
  · exact unmarked_iff.mpr (Text.dropHexMark_digits h).symm
  · exact .marked digits

/-- A key is read from the texts that stand for it, and from no others. -/
theorem ofHex_ok_iff_shows : ofHex text = .ok key ↔ Shows text key := by
  constructor
  · intro h
    have ht := Text.trimmed_trimBlanks text.toList
    obtain ⟨digits, hd⟩ := Text.exists_unmarked (trimBlanks text.toList)
    have hdigits := (ofHex_ok_iff ht hd).mp h
    rw [← toList_toHex] at hdigits
    obtain ⟨before, after, hsplit, hbefore, hafter⟩ := ht.split
    -- What the text is without blanks has to be a variable, so that a mark can be split off.
    generalize trimBlanks text.toList = core at hsplit hd
    cases hd with
    | marked digits => exact ⟨before, ['0', 'x'], _, after, hsplit, hbefore, hafter, .inr rfl, hdigits⟩
    | bare _ => exact ⟨before, [], _, after, hsplit, hbefore, hafter, .inl rfl, hdigits⟩
  · rintro ⟨before, mark, digits, after, hsplit, hbefore, hafter, hmark, hdigits⟩
    rw [toList_toHex] at hdigits
    have hhex := Text.Hex.isHexDigit_of_map_toLower hdigits
    -- No blank stands in the mark or among the digits, so that trimming stops there.
    have hsolid : ∀ c ∈ mark ++ digits, isBlank c = false := by
      intro c hc
      rcases List.mem_append.mp hc with hc | hc
      · rcases hmark with rfl | rfl
        · cases hc
        · simp only [List.mem_cons, List.not_mem_nil, or_false] at hc
          rcases hc with rfl | rfl <;> rfl
      · exact Text.Hex.isBlank_of_isHexDigit (hhex c hc)
    have ht : Trimmed text.toList (mark ++ digits) := hsplit ▸ .of_nonblank hbefore hafter hsolid
    exact (ofHex_ok_iff ht (unmarked_append hmark hhex)).mpr hdigits

/-- Secret keys are read from their digits and from nothing else, and each is read back from all texts that stand for
it, and with it its public key. -/
theorem secret_form_exact :
    (∀ text : String, ∃ core digits, Trimmed text.toList core ∧ Unmarked core digits ∧ Reads text digits) ∧
      ∀ key : SecretKey, key.toHex.length = 64 ∧ Spells key.toHex.toList key.value ∧
        key.toHex.toList.map Char.toLower = key.toHex.toList ∧
        ∀ text, ofHex text = .ok key ↔ Shows text key := by
  constructor
  · intro text
    have ht := Text.trimmed_trimBlanks text.toList
    obtain ⟨digits, hd⟩ := Text.exists_unmarked (trimBlanks text.toList)
    exact ⟨_, digits, ht, hd, reads_of_unmarked ht hd⟩
  · intro key
    have hlower := Text.Hex.map_toLower_encode key.toBytes
    refine ⟨?_, ?_, ?_, fun _ => ofHex_ok_iff_shows⟩
    · rw [← String.length_toList, toList_toHex, Text.Hex.length_encode, key.length_toBytes]
    · rw [toList_toHex, spells_iff hlower, key.numberOfBytes_toBytes]
    · rw [toList_toHex, hlower]

end ValidatorSigner.Bls.SecretKey
