import Mathlib
import ValidatorSigner.Bls.Encoding
import ValidatorSigner.Proofs.Text.Hex

/-! # Numbers as bytes

A number is written as a fixed count of bytes, most significant first, and is read back from them up to its lowest
bytes. The hexadecimal digits of the bytes spell that number.
-/
namespace ValidatorSigner.Bls
variable {bytes : List UInt8} {digits : List Char}

theorem foldl_bytes (n : Nat) (bytes : List UInt8) :
    bytes.foldl (fun n byte => 256 * n + byte.toNat) n = n * 256 ^ bytes.length + numberOfBytes bytes := by
  unfold numberOfBytes
  induction bytes generalizing n with
  | nil => simp
  | cons byte rest ih =>
    rw [List.foldl_cons, List.foldl_cons, ih, ih (256 * 0 + byte.toNat), List.length_cons]
    ring

theorem numberOfBytes_cons (byte : UInt8) (rest : List UInt8) :
    numberOfBytes (byte :: rest) = byte.toNat * 256 ^ rest.length + numberOfBytes rest := by
  rw [numberOfBytes, List.foldl_cons, foldl_bytes, Nat.mul_zero, Nat.zero_add]

theorem numberOfBytes_lt (bytes : List UInt8) : numberOfBytes bytes < 256 ^ bytes.length := by
  induction bytes with
  | nil => simp [numberOfBytes]
  | cons byte rest ih =>
    have hbyte := byte.toNat_lt
    rw [numberOfBytes_cons, List.length_cons, pow_succ]
    calc byte.toNat * 256 ^ rest.length + numberOfBytes rest
        < byte.toNat * 256 ^ rest.length + 256 ^ rest.length := by omega
      _ = (byte.toNat + 1) * 256 ^ rest.length := by ring
      _ ≤ 256 ^ rest.length * 256 := by
        rw [Nat.mul_comm]
        exact Nat.mul_le_mul_left _ (by omega)

theorem bytesOfNumber_succ (width n : Nat) :
    bytesOfNumber (width + 1) n = UInt8.ofNat (n / 256 ^ width) :: bytesOfNumber width n := by
  rw [bytesOfNumber, List.range_succ_eq_map, List.map_cons, List.map_map, bytesOfNumber]
  congr 1
  apply List.map_congr_left
  intro i _
  rw [Function.comp, Nat.succ_eq_add_one, show width + 1 - 1 - (i + 1) = width - 1 - i by omega]

/-- The lowest bytes of a number are those of its remainder. -/
theorem numberOfBytes_bytesOfNumber (width n : Nat) : numberOfBytes (bytesOfNumber width n) = n % 256 ^ width := by
  induction width with
  | zero => simp [bytesOfNumber, numberOfBytes, Nat.mod_one]
  | succ width ih =>
    have hbyte : 2 ^ 8 = 256 := rfl
    rw [bytesOfNumber_succ, numberOfBytes_cons, ih, length_bytesOfNumber, UInt8.toNat_ofNat', hbyte, Nat.mod_pow_succ]
    ring

theorem numberOfBytes_inj {a b : List UInt8} (hlength : a.length = b.length)
    (h : numberOfBytes a = numberOfBytes b) : a = b := by
  induction a generalizing b with
  | nil => exact (List.length_eq_zero_iff.mp hlength.symm).symm
  | cons x xs ih =>
    cases b with
    | nil => cases hlength
    | cons y ys =>
      have hrest : xs.length = ys.length := Nat.succ.inj hlength
      have hx := numberOfBytes_lt xs
      have hy := numberOfBytes_lt ys
      rw [numberOfBytes_cons, numberOfBytes_cons, hrest] at h
      rw [hrest] at hx
      -- The rest of the bytes is less than the weight of the first, which is therefore a quotient.
      have hhead : x.toNat = y.toNat := by
        have hdiv := congrArg (· / 256 ^ ys.length) h
        simpa [Nat.mul_add_div, Nat.mul_comm, Nat.div_eq_of_lt hx, Nat.div_eq_of_lt hy] using hdiv
      rw [hhead, Nat.add_left_cancel_iff] at h
      rw [UInt8.toNat_inj.mp hhead, ih hrest h]

theorem bytesOfNumber_numberOfBytes (bytes : List UInt8) :
    bytesOfNumber bytes.length (numberOfBytes bytes) = bytes := by
  apply numberOfBytes_inj (length_bytesOfNumber ..)
  rw [numberOfBytes_bytesOfNumber, Nat.mod_eq_of_lt (numberOfBytes_lt bytes)]

open Text.Hex (Spells encode encode_cons toLower_eq_digit_iff length_of_map_toLower) in
/-- The digits that some bytes are written as, in either case, spell the number of these. -/
theorem spells_numberOfBytes (h : digits.map Char.toLower = encode bytes) : Spells digits (numberOfBytes bytes) := by
  induction bytes generalizing digits with
  | nil =>
    obtain rfl := List.map_eq_nil_iff.mp h
    exact Text.Hex.spells_nil
  | cons byte rest ih =>
    have hbyte := byte.toNat_lt
    rw [encode_cons] at h
    obtain ⟨high, digits, rfl, hhigh, h⟩ := List.map_eq_cons_iff.mp h
    obtain ⟨low, digits, rfl, hlow, h⟩ := List.map_eq_cons_iff.mp h
    have hlength := length_of_map_toLower h
    have hspells := ((ih h).cons ((toLower_eq_digit_iff (by omega)).mp hlow)).cons
      ((toLower_eq_digit_iff (by omega)).mp hhigh)
    have hnumber : numberOfBytes (byte :: rest) = byte.toNat / 16 * 16 ^ (low :: digits).length +
        (byte.toNat % 16 * 16 ^ digits.length + numberOfBytes rest) := by
      have hpow : 16 ^ digits.length = 256 ^ rest.length := by
        rw [hlength, pow_mul]
        norm_num
      have hhalves : byte.toNat = byte.toNat / 16 * 16 + byte.toNat % 16 := (Nat.div_add_mod' byte.toNat 16).symm
      rw [numberOfBytes_cons, List.length_cons, pow_succ, hpow]
      nth_rewrite 1 [hhalves]
      ring
    rwa [hnumber]

theorem spells_iff {n : Nat} (h : digits.map Char.toLower = Text.Hex.encode bytes) :
    Text.Hex.Spells digits n ↔ n = numberOfBytes bytes := by
  constructor
  · intro hn
    exact hn.unique (spells_numberOfBytes h)
  · rintro rfl
    exact spells_numberOfBytes h

end ValidatorSigner.Bls
