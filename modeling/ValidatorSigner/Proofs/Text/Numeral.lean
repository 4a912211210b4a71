import Mathlib.Data.Nat.Digits.Defs
import Mathlib.Tactic.Ring
import ValidatorSigner.Text.Numeral

/-! # What numerals mean

A numeral stands for the value of its digits, under an optional sign. The readers accept the numerals whose
values lie within their bounds, and no other text.
-/
namespace ValidatorSigner.Text

/-- One or more ASCII digits, and the number that they spell. -/
structure Spells (digits : List Char) (n : Nat) : Prop where
  nonempty : digits ≠ []
  ascii : ∀ c ∈ digits, '0' ≤ c ∧ c ≤ '9'
  value : n = Nat.ofDigits 10 (digits.reverse.map fun c => c.toNat - '0'.toNat)

/-- Digits with or without a sign, and the whole number that they spell. -/
inductive SpellsSigned : List Char → Int → Prop
  | unsigned {digits : List Char} {n : Nat} (h : Spells digits n) : SpellsSigned digits n
  | positive {digits : List Char} {n : Nat} (h : Spells digits n) : SpellsSigned ('+' :: digits) n
  | negative {digits : List Char} {n : Nat} (h : Spells digits n) : SpellsSigned ('-' :: digits) (-n)

theorem decimalDigit?_eq_some_iff {c : Char} {d : Nat} :
    decimalDigit? c = some d ↔ ('0' ≤ c ∧ c ≤ '9') ∧ d = c.toNat - '0'.toNat := by
  unfold decimalDigit?
  split
  · rename_i h
    simp only [Option.some.injEq, h, true_and]
    exact eq_comm
  · rename_i h
    simp [h]

theorem readDigits_eq_some_iff {value n : Nat} {chars : List Char} :
    readDigits value chars = some n ↔ (∀ c ∈ chars, '0' ≤ c ∧ c ≤ '9') ∧
      n = value * 10 ^ chars.length + Nat.ofDigits 10 (chars.reverse.map fun c => c.toNat - '0'.toNat) := by
  induction chars generalizing value with
  | nil =>
    simp only [readDigits, Option.some.injEq, List.not_mem_nil, false_implies, implies_true, true_and, List.length_nil,
      pow_zero, mul_one, List.reverse_nil, List.map_nil, Nat.ofDigits_nil, add_zero]
    exact eq_comm
  | cons c rest ih =>
    have hvalue (d : Nat) : (10 * value + d) * 10 ^ rest.length +
        Nat.ofDigits 10 (rest.reverse.map fun c => c.toNat - '0'.toNat) =
          value * 10 ^ (c :: rest).length + Nat.ofDigits 10 (rest.reverse.map (fun c => c.toNat - '0'.toNat) ++ [d]) := by
      rw [Nat.ofDigits_append, Nat.ofDigits_singleton, List.length_map, List.length_reverse, List.length_cons]
      ring
    simp only [List.reverse_cons, List.map_append, List.map_singleton, List.forall_mem_cons, ← hvalue]
    unfold readDigits
    cases hd : decimalDigit? c with
    | none =>
      have hnot : ¬ ('0' ≤ c ∧ c ≤ '9') := by
        intro hc
        have hsome := decimalDigit?_eq_some_iff.mpr ⟨hc, rfl⟩
        rw [hd] at hsome
        cases hsome
      simp [hnot]
    | some d =>
      obtain ⟨hc, rfl⟩ := decimalDigit?_eq_some_iff.mp hd
      simp only [ih, hc, true_and]

theorem readDecimal_eq_some_iff {chars : List Char} {n : Nat} : readDecimal chars = some n ↔ Spells chars n := by
  cases chars with
  | nil =>
    constructor
    · intro h
      cases h
    · intro h
      exact absurd rfl h.nonempty
  | cons c rest =>
    rw [readDecimal, readDigits_eq_some_iff, Nat.zero_mul, Nat.zero_add]
    · constructor
      · rintro ⟨hascii, hvalue⟩
        exact ⟨List.cons_ne_nil c rest, hascii, hvalue⟩
      · intro h
        exact ⟨h.ascii, h.value⟩
    · exact nofun

/-- No sign is a digit. -/
theorem Spells.head_ne_sign {sign : Char} {digits : List Char} {n : Nat} (hs : sign = '+' ∨ sign = '-') :
    ¬ Spells (sign :: digits) n := by
  intro h
  have hdigit := h.ascii sign List.mem_cons_self
  rcases hs with rfl | rfl
  · exact absurd hdigit (by decide)
  · exact absurd hdigit (by decide)

theorem readBounded_eq_some_iff {bound n : Nat} {chars : List Char} :
    readBounded bound chars = some n ↔
      n < bound ∧ (Spells chars n ∨ ∃ digits, chars = '+' :: digits ∧ Spells digits n) := by
  unfold readBounded
  simp only [Option.filter_eq_some_iff, readDecimal_eq_some_iff, decide_eq_true_eq]
  split
  · rename_i digits
    constructor
    · rintro ⟨h, hn⟩
      exact ⟨hn, .inr ⟨digits, rfl, h⟩⟩
    · rintro ⟨hn, h | ⟨_, he, h⟩⟩
      · exact absurd h (Spells.head_ne_sign (.inl rfl))
      · cases he
        exact ⟨h, hn⟩
  · rename_i hplus
    constructor
    · rintro ⟨h, hn⟩
      exact ⟨hn, .inl h⟩
    · rintro ⟨hn, h | ⟨digits, he, -⟩⟩
      · exact ⟨h, hn⟩
      · exact absurd he (hplus digits)

theorem readSigned_negative (bound : Nat) (digits : List Char) :
    readSigned bound ('-' :: digits) =
      ((readDecimal digits).filter (· ≤ bound)).map (fun n : Nat => -(n : Int)) := by
  simp only [readSigned]
  cases hr : readDecimal digits with
  | none => rfl
  | some n =>
    by_cases hn : n ≤ bound
    · simp [Option.filter, hn]
    · simp [Option.filter, hn]

/-- A signed number is read from the texts that spell it, as long as it lies within the bounds. -/
theorem readSigned_eq_some_iff {bound : Nat} (hb : 0 < bound) {chars : List Char} {n : Int} :
    readSigned bound chars = some n ↔ SpellsSigned chars n ∧ -(bound : Int) ≤ n ∧ n < bound := by
  by_cases hminus : ∃ digits, chars = '-' :: digits
  · obtain ⟨digits, rfl⟩ := hminus
    rw [readSigned_negative]
    simp only [Option.map_eq_some_iff, Option.filter_eq_some_iff, readDecimal_eq_some_iff, decide_eq_true_eq]
    constructor
    · rintro ⟨m, ⟨h, hm⟩, rfl⟩
      exact ⟨.negative h, by omega, by omega⟩
    · rintro ⟨h, hlow, hhigh⟩
      cases h with
      | unsigned h => exact absurd h (Spells.head_ne_sign (.inr rfl))
      | @negative _ m h => exact ⟨m, ⟨h, by omega⟩, rfl⟩
  · have hread : readSigned bound chars = (readBounded bound chars).map Int.ofNat := by
      unfold readSigned
      split
      · rename_i digits
        exact absurd ⟨digits, rfl⟩ hminus
      · rfl
    simp only [hread, Option.map_eq_some_iff, readBounded_eq_some_iff]
    constructor
    · rintro ⟨m, ⟨hm, h⟩, rfl⟩
      refine ⟨?_, by simp only [Int.ofNat_eq_natCast]; omega, by simpa using hm⟩
      rcases h with h | ⟨digits, rfl, h⟩
      · exact .unsigned h
      · exact .positive h
    · rintro ⟨h, hlow, hhigh⟩
      cases h with
      | @unsigned _ m h => exact ⟨m, ⟨by omega, .inl h⟩, rfl⟩
      | @positive digits m h => exact ⟨m, ⟨by omega, .inr ⟨digits, rfl, h⟩⟩, rfl⟩
      | @negative digits m h => exact absurd ⟨digits, rfl⟩ hminus

end ValidatorSigner.Text
