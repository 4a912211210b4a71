import Mathlib.Data.Nat.Bitwise
import ValidatorSigner.Proofs.Text.Numeral
import ValidatorSigner.Store.Fault

/-! # Errors that may pass

Time may mend what is in the way of a transaction: a pool without a free connection, a worker that has gone, a
broken communication, and a lock that somebody else holds. A lock shows in the low byte of a numeric code.
-/
namespace ValidatorSigner.Store

/-- The code is the numeral of a signed 32-bit number, whose low byte is that of a database or a table that is
locked. -/
def DatabaseFault.Contended (fault : DatabaseFault) : Prop :=
  ∃ code, ∃ n : BitVec 32, fault.code? = some code ∧ Text.SpellsSigned code.toList n.toInt ∧
    (n &&& 255#32 = 5#32 ∨ n &&& 255#32 = 6#32)

/-- The errors after which a transaction is worth another attempt. -/
inductive StorageError.MayPass : StorageError → Prop
  | contention {fault : DatabaseFault} (h : fault.Contended) : MayPass (.access (.database fault))
  | poolTimedOut : MayPass (.access .poolTimedOut)
  | workerCrashed : MayPass (.access .workerCrashed)
  | communication (text : String) : MayPass (.access (.communication text))

theorem toInt_emod_byte (n : BitVec 32) : n.toInt % 256 = ((n &&& 255#32).toNat : Int) := by
  have hand : (n &&& 255#32).toNat = n.toNat % 256 := by
    rw [BitVec.toNat_and]
    exact Nat.and_two_pow_sub_one_eq_mod n.toNat 8
  rw [hand, BitVec.toInt_eq_toNat_cond]
  split <;> omega

theorem byte_eq_iff (n : BitVec 32) {byte : Nat} (hb : byte < 256) :
    n &&& 255#32 = BitVec.ofNat 32 byte ↔ n.toInt % 256 = byte := by
  rw [toInt_emod_byte, Int.natCast_inj, ← BitVec.toNat_inj, BitVec.toNat_ofNat, Nat.mod_eq_of_lt (by omega)]

namespace DatabaseFault
variable {fault : DatabaseFault}

theorem number?_eq_some_iff {n : Int} :
    fault.number? = some n ↔ ∃ code, fault.code? = some code ∧ Text.SpellsSigned code.toList n ∧
      -2 ^ 31 ≤ n ∧ n < 2 ^ 31 := by
  unfold number?
  simp only [Option.bind_eq_some_iff, @Text.readSigned_eq_some_iff (1 <<< 31) (by decide)]
  exact Iff.rfl

theorem isContention_iff : fault.isContention = true ↔ fault.Contended := by
  have hunfold : fault.isContention = true ↔ ∃ n, fault.number? = some n ∧ (n % 256 = 5 ∨ n % 256 = 6) := by
    unfold isContention
    cases fault.number? with
    | none => simp
    | some n => simp
  rw [hunfold]
  constructor
  · rintro ⟨n, hn, hbyte⟩
    obtain ⟨code, hcode, hspells, hlow, hhigh⟩ := number?_eq_some_iff.mp hn
    have hword : (BitVec.ofInt 32 n).toInt = n := BitVec.toInt_ofInt_eq_self (by decide) hlow hhigh
    refine ⟨code, BitVec.ofInt 32 n, hcode, by rwa [hword], ?_⟩
    rw [byte_eq_iff _ (by decide), byte_eq_iff _ (by decide), hword]
    exact hbyte
  · rintro ⟨code, n, hcode, hspells, hbyte⟩
    have hlow : -2 ^ 31 ≤ n.toInt := BitVec.le_toInt n
    have hhigh : n.toInt < 2 ^ 31 := BitVec.toInt_lt
    refine ⟨n.toInt, number?_eq_some_iff.mpr ⟨code, hcode, hspells, hlow, hhigh⟩, ?_⟩
    rwa [byte_eq_iff _ (by decide), byte_eq_iff _ (by decide)] at hbyte

end DatabaseFault

theorem StorageError.isRetryable_iff {e : StorageError} : e.isRetryable = true ↔ e.MayPass := by
  constructor
  · intro h
    cases e with
    | access fault =>
      cases fault with
      | database fault => exact .contention (DatabaseFault.isContention_iff.mp h)
      | poolTimedOut => exact .poolTimedOut
      | workerCrashed => exact .workerCrashed
      | communication text => exact .communication text
      | _ => cases h
    | _ => cases h
  · intro h
    cases h with
    | contention h => exact DatabaseFault.isContention_iff.mpr h
    | _ => rfl

end ValidatorSigner.Store
