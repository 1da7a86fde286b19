import HeaderVault.Proofs.Binary
import HeaderVault.Proofs.Checksum
import Mathlib.Tactic.ComputeDegree

/-!
The check value is that of IEEE 802.3.

The standard divides polynomials over the field of two elements (`Standard.checkValue`): the bits of
the message, the lowest of each byte first, are coefficients from the highest power down, a register
of ones stands before them and 32 zeros behind them, and what the generator leaves is complemented
and read backwards.

A register stands for the polynomial with its bits as coefficients, the lowest bit the highest one.
A bit step multiplies it by the variable (`mk_polynomialOf_bitStep`), so taking in one bit after
another keeps it in the class of what was divided so far (`mk_polynomialOf_takeBits`). Its degree
is below that of the generator, so it is the remainder (`polynomialOf_register`).
-/

namespace HeaderVault.Checksum

open Polynomial

/-! ### The standard -/

namespace Standard

@[irreducible]
noncomputable def generator : (ZMod 2)[X] :=
  X ^ 32 + X ^ 26 + X ^ 23 + X ^ 22 + X ^ 16 + X ^ 12 + X ^ 11 + X ^ 10 + X ^ 8 + X ^ 7 + X ^ 5 +
    X ^ 4 + X ^ 2 + X + 1

/-- The bits of a byte string in the order in which they are taken, of each byte the lowest
first. -/
def bits (bytes : Bytes) : List Bool :=
  bytes.flatMap fun byte => (List.range 8).map byte.toNat.testBit

/-- The first bit is the coefficient of the highest power, the last one that of `1`. -/
noncomputable def message : List Bool → (ZMod 2)[X]
  | [] => 0
  | bit :: rest => (if bit then X ^ rest.length else 0) + message rest

/-- A register with all its bits set. -/
noncomputable def ones : (ZMod 2)[X] := ∑ i ∈ Finset.range 32, X ^ i

/-- What is left of a message with a register before it and 32 zeros behind it. -/
noncomputable def remainder (register : (ZMod 2)[X]) (bits : List Bool) : (ZMod 2)[X] :=
  (register * X ^ bits.length + message bits * X ^ 32) %ₘ generator

/-- The word with the coefficients of a polynomial as bits, the highest one as the lowest bit. -/
noncomputable def reflected (p : (ZMod 2)[X]) : UInt32 :=
  UInt32.ofNat (Nat.ofBits fun i : Fin 32 => decide (p.coeff (31 - i) = 1))

noncomputable def checkValue (bytes : Bytes) : UInt32 := ~~~ reflected (remainder ones (bits bytes))

/-! ### The generator -/

theorem polynomial_reduction : Binary.polynomial 0x04c11db7#32 =
    X ^ 26 + X ^ 23 + X ^ 22 + X ^ 16 + X ^ 12 + X ^ 11 + X ^ 10 + X ^ 8 + X ^ 7 + X ^ 5 + X ^ 4 +
      X ^ 2 + X + 1 := by
  have bits : 0x04c11db7#32 = BitVec.twoPow 32 26 ^^^ BitVec.twoPow 32 23 ^^^
      BitVec.twoPow 32 22 ^^^ BitVec.twoPow 32 16 ^^^ BitVec.twoPow 32 12 ^^^
      BitVec.twoPow 32 11 ^^^ BitVec.twoPow 32 10 ^^^ BitVec.twoPow 32 8 ^^^ BitVec.twoPow 32 7 ^^^
      BitVec.twoPow 32 5 ^^^ BitVec.twoPow 32 4 ^^^ BitVec.twoPow 32 2 ^^^ BitVec.twoPow 32 1 ^^^
      BitVec.twoPow 32 0 := by decide
  rw [bits]
  simp (disch := decide) only [Binary.polynomial_xor, Binary.polynomial_twoPow, pow_one, pow_zero]

theorem generator_eq : generator = X ^ 32 + Binary.polynomial 0x04c11db7#32 := by
  rw [polynomial_reduction]
  unfold generator
  ring

theorem degree_generator : generator.degree = (32 : Nat) := by
  unfold generator
  compute_degree!

theorem monic_generator : generator.Monic := by
  unfold generator
  monicity!

end Standard

open Standard

/-! ### Bit by bit -/

/-- Takes one bit of the message into a register. -/
def takeBit (register : UInt32) (bit : Bool) : UInt32 :=
  bitStep (register ^^^ if bit then 1 else 0)

/-- The low bits of a number that has no others pass through the register one by one. -/
theorem foldl_takeBit_range (count : Nat) {n : Nat} (small : n < 2 ^ count) (fits : n < UInt32.size)
    (initial : UInt32) :
    ((List.range count).map n.testBit).foldl takeBit initial =
      bitSteps count (initial ^^^ UInt32.ofNat n) := by
  induction count generalizing n initial with
  | zero =>
      have none : n = 0 := by omega
      rw [none]
      exact UInt32.xor_zero.symm
  | succ count ih =>
      have later : (List.range (count + 1)).map n.testBit =
          n.testBit 0 :: (List.range count).map (n / 2).testBit := by
        rw [List.range_succ_eq_map, List.map_cons, List.map_map]
        congr 2
        funext i
        exact Nat.testBit_succ n i
      rw [later, List.foldl_cons, ih (by omega) (by omega), takeBit, bitSteps, bitStep_xor,
        bitStep_xor, bitStep_ofNat fits, UInt32.xor_assoc]

theorem update_bits (initial : UInt32) (byte : UInt8) :
    update initial byte = (bits [byte]).foldl takeBit initial := by
  have same : byte.toUInt32 = UInt32.ofNat byte.toNat := UInt32.toNat_inj.mp (by simp)
  rw [update_eq, bits, List.flatMap_singleton,
    foldl_takeBit_range 8 byte.toNat_lt (byte.toNat_lt.trans (by decide)), same]

/-- A byte string passes through the table as its bits through the register. -/
theorem register_bits (initial : UInt32) (bytes : Bytes) :
    register initial bytes = (bits bytes).foldl takeBit initial := by
  induction bytes generalizing initial with
  | nil => rfl
  | cons byte rest ih =>
      have split : bits (byte :: rest) = bits [byte] ++ bits rest := by
        rw [bits, bits, bits, ← List.flatMap_append, List.singleton_append]
      rw [register_cons, ih, split, List.foldl_append, update_bits]

/-! ### Registers as polynomials -/

theorem reverse_xor {width : Nat} (a b : BitVec width) :
    (a ^^^ b).reverse = a.reverse ^^^ b.reverse := by
  ext i inside
  simp only [BitVec.getElem_reverse, BitVec.getElem_xor, BitVec.getMsbD_xor]

theorem reverse_halved {width : Nat} (a : BitVec width) :
    (a >>> 1).reverse = a.reverse <<< 1 := by
  apply BitVec.eq_of_getLsbD_eq
  intro i inside
  rw [BitVec.getLsbD_reverse, BitVec.getMsbD_ushiftRight, BitVec.getLsbD_shiftLeft,
    BitVec.getLsbD_reverse]
  simp [inside]

set_option maxRecDepth 2048 in
theorem reverse_polynomial : polynomial.toBitVec.reverse = 0x04c11db7#32 := by decide

set_option maxRecDepth 2048 in
theorem reverse_one : (1 : UInt32).toBitVec.reverse = BitVec.twoPow 32 31 := by decide

/-- The polynomial with the bits of a register as coefficients, the lowest bit as the highest. -/
noncomputable def polynomialOf (register : UInt32) : (ZMod 2)[X] :=
  Binary.polynomial register.toBitVec.reverse

theorem polynomialOf_xor (a b : UInt32) :
    polynomialOf (a ^^^ b) = polynomialOf a + polynomialOf b := by
  rw [polynomialOf, UInt32.toBitVec_xor, reverse_xor, Binary.polynomial_xor]
  rfl

theorem polynomialOf_one : polynomialOf 1 = X ^ 31 := by
  rw [polynomialOf, reverse_one, Binary.polynomial_twoPow (by decide)]

theorem polynomialOf_zero : polynomialOf 0 = 0 := by
  have twice := polynomialOf_xor 0 0
  rwa [UInt32.xor_self, left_eq_add] at twice

theorem coeff_polynomialOf (register : UInt32) {i : Nat} (inside : i < 32) :
    (polynomialOf register).coeff (31 - i) = if register.toBitVec.getLsbD i then 1 else 0 := by
  have low : 32 - 1 - (31 - i) = i := by omega
  have below : 31 - i < 32 := by omega
  rw [polynomialOf, Binary.coeff_polynomial, BitVec.getLsbD_reverse, BitVec.getMsbD_eq_getLsbD, low,
    decide_eq_true below, Bool.true_and]

theorem degree_polynomialOf_lt (register : UInt32) :
    (polynomialOf register).degree < generator.degree := by
  rw [degree_generator]
  exact Binary.degree_polynomial_lt _

theorem reflected_polynomialOf (register : UInt32) :
    reflected (polynomialOf register) = register := by
  have bit : ∀ b : Bool, decide ((if b then (1 : ZMod 2) else 0) = 1) = b := by decide
  apply UInt32.toBitVec_inj.mp
  apply BitVec.eq_of_getLsbD_eq
  intro i inside
  rw [reflected, UInt32.toBitVec_ofNat', BitVec.getLsbD_ofNat, Nat.testBit_ofBits_lt _ _ inside,
    decide_eq_true inside, Bool.true_and, coeff_polynomialOf register inside, bit]

set_option maxRecDepth 2048 in
theorem reverse_start : start.toBitVec.reverse = BitVec.allOnes 32 := by decide

theorem polynomialOf_start : polynomialOf start = ones := by
  rw [polynomialOf, reverse_start, ones]
  unfold Binary.polynomial
  apply Finset.sum_congr rfl
  intro i inside
  rw [BitVec.getLsbD_allOnes, decide_eq_true (Finset.mem_range.mp inside), if_pos rfl]

/-! ### Division -/

theorem toBitVec_bitStep (register : UInt32) : (bitStep register).toBitVec.reverse =
    Binary.double 0x04c11db7#32 register.toBitVec.reverse := by
  have shifted : (register >>> 1).toBitVec = register.toBitVec >>> 1 := rfl
  have lowest : register.toBitVec.reverse.msb = decide (register.toNat % 2 = 1) := by
    rw [BitVec.msb_reverse]
    exact Nat.testBit_zero _
  unfold bitStep Binary.double
  rw [lowest]
  rcases register_lowBit register with ⟨low, even⟩ | ⟨low, odd⟩
  · rw [if_pos low, shifted, reverse_halved, if_neg (by simp [even])]
  · rw [if_neg (by rw [low]; decide), if_pos (by simp [odd]), UInt32.toBitVec_xor, reverse_xor,
      shifted, reverse_halved, reverse_polynomial, BitVec.xor_comm]

theorem mk_polynomialOf_bitStep (register : UInt32) :
    AdjoinRoot.mk generator (polynomialOf (bitStep register)) =
      AdjoinRoot.root generator * AdjoinRoot.mk generator (polynomialOf register) := by
  rw [polynomialOf, toBitVec_bitStep]
  exact Binary.mk_double generator_eq _

theorem mk_polynomialOf_takeBits (initial : UInt32) (taken : List Bool) :
    AdjoinRoot.mk generator (polynomialOf (taken.foldl takeBit initial)) = AdjoinRoot.mk generator
      (polynomialOf initial * X ^ taken.length + message taken * X ^ 32) := by
  induction taken generalizing initial with
  | nil => simp [message]
  | cons bit rest ih =>
      have entered : polynomialOf (initial ^^^ if bit then 1 else 0) =
          polynomialOf initial + if bit then X ^ 31 else 0 := by
        rw [polynomialOf_xor]
        cases bit
        · exact congrArg _ polynomialOf_zero
        · exact congrArg _ polynomialOf_one
      have added : (if bit then X ^ rest.length else 0 : (ZMod 2)[X]) * X ^ 32 =
          X * (if bit then X ^ 31 else 0) * X ^ rest.length := by
        split_ifs <;> ring
      rw [List.foldl_cons, ih, takeBit, map_add, map_mul, mk_polynomialOf_bitStep, entered,
        ← AdjoinRoot.mk_X, ← map_mul, ← map_mul, ← map_add]
      apply congrArg (AdjoinRoot.mk generator)
      rw [message, List.length_cons, add_mul (ite _ _ _), added]
      ring

/-- A register is the remainder of what it has taken in. -/
theorem polynomialOf_register (initial : UInt32) (bytes : Bytes) :
    polynomialOf (register initial bytes) = remainder (polynomialOf initial) (bits bytes) := by
  have divides := AdjoinRoot.mk_eq_mk.mp (mk_polynomialOf_takeBits initial (bits bytes))
  rw [register_bits, remainder, ← modByMonic_eq_of_dvd_sub monic_generator divides]
  exact ((modByMonic_eq_self_iff monic_generator).mpr (degree_polynomialOf_lt _)).symm

/-- The check value of every byte string is that of the standard, and the register of a string is
reached by going on from that of any part before. -/
theorem checksum_conforms :
    (∀ bytes, checksum bytes = checkValue bytes) ∧
      ∀ initial first second,
        second.foldl update (register initial first) = register initial (first ++ second) := by
  constructor
  · intro bytes
    rw [checksum, checkValue, ← polynomialOf_start, ← polynomialOf_register,
      reflected_polynomialOf]
  · intro initial first second
    exact (register_append initial first second).symm

end HeaderVault.Checksum
