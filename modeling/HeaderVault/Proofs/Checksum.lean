import HeaderVault.Checksum
import HeaderVault.Proofs.Words

/-!
The division behind the check value.

A bit step is additive and loses nothing (`bitStep_injective`), and a byte passed through the table
is eight bit steps of the register with the byte added to it (`update_eq`). So up to four bytes are
the steps of a register to which they were added as one word (`register_word`), from which follow
the two properties that a check value is used for: strings that differ in four neighbouring bytes
leave different registers (`register_burst`), and a string with its check value behind it always
leaves the same one (`register_checked`).
-/

namespace HeaderVault

/-! ### Words of up to four bytes -/

namespace Bytes

/-- A number is the exclusive or of its lowest byte and the rest. -/
theorem low_xor_high (n : Nat) :
    UInt32.ofNat (n % 256) ^^^ UInt32.ofNat ((n / 256) <<< 8) = UInt32.ofNat n := by
  rw [← UInt32.ofNat_xor]
  congr 1
  apply Nat.eq_of_testBit_eq
  intro i
  have remainder : (n % 256).testBit i = (decide (i < 8) && n.testBit i) :=
    Nat.testBit_mod_two_pow n 8 i
  have quotient : (n / 256).testBit (i - 8) = n.testBit (i - 8 + 8) :=
    Nat.testBit_div_two_pow (n := 8) n _
  rw [Nat.testBit_xor, remainder, Nat.testBit_shiftLeft, quotient]
  rcases Nat.lt_or_ge i 8 with low | high
  · simp [low, Nat.not_le.mpr low]
  · have place : i - 8 + 8 = i := by omega
    simp [high, Nat.not_lt.mpr high, place]

theorem toUInt32_cons (byte : UInt8) (rest : Bytes) :
    toUInt32 (byte :: rest) = byte.toUInt32 ^^^ UInt32.ofNat (toNatLE rest <<< 8) := by
  have small := byte.toNat_lt
  have low : (byte.toNat + 256 * toNatLE rest) % 256 = byte.toNat := by omega
  have high : (byte.toNat + 256 * toNatLE rest) / 256 = toNatLE rest := by omega
  rw [toUInt32, toNatLE, ← low_xor_high, low, high]
  congr 1
  exact UInt32.toNat_inj.mp (by simp)

theorem capacity_le {width other : Nat} (le : width ≤ other) : capacity width ≤ capacity other := by
  induction le with
  | refl => exact Nat.le_refl _
  | step _ ih =>
      rw [capacity]
      omega

theorem toNatLE_lt_capacity {bytes : Bytes} {width : Nat} (short : bytes.length ≤ width) :
    toNatLE bytes < capacity width :=
  Nat.lt_of_lt_of_le (toNatLE_lt bytes) (capacity_le short)

theorem toUInt32_injective {a b : Bytes} (size : a.length = b.length) (short : a.length ≤ 4)
    (same : toUInt32 a = toUInt32 b) : a = b := by
  have numbers := congrArg UInt32.toNat same
  rw [toUInt32, toUInt32, UInt32.toNat_ofNat_of_lt' (toNatLE_lt_capacity short),
    UInt32.toNat_ofNat_of_lt' (toNatLE_lt_capacity (size ▸ short))] at numbers
  rw [← ofNatLE_toNatLE a, ← ofNatLE_toNatLE b, numbers, size]

end Bytes

namespace Checksum

/-! ### Bit steps -/

theorem register_lowBit (a : UInt32) :
    a &&& 1 = 0 ∧ a.toNat % 2 = 0 ∨ a &&& 1 = 1 ∧ a.toNat % 2 = 1 := by
  simpa [← UInt32.toBitVec_inj] using Words.lowBit (by decide) a.toBitVec

theorem register_and_xor (a b mask : UInt32) :
    (a ^^^ b) &&& mask = (a &&& mask) ^^^ (b &&& mask) :=
  UInt32.toBitVec_inj.mp (Words.and_xor a.toBitVec b.toBitVec mask.toBitVec)

theorem toNat_halved (a : UInt32) : (a >>> 1).toNat = a.toNat / 2 := by
  simp [UInt32.toNat_shiftRight, Nat.shiftRight_eq_div_pow]

theorem bitStep_xor (a b : UInt32) : bitStep (a ^^^ b) = bitStep a ^^^ bitStep b := by
  unfold bitStep
  rw [register_and_xor, UInt32.shiftRight_xor]
  rcases register_lowBit a with ⟨ha, -⟩ | ⟨ha, -⟩ <;> rcases register_lowBit b with ⟨hb, -⟩ | ⟨hb, -⟩ <;>
    simp [ha, hb]
  · ac_rfl
  · ac_rfl
  · rw [UInt32.xor_comm polynomial, UInt32.xor_assoc, ← UInt32.xor_assoc polynomial,
      UInt32.xor_self, UInt32.zero_xor]

/-- The generator has its highest bit set, which a shift never leaves set. -/
theorem bitStep_eq_zero {a : UInt32} (zero : bitStep a = 0) : a = 0 := by
  have half := toNat_halved a
  unfold bitStep at zero
  rcases register_lowBit a with ⟨low, even⟩ | ⟨low, -⟩
  · rw [if_pos low] at zero
    rw [zero] at half
    exact UInt32.toNat_inj.mp (by simp at half ⊢; omega)
  · rw [if_neg (by rw [low]; decide)] at zero
    have top : polynomial.toNat = a.toNat / 2 := by rw [UInt32.xor_eq_zero_iff.mp zero, half]
    have below := a.toNat_lt
    have value : polynomial.toNat = 0xedb88320 := rfl
    omega

/-- The lowest bit is divided out, the others are shifted down. -/
theorem bitStep_ofNat {n : Nat} (fits : n < UInt32.size) :
    bitStep (UInt32.ofNat n) = bitStep (if n.testBit 0 then 1 else 0) ^^^ UInt32.ofNat (n / 2) := by
  have value : (UInt32.ofNat n).toNat = n := UInt32.toNat_ofNat_of_lt' fits
  have shifted : UInt32.ofNat n >>> 1 = UInt32.ofNat (n / 2) := by
    apply UInt32.toNat_inj.mp
    rw [toNat_halved, value, UInt32.toNat_ofNat_of_lt' (by omega)]
  rcases register_lowBit (UInt32.ofNat n) with ⟨low, even⟩ | ⟨low, odd⟩
  · have clear : n.testBit 0 = false := by rw [Nat.testBit_zero, ← value, even]; rfl
    rw [clear, bitStep, if_pos low, shifted]
    exact UInt32.zero_xor.symm
  · have set : n.testBit 0 = true := by rw [Nat.testBit_zero, ← value, odd]; rfl
    rw [set, bitStep, if_neg (by rw [low]; decide), shifted]
    rfl

theorem bitStep_double {n : Nat} (fits : 2 * n < UInt32.size) :
    bitStep (UInt32.ofNat (2 * n)) = UInt32.ofNat n := by
  have half : 2 * n / 2 = n := by omega
  have even : (2 * n).testBit 0 = false := by simp
  rw [bitStep_ofNat fits, even, half]
  exact UInt32.zero_xor

theorem bitSteps_xor (count : Nat) (a b : UInt32) :
    bitSteps count (a ^^^ b) = bitSteps count a ^^^ bitSteps count b := by
  induction count generalizing a b with
  | zero => rfl
  | succ count ih => rw [bitSteps, bitSteps, bitSteps, bitStep_xor, ih]

theorem bitSteps_add (first second : Nat) (a : UInt32) :
    bitSteps (first + second) a = bitSteps second (bitSteps first a) := by
  induction first generalizing a with
  | zero => rw [Nat.zero_add, bitSteps]
  | succ first ih => rw [Nat.succ_add, bitSteps, bitSteps, ih]

theorem bitSteps_injective (count : Nat) : Function.Injective (bitSteps count) := by
  induction count with
  | zero => exact fun _ _ same => same
  | succ count ih =>
      intro a b same
      have steps := ih same
      have none : bitStep (a ^^^ b) = 0 := by rw [bitStep_xor, steps, UInt32.xor_self]
      exact UInt32.xor_eq_zero_iff.mp (bitStep_eq_zero none)

/-- Zeros at the low end are only shifted out. -/
theorem bitSteps_shifted (count : Nat) {n : Nat} (fits : n <<< count < UInt32.size) :
    bitSteps count (UInt32.ofNat (n <<< count)) = UInt32.ofNat n := by
  induction count with
  | zero => rfl
  | succ count ih =>
      rw [Nat.shiftLeft_succ] at fits ⊢
      rw [bitSteps, bitStep_double fits, ih (by omega)]

/-! ### Bytes -/

/-- A byte through the table is eight bit steps. -/
theorem update_eq (register : UInt32) (byte : UInt8) :
    update register byte = bitSteps 8 (register ^^^ byte.toUInt32) := by
  have index : (register ^^^ byte.toUInt32).toUInt8.toNat =
      (register ^^^ byte.toUInt32).toNat % 256 := UInt32.toNat_toUInt8 _
  have high : register >>> 8 = UInt32.ofNat ((register ^^^ byte.toUInt32).toNat / 256) := by
    have quotient : (register.toNat ^^^ byte.toNat) / 256 =
        register.toNat / 256 ^^^ byte.toNat / 256 := Nat.xor_div_two_pow (n := 8)
    have short : byte.toNat / 256 = 0 := Nat.div_eq_of_lt byte.toNat_lt
    have below := register.toNat_lt_size
    rw [UInt32.toNat_xor, UInt8.toNat_toUInt32, quotient, short, Nat.xor_zero]
    apply UInt32.toNat_inj.mp
    rw [UInt32.toNat_ofNat_of_lt' (by omega)]
    simp [Nat.shiftRight_eq_div_pow]
  have fits := (register ^^^ byte.toUInt32).toNat_lt_size
  simp only [update, table, Vector.getElem_ofFn, index, high]
  generalize register ^^^ byte.toUInt32 = word at fits
  have shifted : (word.toNat / 256) <<< 8 < UInt32.size := by
    rw [Nat.shiftLeft_eq]
    omega
  rw [← bitSteps_shifted 8 shifted, ← bitSteps_xor, Bytes.low_xor_high, UInt32.ofNat_toNat]

/-- Up to four bytes pass through the register as one word. -/
theorem register_word {bytes : Bytes} (short : bytes.length ≤ 4) (initial : UInt32) :
    register initial bytes =
      bitSteps (8 * bytes.length) (initial ^^^ Bytes.toUInt32 bytes) := by
  induction bytes generalizing initial with
  | nil => exact (UInt32.xor_zero (a := initial)).symm
  | cons byte rest ih =>
      have shorter : rest.length ≤ 3 := Nat.le_of_succ_le_succ short
      have below := Bytes.toNatLE_lt_capacity shorter
      have fits : Bytes.toNatLE rest <<< 8 < UInt32.size := by
        have room : 256 * Bytes.capacity 3 = UInt32.size := rfl
        rw [Nat.shiftLeft_eq]
        omega
      calc register initial (byte :: rest)
        _ = bitSteps (8 * rest.length) (update initial byte ^^^ Bytes.toUInt32 rest) := by
            rw [register_cons, ih (by omega)]
        _ = bitSteps (8 * rest.length) (bitSteps 8 (initial ^^^ Bytes.toUInt32 (byte :: rest))) := by
            rw [update_eq, Bytes.toUInt32, ← bitSteps_shifted 8 fits, ← bitSteps_xor,
              Bytes.toUInt32_cons, UInt32.xor_assoc]
        _ = bitSteps (8 * (byte :: rest).length) (initial ^^^ Bytes.toUInt32 (byte :: rest)) := by
            rw [← bitSteps_add, List.length_cons, Nat.mul_succ, Nat.add_comm]

/-! ### Registers -/

theorem update_injective (byte : UInt8) : Function.Injective (update · byte) := by
  intro a b same
  simp only [update_eq] at same
  exact (UInt32.xor_left_inj _).mp (bitSteps_injective 8 same)

/-- What follows takes different registers to different ones. -/
theorem register_injective (bytes : Bytes) : Function.Injective (register · bytes) := by
  induction bytes with
  | nil => exact fun _ _ same => same
  | cons byte rest ih => exact fun _ _ same => update_injective byte (ih same)

/-- Four neighbouring bytes that are not the same leave different registers, whatever stands before
and after them. -/
theorem register_burst {initial : UInt32} {front middle other back : Bytes}
    (size : middle.length = other.length) (short : middle.length ≤ 4)
    (same : register initial (front ++ (middle ++ back)) =
      register initial (front ++ (other ++ back))) : middle = other := by
  simp only [register_append] at same
  have middles := register_injective back same
  generalize register initial front = reached at middles
  rw [register_word short, register_word (size ▸ short), ← size] at middles
  exact Bytes.toUInt32_injective size short
    ((UInt32.xor_right_inj _).mp (bitSteps_injective _ middles))

/-- A string with its check value behind it leaves the same register as any other. -/
theorem register_checked (bytes : Bytes) :
    register start (bytes ++ Bytes.ofUInt32 (checksum bytes)) = bitSteps 32 0xffffffff := by
  have four : (Bytes.ofUInt32 (checksum bytes)).length = 4 := Bytes.length_ofNatLE 4 _
  rw [register_append, register_word (Nat.le_of_eq four), four, Bytes.toUInt32_ofUInt32, checksum,
    UInt32.xor_not, UInt32.xor_self]
  rfl

end Checksum

end HeaderVault
