import HeaderVault.Aes.Field
import HeaderVault.Proofs.Words

/-!
The field behind the substitution box.

Additive maps of bytes are equal when they agree on the eight bytes with a single bit
(`eq_of_units`). `double` and multiplication by a fixed byte are additive, so the laws of `mul`
follow from finitely many products: `mul_comm`, `mul_double` and `mul_assoc`. `mul_inverse` says
that `inverse` inverts, hence that it undoes itself, and `unsubstitute_substitute` and
`substitute_unsubstitute` that the two boxes undo each other.
-/

namespace HeaderVault.Aes

open Words

/-- A property of all bytes, from a check of each. -/
theorem forall_byte {p : UInt8 → Prop} (each : ∀ i : Fin 256, p (UInt8.ofNat i)) (byte : UInt8) :
    p byte := by
  have found := each ⟨byte.toNat, byte.toNat_lt⟩
  rwa [UInt8.ofNat_toNat] at found

/-! ### Additive maps -/

/-- The bytes with a single bit. -/
def unit (i : Fin 8) : UInt8 := 1 <<< UInt8.ofNat i.val

/-- The single bits of a byte. -/
def bits (a : UInt8) : List UInt8 :=
  ((List.finRange 8).filter fun i => a &&& unit i ≠ 0).map unit

set_option maxRecDepth 4096 in
/-- A byte is the sum of its single bits. -/
theorem foldr_bits : ∀ a : UInt8, (bits a).foldr (· ^^^ ·) 0 = a :=
  forall_byte (by decide)

theorem exists_unit_of_mem_bits {a bit : UInt8} (mem : bit ∈ bits a) : ∃ i, unit i = bit := by
  obtain ⟨i, _, eq⟩ := List.mem_map.mp mem
  exact ⟨i, eq⟩

/-- Additive maps are equal when they agree on single bits. -/
theorem eq_of_units {β : Type} [XorOp β] {f g : UInt8 → β} (hf : Additive f) (hg : Additive g)
    (agree : ∀ i, f (unit i) = g (unit i)) (a : UInt8) : f a = g a := by
  have zero : f 0 = g 0 := by
    rw [← UInt8.xor_self (a := unit 0), hf.map_xor, hg.map_xor, agree]
  have single : ∀ bit ∈ bits a, f bit = g bit := by
    intro bit mem
    obtain ⟨i, rfl⟩ := exists_unit_of_mem_bits mem
    exact agree i
  rw [← foldr_bits a]
  exact hf.foldr_eq hg zero single

theorem byte_and_xor (a b mask : UInt8) : (a ^^^ b) &&& mask = (a &&& mask) ^^^ (b &&& mask) :=
  UInt8.toBitVec_inj.mp (and_xor a.toBitVec b.toBitVec mask.toBitVec)

theorem byte_lowBit (a : UInt8) :
    a &&& 1 = 0 ∧ a.toNat % 2 = 0 ∨ a &&& 1 = 1 ∧ a.toNat % 2 = 1 := by
  simpa [← UInt8.toBitVec_inj] using lowBit (by decide) a.toBitVec

set_option maxRecDepth 4096 in
/-- The highest bit of a byte says whether its number reaches 128. -/
theorem topBit : ∀ a : UInt8,
    a &&& 0x80 = 0 ∧ a.toNat / 128 = 0 ∨ a &&& 0x80 = 0x80 ∧ a.toNat / 128 = 1 :=
  forall_byte (by decide)

theorem double_additive : Additive double where
  map_xor a b := by
    unfold double
    rw [byte_and_xor, UInt8.shiftLeft_xor]
    rcases topBit a with ⟨ha, -⟩ | ⟨ha, -⟩ <;> rcases topBit b with ⟨hb, -⟩ | ⟨hb, -⟩ <;>
      simp [ha, hb]
    · ac_rfl
    · ac_rfl
    · rw [UInt8.xor_assoc, UInt8.xor_comm 27, UInt8.xor_assoc]
      simp

theorem mulBits_additive_left (count : Nat) (b : UInt8) : Additive fun a => mulBits count a b where
  map_xor a c := by
    induction count generalizing a b c with
    | zero => simp [mulBits]
    | succ count ih =>
        simp only [mulBits, double_additive.map_xor, ih]
        split
        · simp
        · ac_rfl

theorem mulBits_additive_right (count : Nat) (a : UInt8) : Additive (mulBits count a) where
  map_xor b c := by
    induction count generalizing a b c with
    | zero => simp [mulBits]
    | succ count ih =>
        simp only [mulBits, byte_and_xor, UInt8.shiftRight_xor, ih]
        rcases byte_lowBit b with ⟨hb, -⟩ | ⟨hb, -⟩ <;> rcases byte_lowBit c with ⟨hc, -⟩ | ⟨hc, -⟩ <;>
          simp [hb, hc]
        · ac_rfl
        · ac_rfl
        · rw [UInt8.xor_assoc, UInt8.xor_comm _ (a ^^^ _), UInt8.xor_assoc, ← UInt8.xor_assoc a a]
          simp [UInt8.xor_comm]

theorem mul_additive_left (b : UInt8) : Additive fun a => mul a b := mulBits_additive_left 8 b

theorem mul_additive_right (a : UInt8) : Additive (mul a) := mulBits_additive_right 8 a

/-! ### Laws of multiplication -/

theorem mul_zero (a : UInt8) : mul a 0 = 0 := by
  have twice := (mul_additive_right a).map_xor 0 0
  rwa [UInt8.xor_self, UInt8.xor_self] at twice

theorem mul_comm (a b : UInt8) : mul a b = mul b a := by
  refine eq_of_units (mul_additive_left b) (mul_additive_right b) (fun i => ?_) a
  refine eq_of_units (mul_additive_right (unit i)) (mul_additive_left (unit i)) (fun j => ?_) b
  revert i j
  decide

theorem mul_one (a : UInt8) : mul a 1 = a := by
  refine eq_of_units (mul_additive_left 1) .id (fun i => ?_) a
  revert i
  decide

theorem mul_double (a b : UInt8) : mul a (double b) = double (mul a b) := by
  refine eq_of_units (mul_additive_left (double b)) (double_additive.comp (mul_additive_left b))
    (fun i => ?_) a
  refine eq_of_units ((mul_additive_right (unit i)).comp double_additive)
    (double_additive.comp (mul_additive_right (unit i))) (fun j => ?_) b
  revert i j
  decide

/-- A single bit is a power of `x`, and multiplying by `x` commutes with every product. -/
theorem mul_assoc (a b c : UInt8) : mul (mul a b) c = mul a (mul b c) := by
  have doubled : ∀ n : Fin 7, unit n.succ = double (unit n.castSucc) := by decide
  have powers : ∀ i, mul (mul a b) (unit i) = mul a (mul b (unit i)) := by
    intro i
    induction i using Fin.induction with
    | zero => rw [show unit 0 = 1 from rfl, mul_one, mul_one]
    | succ n ih => rw [doubled, mul_double, mul_double, mul_double, ih]
  exact eq_of_units (mul_additive_right (mul a b))
    ((mul_additive_right a).comp (mul_additive_right b)) powers c

/-! ### Inverses

The products that show `inverse` to invert are computed on the numbers of bytes, which is what the
kernel does fast. -/

/-- `mulBits` on numbers. -/
def mulNumbers : (count : Nat) → (a b : Nat) → Nat
  | 0, _, _ => 0
  | count + 1, a, b =>
      (b % 2 * a) ^^^ mulNumbers count ((2 * a % 256) ^^^ (a / 128 * 27)) (b / 2)

theorem toNat_double (a : UInt8) :
    (double a).toNat = (2 * a.toNat % 256) ^^^ (a.toNat / 128 * 27) := by
  have shifted : (a <<< 1).toNat = 2 * a.toNat % 256 := by
    simp [UInt8.toNat_shiftLeft, Nat.shiftLeft_eq, Nat.mul_comm]
  rcases topBit a with ⟨bit, quotient⟩ | ⟨bit, quotient⟩
  · simp [double, bit, quotient, shifted]
  · simp [double, bit, quotient, shifted, UInt8.toNat_xor]

theorem toNat_mulBits (count : Nat) (a b : UInt8) :
    (mulBits count a b).toNat = mulNumbers count a.toNat b.toNat := by
  induction count generalizing a b with
  | zero => rfl
  | succ count ih =>
      have halved : (b >>> 1).toNat = b.toNat / 2 := by
        simp [UInt8.toNat_shiftRight, Nat.shiftRight_eq_div_pow]
      simp only [mulBits, mulNumbers, UInt8.toNat_xor, ih, toNat_double, halved]
      rcases byte_lowBit b with ⟨bit, parity⟩ | ⟨bit, parity⟩ <;> simp [bit, parity]

/-- The product of `start` with `square` and the squares that follow it. -/
def squaresProduct : (count : Nat) → (square start : Nat) → Nat
  | 0, _, start => start
  | count + 1, square, start =>
      squaresProduct count (mulNumbers 8 square square) (mulNumbers 8 start square)

theorem toNat_inverse (a : UInt8) :
    (inverse a).toNat = squaresProduct 7 (mulNumbers 8 a.toNat a.toNat) 1 := by
  simp only [inverse, List.range, List.range.loop, List.map, List.foldl, squares, squaresProduct,
    mul, toNat_mulBits]
  rfl

theorem mul_inverse {a : UInt8} (nonzero : a ≠ 0) : mul a (inverse a) = 1 := by
  have each : ∀ i : Fin 256, i.val ≠ 0 →
      mulNumbers 8 i (squaresProduct 7 (mulNumbers 8 i i) 1) = 1 := by
    decide +kernel
  have positive : a.toNat ≠ 0 := fun zero => nonzero (UInt8.toNat_inj.mp zero)
  apply UInt8.toNat_inj.mp
  rw [mul, toNat_mulBits, toNat_inverse]
  exact each ⟨a.toNat, a.toNat_lt⟩ positive

theorem inverse_zero : inverse 0 = 0 := by decide

theorem inverse_ne_zero {a : UInt8} (nonzero : a ≠ 0) : inverse a ≠ 0 := by
  intro zero
  have product := mul_inverse nonzero
  rw [zero, mul_zero] at product
  exact absurd product (by decide)

theorem inverse_inverse (a : UInt8) : inverse (inverse a) = a := by
  by_cases zero : a = 0
  · rw [zero, inverse_zero, inverse_zero]
  · calc inverse (inverse a)
        = mul (inverse (inverse a)) (mul a (inverse a)) := by rw [mul_inverse zero, mul_one]
      _ = mul a (mul (inverse a) (inverse (inverse a))) := by rw [mul_comm, mul_assoc]
      _ = a := by rw [mul_inverse (inverse_ne_zero zero), mul_one]

/-! ### The substitution box -/

set_option maxRecDepth 4096 in
theorem affineInverse_affine : ∀ a : UInt8, affineInverse (affine a) = a :=
  forall_byte (by decide)

set_option maxRecDepth 4096 in
theorem affine_affineInverse : ∀ a : UInt8, affine (affineInverse a) = a :=
  forall_byte (by decide)

@[simp]
theorem unsubstitute_substitute (a : UInt8) : unsubstitute (substitute a) = a := by
  rw [substitute_eq, unsubstitute_eq, affineInverse_affine, inverse_inverse]

@[simp]
theorem substitute_unsubstitute (a : UInt8) : substitute (unsubstitute a) = a := by
  rw [substitute_eq, unsubstitute_eq, inverse_inverse, affine_affineInverse]

end HeaderVault.Aes
