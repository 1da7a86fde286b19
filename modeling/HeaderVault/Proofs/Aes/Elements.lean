import HeaderVault.Proofs.Aes.Field
import HeaderVault.Proofs.Binary
import Mathlib.Algebra.CharP.Algebra
import Mathlib.Tactic.ComputeDegree

/-!
Bytes as elements of the field of 256 elements.

The field is that of the polynomials over the field of two elements modulo
`x^8 + x^4 + x^3 + x + 1`. A byte is the element with its bits as coefficients, a correspondence one
to one (`elements`). It takes exclusive or to addition, `double` to multiplication by the class of
`x`, `mul` to multiplication and `inverse` to the inverse of the field, with `0` for `0`. That there
are inverses at all is why the modulus is irreducible.
-/

namespace HeaderVault.Aes

open Polynomial

/-! ### The ring -/

@[irreducible]
noncomputable def modulus : (ZMod 2)[X] := X ^ 8 + X ^ 4 + X ^ 3 + X + 1

theorem polynomial_reduction : Binary.polynomial 0x1b#8 = X ^ 4 + X ^ 3 + X + 1 := by
  have bits : 0x1b#8 = BitVec.twoPow 8 4 ^^^ BitVec.twoPow 8 3 ^^^ BitVec.twoPow 8 1 ^^^
      BitVec.twoPow 8 0 := by decide
  rw [bits, Binary.polynomial_xor, Binary.polynomial_xor, Binary.polynomial_xor,
    Binary.polynomial_twoPow (by decide), Binary.polynomial_twoPow (by decide),
    Binary.polynomial_twoPow (by decide), Binary.polynomial_twoPow (by decide), pow_one, pow_zero]

theorem modulus_eq : modulus = X ^ 8 + Binary.polynomial 0x1b#8 := by
  rw [polynomial_reduction]
  unfold modulus
  ring

theorem degree_modulus : modulus.degree = (8 : Nat) := by
  unfold modulus
  compute_degree!

theorem monic_modulus : modulus.Monic := by
  unfold modulus
  monicity!

/-- Polynomials over the field of two elements, modulo `x^8 + x^4 + x^3 + x + 1`. -/
abbrev Element := AdjoinRoot modulus

/-- The element whose coefficients are the bits of a byte. -/
noncomputable def element (byte : UInt8) : Element :=
  AdjoinRoot.mk modulus (Binary.polynomial byte.toBitVec)

theorem element_injective : Function.Injective element := by
  intro a b same
  apply UInt8.toBitVec_inj.mp
  exact Binary.mk_injective degree_modulus same

theorem element_surjective : Function.Surjective element := by
  intro e
  obtain ⟨bits, eq⟩ := Binary.mk_surjective monic_modulus degree_modulus e
  exact ⟨⟨bits⟩, eq⟩

/-- Bytes and elements, one to one. -/
noncomputable def elements : UInt8 ≃ Element :=
  Equiv.ofBijective element ⟨element_injective, element_surjective⟩

theorem element_elements_symm (e : Element) : element (elements.symm e) = e :=
  elements.apply_symm_apply e

/-! ### Operations -/

theorem element_xor (a b : UInt8) : element (a ^^^ b) = element a + element b := by
  rw [element, UInt8.toBitVec_xor, Binary.polynomial_xor, map_add]
  rfl

theorem element_zero : element 0 = 0 := by
  rw [element]
  show AdjoinRoot.mk modulus (Binary.polynomial 0) = 0
  rw [Binary.polynomial_zero, map_zero]

theorem element_one : element 1 = 1 := by
  have bits : (1 : UInt8).toBitVec = BitVec.twoPow 8 0 := by decide
  rw [element, bits, Binary.polynomial_twoPow (by decide), pow_zero, map_one]

set_option maxRecDepth 4096 in
theorem toBitVec_double : ∀ a : UInt8, (double a).toBitVec = Binary.double 0x1b#8 a.toBitVec :=
  forall_byte (by decide)

theorem element_double (a : UInt8) : element (double a) = AdjoinRoot.root modulus * element a := by
  rw [element, toBitVec_double]
  exact Binary.mk_double modulus_eq a.toBitVec

/-- A single bit is a power of the variable, so that a product with it is a repeated doubling. -/
theorem element_mul (a b : UInt8) : element (mul a b) = element a * element b := by
  have doubled : ∀ n : Fin 7, unit n.succ = double (unit n.castSucc) := by decide
  have powers : ∀ i, element (mul a (unit i)) = element a * element (unit i) := by
    intro i
    induction i using Fin.induction with
    | zero => rw [show unit 0 = 1 from rfl, mul_one, element_one, MulOneClass.mul_one]
    | succ n ih => rw [doubled, mul_double, element_double, element_double, ih, mul_left_comm]
  have product : Words.Additive fun b => elements.symm (element a * element b) := by
    constructor
    intro b c
    apply element_injective
    simp only [element_xor, element_elements_symm, mul_add]
  have same := eq_of_units (mul_additive_right a) product (fun i => by
    rw [← powers]
    exact (elements.symm_apply_apply _).symm) b
  rw [same, element_elements_symm]

/-! ### The field -/

theorem isField : IsField Element where
  exists_pair_ne := ⟨element 0, element 1, fun same => absurd (element_injective same) (by decide)⟩
  mul_comm := CommRing.mul_comm
  mul_inv_cancel := by
    intro e nonzero
    obtain ⟨a, rfl⟩ := element_surjective e
    have different : a ≠ 0 := fun zero => nonzero (zero ▸ element_zero)
    exact ⟨element (inverse a), by rw [← element_mul, mul_inverse different, element_one]⟩

theorem irreducible_modulus : Irreducible modulus := by
  have maximal : (Ideal.span {modulus}).IsMaximal := Ideal.Quotient.maximal_of_isField _ isField
  exact ((Ideal.span_singleton_prime monic_modulus.ne_zero).mp maximal.isPrime).irreducible

instance : Fact (Irreducible modulus) := ⟨irreducible_modulus⟩

instance : CharP Element 2 :=
  charP_of_injective_algebraMap (algebraMap (ZMod 2) Element).injective 2

theorem element_inverse (a : UInt8) : element (inverse a) = (element a)⁻¹ := by
  by_cases zero : a = 0
  · rw [zero, inverse_zero, element_zero, inv_zero]
  · apply eq_inv_of_mul_eq_one_right
    rw [← element_mul, mul_inverse zero, element_one]

/-! ### Coefficients -/

/-- The coefficients of an element, as the representative of a degree below eight has them. -/
noncomputable def coefficient (e : Element) (i : Fin 8) : ZMod 2 :=
  (AdjoinRoot.modByMonicHom monic_modulus e).coeff i

/-- The element with given coefficients. -/
noncomputable def ofCoefficients (c : Fin 8 → ZMod 2) : Element :=
  AdjoinRoot.mk modulus (∑ i : Fin 8, C (c i) * X ^ (i : Nat))

theorem representative_element (byte : UInt8) :
    AdjoinRoot.modByMonicHom monic_modulus (element byte) = Binary.polynomial byte.toBitVec := by
  have small : (Binary.polynomial byte.toBitVec).degree < modulus.degree := by
    rw [degree_modulus]
    exact Binary.degree_polynomial_lt _
  rw [element, AdjoinRoot.modByMonicHom_mk, (modByMonic_eq_self_iff monic_modulus).mpr small]

theorem coefficient_element (byte : UInt8) (i : Fin 8) :
    coefficient (element byte) i = if byte.toBitVec.getLsbD i then 1 else 0 := by
  rw [coefficient, representative_element, Binary.coeff_polynomial]

theorem ofCoefficients_coefficient (e : Element) : ofCoefficients (coefficient e) = e := by
  obtain ⟨byte, rfl⟩ := element_surjective e
  simp only [ofCoefficients, coefficient, representative_element]
  rw [Binary.sum_coefficients (Binary.degree_polynomial_lt _)]
  rfl

end HeaderVault.Aes
