import Mathlib.Algebra.CharP.Two
import Mathlib.Algebra.Field.ZMod
import Mathlib.RingTheory.AdjoinRoot

/-!
Words as polynomials over the field of two elements.

The bits of a word are the coefficients of a polynomial, the lowest bit the constant one
(`coeff_polynomial`), and exclusive or adds polynomials (`polynomial_xor`). Modulo a polynomial
whose degree is the width of the words, every class is that of exactly one word (`mk_injective`,
`mk_surjective`), and shifting a word, with a reduction for the bit that falls out, multiplies its
class by that of the variable (`mk_double`).
-/

namespace HeaderVault.Binary

open Polynomial

section Polynomials

variable {width : Nat}

/-- The polynomial with the bits of a word as coefficients. -/
@[irreducible]
noncomputable def polynomial (bits : BitVec width) : (ZMod 2)[X] :=
  ∑ i ∈ Finset.range width, if bits.getLsbD i then X ^ i else 0

theorem coeff_polynomial (bits : BitVec width) (k : Nat) :
    (polynomial bits).coeff k = if bits.getLsbD k then 1 else 0 := by
  have single : ∀ i, (if bits.getLsbD i then (X ^ i : (ZMod 2)[X]) else 0).coeff k =
      if k = i then (if bits.getLsbD k then 1 else 0) else 0 := by
    intro i
    split_ifs <;> simp_all [coeff_X_pow]
  unfold polynomial
  simp only [finsetSum_coeff, single, Finset.sum_ite_eq, Finset.mem_range]
  by_cases inside : k < width
  · rw [if_pos inside]
  · rw [if_neg inside, BitVec.getLsbD_of_ge bits k (by omega)]
    rfl

theorem polynomial_xor (a b : BitVec width) :
    polynomial (a ^^^ b) = polynomial a + polynomial b := by
  ext k
  rw [coeff_add, coeff_polynomial, coeff_polynomial, coeff_polynomial, BitVec.getLsbD_xor]
  cases a.getLsbD k <;> cases b.getLsbD k <;> rfl

@[simp]
theorem polynomial_zero : polynomial (0 : BitVec width) = 0 := by
  ext k
  simp [coeff_polynomial]

theorem polynomial_injective : Function.Injective (@polynomial width) := by
  intro a b same
  apply BitVec.eq_of_getLsbD_eq
  intro i _
  have bit := congrArg (fun p => coeff p i) same
  simp only [coeff_polynomial] at bit
  revert bit
  cases a.getLsbD i <;> cases b.getLsbD i <;> simp

theorem degree_polynomial_lt (bits : BitVec width) : (polynomial bits).degree < width := by
  apply (degree_lt_iff_coeff_zero _ _).mpr
  intro k large
  rw [coeff_polynomial, BitVec.getLsbD_of_ge bits k large]
  rfl

theorem polynomial_twoPow {i : Nat} (inside : i < width) :
    polynomial (BitVec.twoPow width i) = X ^ i := by
  ext k
  rw [coeff_polynomial, coeff_X_pow, BitVec.getLsbD_twoPow]
  by_cases same : k = i
  · simp [same, inside]
  · simp [same, Ne.symm same]

theorem sum_coefficients {p : (ZMod 2)[X]} (small : p.degree < width) :
    ∑ i : Fin width, C (p.coeff i) * X ^ (i : Nat) = p := by
  ext k
  simp only [finsetSum_coeff, coeff_C_mul_X_pow]
  by_cases inside : k < width
  · rw [Finset.sum_eq_single ⟨k, inside⟩]
    · simp
    · intro i _ other
      exact if_neg fun same => other (Fin.ext same.symm)
    · simp
  · rw [(degree_lt_iff_coeff_zero _ _).mp small k (by omega)]
    exact Finset.sum_eq_zero fun i _ => if_neg (by omega)

/-- Every polynomial of a small degree has its coefficients in a word. -/
theorem exists_polynomial {p : (ZMod 2)[X]} (small : p.degree < width) :
    ∃ bits : BitVec width, polynomial bits = p := by
  rw [← sum_coefficients small]
  refine Finset.sum_induction _ (fun q => ∃ bits : BitVec width, polynomial bits = q) ?_ ?_ ?_
  · rintro _ _ ⟨a, rfl⟩ ⟨b, rfl⟩
    exact ⟨a ^^^ b, polynomial_xor a b⟩
  · exact ⟨0, polynomial_zero⟩
  · intro i _
    have binary : ∀ c : ZMod 2, c = 0 ∨ c = 1 := by decide
    rcases binary (p.coeff i) with zero | one
    · exact ⟨0, by rw [zero, C_0, zero_mul, polynomial_zero]⟩
    · exact ⟨.twoPow width i, by rw [one, C_1, one_mul, polynomial_twoPow i.isLt]⟩

/-- A shift multiplies by the variable, but for the highest bit, which it drops. -/
theorem polynomial_shiftLeft (bits : BitVec width) :
    polynomial (bits <<< 1) + (if bits.msb then X ^ width else 0) = X * polynomial bits := by
  have above : ∀ k, (if bits.msb then (X ^ width : (ZMod 2)[X]) else 0).coeff k =
      if k = width ∧ bits.getLsbD (width - 1) then 1 else 0 := by
    intro k
    rw [BitVec.msb_eq_getLsbD_last]
    split_ifs <;> simp_all [coeff_X_pow]
  ext k
  rw [coeff_add, above, coeff_polynomial, BitVec.getLsbD_shiftLeft]
  cases k with
  | zero =>
      have outside : ¬(0 = width ∧ bits.getLsbD (width - 1) = true) := by
        rintro ⟨empty, bit⟩
        rw [BitVec.getLsbD_of_ge bits _ (by omega)] at bit
        cases bit
      rw [coeff_X_mul_zero, if_neg outside]
      simp
  | succ k =>
      rw [coeff_X_mul, coeff_polynomial]
      rcases Nat.lt_trichotomy (k + 1) width with below | rfl | beyond
      · simp [below, Nat.ne_of_lt below]
      · simp
      · have outside : ¬k + 1 < width := by omega
        rw [BitVec.getLsbD_of_ge bits k (by omega)]
        simp [outside, Nat.ne_of_gt beyond]

end Polynomials

/-! ### Classes -/

section Classes

variable {width : Nat} {modulus : (ZMod 2)[X]}

theorem mk_injective (degree : modulus.degree = width) :
    Function.Injective fun bits : BitVec width => AdjoinRoot.mk modulus (polynomial bits) := by
  intro a b same
  have divides : modulus ∣ polynomial a - polynomial b := AdjoinRoot.mk_eq_mk.mp same
  have small : (polynomial a - polynomial b).degree < modulus.degree := by
    rw [degree]
    apply (degree_sub_le _ _).trans_lt
    apply max_lt
    · exact degree_polynomial_lt a
    · exact degree_polynomial_lt b
  apply polynomial_injective
  apply sub_eq_zero.mp
  exact eq_zero_of_dvd_of_degree_lt divides small

theorem mk_surjective (monic : modulus.Monic) (degree : modulus.degree = width) :
    Function.Surjective fun bits : BitVec width => AdjoinRoot.mk modulus (polynomial bits) := by
  intro element
  have small : (AdjoinRoot.modByMonicHom monic element).degree < width := by
    obtain ⟨p, rfl⟩ := AdjoinRoot.mk_surjective element
    rw [AdjoinRoot.modByMonicHom_mk, ← degree]
    exact degree_modByMonic_lt p monic
  obtain ⟨bits, eq⟩ := exists_polynomial small
  refine ⟨bits, ?_⟩
  show AdjoinRoot.mk modulus (polynomial bits) = element
  rw [eq, AdjoinRoot.mk_leftInverse monic]

/-- A shift, with a reduction for the bit that falls out. -/
def double (reduction bits : BitVec width) : BitVec width :=
  if bits.msb then (bits <<< 1) ^^^ reduction else bits <<< 1

theorem mk_double {reduction : BitVec width} (shape : modulus = X ^ width + polynomial reduction)
    (bits : BitVec width) :
    AdjoinRoot.mk modulus (polynomial (double reduction bits)) =
      AdjoinRoot.root modulus * AdjoinRoot.mk modulus (polynomial bits) := by
  have overflow : AdjoinRoot.mk modulus (X ^ width) =
      AdjoinRoot.mk modulus (polynomial reduction) := by
    apply AdjoinRoot.mk_eq_mk.mpr
    rw [CharTwo.sub_eq_add, ← shape]
  have shifted := congrArg (AdjoinRoot.mk modulus) (polynomial_shiftLeft bits)
  rw [map_mul, AdjoinRoot.mk_X, map_add] at shifted
  rw [← shifted, double]
  by_cases high : bits.msb = true
  · rw [if_pos high, if_pos high, polynomial_xor, map_add, overflow]
  · rw [if_neg high, if_neg high, map_zero, add_zero]

end Classes

end HeaderVault.Binary
