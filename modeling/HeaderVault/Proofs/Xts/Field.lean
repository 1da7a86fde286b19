import HeaderVault.Proofs.Binary
import HeaderVault.Xts
import Mathlib.Tactic.ComputeDegree

/-!
Tweaks as elements of the field of `2 ^ 128` elements.

The bits of a tweak are the coefficients of a polynomial over the field of two elements, and the
field is what remains of these polynomials modulo `x^128 + x^7 + x^2 + x + 1`. Different tweaks are
different elements (`element_injective`), and `Tweak.double` multiplies by the class of `x`
(`element_double`).
-/

namespace HeaderVault.Xts.Tweak

open Polynomial

theorem polynomial_reduction : Binary.polynomial 0x87#128 = X ^ 7 + X ^ 2 + X + 1 := by
  have bits : 0x87#128 = BitVec.twoPow 128 7 ^^^ BitVec.twoPow 128 2 ^^^ BitVec.twoPow 128 1 ^^^
      BitVec.twoPow 128 0 := by decide
  rw [bits, Binary.polynomial_xor, Binary.polynomial_xor, Binary.polynomial_xor,
    Binary.polynomial_twoPow (by decide), Binary.polynomial_twoPow (by decide),
    Binary.polynomial_twoPow (by decide), Binary.polynomial_twoPow (by decide), pow_one, pow_zero]

/-! ### The field -/

@[irreducible]
noncomputable def modulus : (ZMod 2)[X] := X ^ 128 + (X ^ 7 + X ^ 2 + X + 1)

theorem modulus_eq : modulus = X ^ 128 + Binary.polynomial 0x87#128 := by
  rw [polynomial_reduction]
  unfold modulus
  rfl

theorem degree_modulus : modulus.degree = (128 : Nat) := by
  unfold modulus
  compute_degree!

/-- The element with the given bits, the lowest bit as the constant coefficient. -/
noncomputable def element (tweak : Tweak) : AdjoinRoot modulus :=
  AdjoinRoot.mk modulus (Binary.polynomial tweak)

/-- The class of `X`. -/
noncomputable def alpha : AdjoinRoot modulus := AdjoinRoot.root modulus

theorem element_injective : Function.Injective element := Binary.mk_injective degree_modulus

theorem element_double (tweak : Tweak) : tweak.double.element = alpha * tweak.element :=
  Binary.mk_double modulus_eq tweak

end HeaderVault.Xts.Tweak
