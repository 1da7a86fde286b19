import HeaderVault.Aes.Schedule
import HeaderVault.Proofs.Aes.Elements

/-!
The cipher of FIPS-197, stated over the field of 256 elements.

Bytes are elements of the field throughout, and nothing here is computed with: the substitution is
the affine map of the field's own inverse, the columns are multiplied as polynomials modulo
`x^4 + 1`, and the words of the expanded key are a recursion on their numbers. What such a product
is in each row is a theorem about it (`mixColumn_eq`).
-/

namespace HeaderVault.Aes

theorem KeySize.words_pos (size : KeySize) : 0 < size.words := by cases size <;> decide

namespace Standard

open Polynomial

abbrev Word := Fin 4 → Element

/-- The element in a row and a column. -/
abbrev State := Fin 4 → Fin 4 → Element

/-! ### The transformations of a state -/

/-- The coefficients of `{63}`. -/
def affineConstant : Fin 8 → ZMod 2 := ![1, 1, 0, 0, 0, 1, 1, 0]

/-- Coefficient `i` is the sum of those of the inverse at `i`, `i + 4`, `i + 5`, `i + 6` and `i + 7`
modulo eight, and of the constant's. -/
noncomputable def affine (e : Element) : Element :=
  ofCoefficients fun i => coefficient e i + coefficient e (i + 4) + coefficient e (i + 5) +
    coefficient e (i + 6) + coefficient e (i + 7) + affineConstant i

/-- The substitution; the inverse of `0` is `0`. -/
noncomputable def sbox (e : Element) : Element := affine e⁻¹

noncomputable def subBytes (s : State) : State := fun r c => sbox (s r c)

/-- Row `r` is shifted over `r` places, cyclically. -/
def shiftRows (s : State) : State := fun r c => s r (c + r)

/-- A column as a polynomial of a degree below four, row `r` the coefficient at `x^r`. -/
noncomputable def columnPolynomial (w : Word) : Element[X] := ∑ r : Fin 4, C (w r) * X ^ (r : Nat)

/-- The polynomial `{03}x^3 + {01}x^2 + {01}x + {02}`. -/
noncomputable def mixing : Element[X] :=
  C (element 0x03) * X ^ 3 + C (element 0x01) * X ^ 2 + C (element 0x01) * X + C (element 0x02)

noncomputable def mixColumn (w : Word) : Word := fun r =>
  (mixing * columnPolynomial w %ₘ (X ^ 4 + 1)).coeff r

noncomputable def mixColumns (s : State) : State := fun r c => mixColumn (fun row => s row c) r

/-- Column `c` takes word `4 * round + c` of the expanded key. -/
noncomputable def addRoundKey (w : Nat → Word) (round : Nat) (s : State) : State := fun r c =>
  s r c + w (4 * round + c) r

/-! ### Key expansion -/

def rotWord (w : Word) : Word := fun r => w (r + 1)

noncomputable def subWord (w : Word) : Word := fun r => sbox (w r)

/-- The word `[x^(i-1), {00}, {00}, {00}]`. -/
noncomputable def rcon (i : Nat) : Word := ![AdjoinRoot.root modulus ^ (i - 1), 0, 0, 0]

/-- What is added for word `i`, made from the word before it. -/
noncomputable def step (keyWords i : Nat) (previous : Word) : Word :=
  if i % keyWords = 0 then subWord (rotWord previous) + rcon (i / keyWords)
  else if 6 < keyWords ∧ i % keyWords = 4 then subWord previous
  else previous

/-- The words of the expanded key, without end; a cipher takes the first `4 * (rounds + 1)`. -/
noncomputable def keyExpansion (size : KeySize) (key : Fin size.bytes → Element) (i : Nat) : Word :=
  if inside : i < size.words then fun r => key ⟨4 * i + r, by unfold KeySize.bytes; omega⟩
  else
    keyExpansion size key (i - size.words) +
      step size.words i (keyExpansion size key (i - 1))
termination_by i
decreasing_by all_goals have := size.words_pos; omega

/-! ### The cipher -/

/-- The state after the initial round key and a number of rounds. -/
noncomputable def afterRounds (w : Nat → Word) (s : State) : Nat → State
  | 0 => addRoundKey w 0 s
  | round + 1 =>
      addRoundKey w (round + 1) (mixColumns (shiftRows (subBytes (afterRounds w s round))))

/-- The cipher; its last round mixes no columns. -/
noncomputable def cipherState (rounds : Nat) (w : Nat → Word) (s : State) : State :=
  addRoundKey w rounds (shiftRows (subBytes (afterRounds w s (rounds - 1))))

/-- Elements fill the state column by column. -/
def load (input : Fin 16 → Element) : State := fun r c => input ⟨r + 4 * c, by omega⟩

def store (s : State) : Fin 16 → Element := fun i => s ⟨i % 4, by omega⟩ ⟨i / 4, by omega⟩

/-- Sixteen elements under a key of four, six or eight words. -/
noncomputable def cipher (size : KeySize) (key : Fin size.bytes → Element)
    (input : Fin 16 → Element) : Fin 16 → Element :=
  store (cipherState size.rounds (keyExpansion size key) (load input))

/-! ### The product of a column -/

theorem columnPolynomial_eq (w : Word) :
    columnPolynomial w = C (w 0) + C (w 1) * X + C (w 2) * X ^ 2 + C (w 3) * X ^ 3 := by
  simp [columnPolynomial, Fin.sum_univ_four]

theorem coeff_columnPolynomial (w : Word) (r : Fin 4) : (columnPolynomial w).coeff r = w r := by
  rw [columnPolynomial_eq]
  fin_cases r <;> simp [coeff_X, coeff_C]

theorem degree_columnPolynomial_lt (w : Word) : (columnPolynomial w).degree < (4 : Nat) :=
  degree_sum_fin_lt w

/-- The product with the polynomial, what it has from `x^4` on added four places below. -/
noncomputable def mixed (w : Word) : Word :=
  ![element 2 * w 0 + element 3 * w 1 + w 2 + w 3, w 0 + element 2 * w 1 + element 3 * w 2 + w 3,
    w 0 + w 1 + element 2 * w 2 + element 3 * w 3, element 3 * w 0 + w 1 + w 2 + element 2 * w 3]

theorem mixing_mul (w : Word) :
    columnPolynomial (mixed w) + (X ^ 4 + 1) * (C (element 3 * w 1 + w 2 + w 3) +
      C (element 3 * w 2 + w 3) * X + C (element 3 * w 3) * X ^ 2) =
        mixing * columnPolynomial w := by
  have two : (2 : Element[X]) = 0 := CharTwo.two_eq_zero
  rw [columnPolynomial_eq, columnPolynomial_eq, mixing, element_one]
  simp only [mixed, Matrix.cons_val, map_add, map_mul, map_one]
  generalize C (element 3) = three, C (element 2) = double
  generalize C (w 0) = a, C (w 1) = b, C (w 2) = c, C (w 3) = d
  linear_combination (three * b + c + d + (three * c + d) * X + three * d * X ^ 2) * two

theorem mixColumn_eq (w : Word) : mixColumn w = mixed w := by
  have monic : (X ^ 4 + 1 : Element[X]).Monic := by monicity!
  have degree : (X ^ 4 + 1 : Element[X]).degree = (4 : Nat) := by compute_degree!
  have small : (columnPolynomial (mixed w)).degree < (X ^ 4 + 1 : Element[X]).degree := by
    rw [degree]
    exact degree_columnPolynomial_lt _
  have remainder := (div_modByMonic_unique _ _ monic ⟨mixing_mul w, small⟩).2
  funext r
  rw [mixColumn, remainder, coeff_columnPolynomial]

end Standard

end HeaderVault.Aes
