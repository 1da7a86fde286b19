import HeaderVault.Argon2.Block
import Mathlib.Data.Fintype.Basic
import Mathlib.Data.Nat.ModEq
import Mathlib.Data.Nat.Prime.Basic
import Mathlib.Tactic.FinCases
import Mathlib.Tactic.Ring

/-!
The mixing of words in place.

`mixAt` and `roundAt` mix four and sixteen words where they stand: one word after another is
replaced by what it makes with a second one that stays. Such a step can be undone if the combination
can be undone with the second word given (`combineAt_injective`). For a turned sum this is plain;
`mulAdd` multiplies the lower half by an odd number modulo `2 ^ 32`, which gives the lower half
back, and with it the product that was added (`mulAdd_injective`). So no round loses anything
(`roundAt_injective`).

A round on sixteen of many words is the round on these sixteen alone (`roundAt_comp`), which is
`round` (`roundAt_words`), and leaves all others as they were (`roundAt_other`).
-/

namespace HeaderVault

open Function

/-- The words of a square by their places. -/
def Digest.Words16.words (v : Words16) (i : Fin 16) : UInt64 := v.word i

namespace Argon2.Block

open HeaderVault.Digest

/-! ### Two words -/

theorem toNat_low (x : UInt64) : (x &&& 0xffffffff).toNat = x.toNat % UInt32.size := by
  rw [UInt64.toNat_and]
  exact Nat.and_two_pow_sub_one_eq_mod x.toNat 32

/-- Modulo `2 ^ 32` the first word is multiplied by an odd number. -/
theorem toNat_mulAdd_modEq (x y : UInt64) : (mulAdd x y).toNat ≡
    x.toNat * (2 * (y.toNat % UInt32.size) + 1) + y.toNat [MOD UInt32.size] := by
  have divides : UInt32.size ∣ 2 ^ 64 := ⟨UInt32.size, rfl⟩
  have value : (mulAdd x y).toNat ≡
      x.toNat + y.toNat + 2 * (x.toNat % UInt32.size * (y.toNat % UInt32.size))
        [MOD UInt32.size] := by
    rw [mulAdd, UInt64.toNat_add, UInt64.toNat_add, UInt64.toNat_mul, UInt64.toNat_mul, toNat_low,
      toNat_low]
    refine ((Nat.mod_modEq _ _).of_dvd divides).trans (.add ?_ ?_)
    · exact (Nat.mod_modEq _ _).of_dvd divides
    · exact ((Nat.mod_modEq _ _).of_dvd divides).trans
        (.mul_left _ ((Nat.mod_modEq _ _).of_dvd divides))
  have low : x.toNat % UInt32.size * (y.toNat % UInt32.size) ≡
      x.toNat * (y.toNat % UInt32.size) [MOD UInt32.size] :=
    (Nat.mod_modEq _ _).mul_right _
  calc (mulAdd x y).toNat
    _ ≡ x.toNat + y.toNat + 2 * (x.toNat * (y.toNat % UInt32.size)) [MOD UInt32.size] :=
        value.trans ((low.mul_left 2).add_left _)
    _ = x.toNat * (2 * (y.toNat % UInt32.size) + 1) + y.toNat := by ring

/-- An odd factor can be cancelled, so the lower half is determined. -/
theorem low_eq_of_mulAdd_eq {x x' y : UInt64} (same : mulAdd x y = mulAdd x' y) :
    x &&& 0xffffffff = x' &&& 0xffffffff := by
  have coprime : Nat.gcd UInt32.size (2 * (y.toNat % UInt32.size) + 1) = 1 :=
    Nat.Coprime.pow_left 32 (Nat.coprime_two_left.mpr (odd_two_mul_add_one _))
  have sums := toNat_mulAdd_modEq x y
  rw [same] at sums
  have products := Nat.ModEq.add_right_cancel' _ (sums.symm.trans (toNat_mulAdd_modEq x' y))
  apply UInt64.toNat_inj.mp
  rw [toNat_low, toNat_low]
  exact Nat.ModEq.cancel_right_of_coprime coprime products

theorem mulAdd_injective (y : UInt64) : Injective (mulAdd · y) := by
  intro x x' same
  have low := low_eq_of_mulAdd_eq same
  simp only [mulAdd, low] at same
  exact (UInt64.add_left_inj _).mp ((UInt64.add_left_inj _).mp same)

theorem toBitVec_rotateRight {count : UInt64} (below : count.toNat < 64)
    (positive : 0 < count.toNat) (w : UInt64) :
    (rotateRight w count).toBitVec = w.toBitVec.rotateRight count.toNat := by
  have right : (count.toBitVec % 64).toNat = count.toNat := Nat.mod_eq_of_lt below
  have rest : (64 - count).toNat = 64 - count.toNat :=
    UInt64.toNat_sub_of_le 64 count (UInt64.le_iff_toNat_le.mpr (Nat.le_of_lt below))
  have shorter : 64 - count.toNat < 64 := by omega
  have left : ((64 - count).toBitVec % 64).toNat = 64 - count.toNat := by
    rw [BitVec.toNat_umod, UInt64.toNat_toBitVec, rest]
    exact Nat.mod_eq_of_lt shorter
  rw [rotateRight, UInt64.toBitVec_or, UInt64.toBitVec_shiftRight, UInt64.toBitVec_shiftLeft,
    BitVec.rotateRight_def, BitVec.ushiftRight_eq', BitVec.shiftLeft_eq', left, right,
    Nat.mod_eq_of_lt below]

theorem rotateRight_injective {count : UInt64} (below : count.toNat < 64)
    (positive : 0 < count.toNat) : Injective (rotateRight · count) := by
  intro a b same
  have turned := congrArg UInt64.toBitVec same
  rw [toBitVec_rotateRight below positive, toBitVec_rotateRight below positive] at turned
  have bit := fun i => congrArg (fun bits : BitVec 64 => bits.getLsbD i) turned
  simp only [BitVec.getLsbD_rotateRight, Nat.mod_eq_of_lt below] at bit
  apply UInt64.toBitVec_inj.mp
  apply BitVec.eq_of_getLsbD_eq
  intro i inside
  by_cases high : count.toNat ≤ i
  · have place : i - count.toNat < 64 - count.toNat := by omega
    simpa [place, Nat.add_sub_cancel' high] using bit (i - count.toNat)
  · have place : i + (64 - count.toNat) < 64 := by omega
    simpa [place] using bit (i + (64 - count.toNat))

/-- The sum of two words, turned. -/
def turnedSum (count x y : UInt64) : UInt64 := rotateRight (x ^^^ y) count

theorem turnedSum_injective {count : UInt64} (below : count.toNat < 64)
    (positive : 0 < count.toNat) (y : UInt64) : Injective (turnedSum count · y) := by
  intro x x' same
  exact (UInt64.xor_left_inj y).mp (rotateRight_injective below positive same)

/-! ### Words in place -/

section InPlace

variable {ι κ : Type} [DecidableEq ι] [DecidableEq κ]

/-- Replaces a word by what it makes with another one. -/
def combineAt (f : UInt64 → UInt64 → UInt64) (v : ι → UInt64) (target source : ι) : ι → UInt64 :=
  update v target (f (v target) (v source))

/-- Mixes the words at four places. -/
def mixAt (v : ι → UInt64) (a b c d : ι) : ι → UInt64 :=
  let v := combineAt mulAdd v a b
  let v := combineAt (turnedSum 32) v d a
  let v := combineAt mulAdd v c d
  let v := combineAt (turnedSum 24) v b c
  let v := combineAt mulAdd v a b
  let v := combineAt (turnedSum 16) v d a
  let v := combineAt mulAdd v c d
  combineAt (turnedSum 63) v b c

/-- Mixes the columns and then the diagonals of the square that the words at sixteen places make. -/
def roundAt (v : ι → UInt64) (i : Fin 16 → ι) : ι → UInt64 :=
  let v := mixAt v (i 0) (i 4) (i 8) (i 12)
  let v := mixAt v (i 1) (i 5) (i 9) (i 13)
  let v := mixAt v (i 2) (i 6) (i 10) (i 14)
  let v := mixAt v (i 3) (i 7) (i 11) (i 15)
  let v := mixAt v (i 0) (i 5) (i 10) (i 15)
  let v := mixAt v (i 1) (i 6) (i 11) (i 12)
  let v := mixAt v (i 2) (i 7) (i 8) (i 13)
  mixAt v (i 3) (i 4) (i 9) (i 14)

variable {v : ι → UInt64} {a b c d k : ι} {i : Fin 16 → ι}

theorem combineAt_injective {f : UInt64 → UInt64 → UInt64} (undone : ∀ y, Injective (f · y))
    {target source : ι} (apart : source ≠ target) :
    Injective fun v : ι → UInt64 => combineAt f v target source := by
  intro v w same
  have others : ∀ k, k ≠ target → v k = w k := by
    intro k other
    simpa [combineAt, other] using congrFun same k
  have replaced : f (v target) (v source) = f (w target) (w source) := by
    simpa [combineAt] using congrFun same target
  -- The second word is the same in both, so the combination can be undone.
  rw [others source apart] at replaced
  funext k
  by_cases replacedHere : k = target
  · rw [replacedHere]
    exact undone _ replaced
  · exact others k replacedHere

theorem mixAt_injective (distinct : [a, b, c, d].Nodup) :
    Injective fun v : ι → UInt64 => mixAt v a b c d := by
  simp only [List.nodup_cons, List.mem_cons, List.not_mem_nil, or_false, not_or] at distinct
  obtain ⟨⟨ab, -, ad⟩, ⟨bc, -⟩, cd, -⟩ := distinct
  have sum {target source : ι} (apart : source ≠ target) :
      Injective fun v : ι → UInt64 => combineAt mulAdd v target source :=
    combineAt_injective mulAdd_injective apart
  have turn (count : UInt64) (below : count.toNat < 64) (positive : 0 < count.toNat)
      {target source : ι} (apart : source ≠ target) :
      Injective fun v : ι → UInt64 => combineAt (turnedSum count) v target source :=
    combineAt_injective (turnedSum_injective below positive) apart
  exact (turn 63 (by decide) (by decide) (Ne.symm bc)).comp <| (sum (Ne.symm cd)).comp <|
    (turn 16 (by decide) (by decide) ad).comp <| (sum (Ne.symm ab)).comp <|
    (turn 24 (by decide) (by decide) (Ne.symm bc)).comp <| (sum (Ne.symm cd)).comp <|
    (turn 32 (by decide) (by decide) ad).comp <| sum (Ne.symm ab)

theorem roundAt_injective (inj : Injective i) : Injective fun v : ι → UInt64 => roundAt v i := by
  have mix (a b c d : Fin 16) (distinct : [a, b, c, d].Nodup) :
      Injective fun v : ι → UInt64 => mixAt v (i a) (i b) (i c) (i d) :=
    mixAt_injective (distinct.map inj)
  exact (mix 3 4 9 14 (by decide)).comp <| (mix 2 7 8 13 (by decide)).comp <|
    (mix 1 6 11 12 (by decide)).comp <| (mix 0 5 10 15 (by decide)).comp <|
    (mix 3 7 11 15 (by decide)).comp <| (mix 2 6 10 14 (by decide)).comp <|
    (mix 1 5 9 13 (by decide)).comp <| mix 0 4 8 12 (by decide)

/-! ### Some words among many -/

theorem combineAt_comp {i : κ → ι} (inj : Injective i) (f : UInt64 → UInt64 → UInt64)
    (v : ι → UInt64) (target source : κ) :
    combineAt f v (i target) (i source) ∘ i = combineAt f (v ∘ i) target source :=
  update_comp_eq_of_injective v inj target _

theorem mixAt_comp {i : κ → ι} (inj : Injective i) (v : ι → UInt64) (a b c d : κ) :
    mixAt v (i a) (i b) (i c) (i d) ∘ i = mixAt (v ∘ i) a b c d := by
  simp only [mixAt, combineAt_comp inj]

theorem roundAt_comp (inj : Injective i) (v : ι → UInt64) :
    roundAt v i ∘ i = roundAt (v ∘ i) id := by
  simp only [roundAt, mixAt_comp inj, id]

theorem combineAt_other (f : UInt64 → UInt64 → UInt64) {target source : ι} (other : k ≠ target) :
    combineAt f v target source k = v k :=
  update_of_ne other _ _

theorem mixAt_other (ha : k ≠ a) (hb : k ≠ b) (hc : k ≠ c) (hd : k ≠ d) :
    mixAt v a b c d k = v k := by
  simp only [mixAt, combineAt_other _ ha, combineAt_other _ hb, combineAt_other _ hc,
    combineAt_other _ hd]

theorem roundAt_other (outside : ∀ j, k ≠ i j) : roundAt v i k = v k := by
  simp only [roundAt, mixAt_other (outside _) (outside _) (outside _) (outside _)]

/-! ### A square of words -/

theorem mixAt_places (distinct : [a, b, c, d].Nodup) :
    mixAt v a b c d a = (mix ⟨v a, v b, v c, v d⟩).a ∧
      mixAt v a b c d b = (mix ⟨v a, v b, v c, v d⟩).b ∧
      mixAt v a b c d c = (mix ⟨v a, v b, v c, v d⟩).c ∧
      mixAt v a b c d d = (mix ⟨v a, v b, v c, v d⟩).d := by
  simp only [List.nodup_cons, List.mem_cons, List.not_mem_nil, or_false, not_or] at distinct
  obtain ⟨⟨ab, ac, ad⟩, ⟨bc, bd⟩, cd, -⟩ := distinct
  simp [mixAt, combineAt, mix, turnedSum, ab, ac, ad, bc, bd, cd, Ne.symm ab, Ne.symm ac,
    Ne.symm ad, Ne.symm bc, Ne.symm bd, Ne.symm cd]

end InPlace

theorem roundAt_words (v : Words16) : roundAt v.words id = (round v).words := by
  funext k
  fin_cases k <;>
    simp (disch := decide) only [roundAt, id, mixAt_places, mixAt_other, Fin.reduceFinMk,
      Fin.zero_eta, Fin.mk_one] <;>
    rfl

end Argon2.Block

end HeaderVault
