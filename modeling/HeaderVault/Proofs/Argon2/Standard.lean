import HeaderVault.Proofs.Argon2.Permutation

/-!
The compression function of RFC 9106, section 3.5, written out on its own.

A block is 128 words of 64 bits, and words are bit vectors (`Words`); a block of the matrix and its
words determine each other (`value`, `ofValue`). The sums of words, the rotations, the permutation
of sixteen words and its use on rows and columns are all stated here anew. Main statements:
compression of blocks is this function on their words (`value_compress`), and adding blocks is
adding their words (`value_xor`).
-/

namespace HeaderVault.Argon2

open Function

namespace Standard

abbrev Word := BitVec 64

/-- A block of 1024 bytes, each eight of them a word, the least significant byte first. -/
abbrev Words := Fin 128 → Word

def zero : Words := fun _ => 0

def sum (x y : Words) : Words := fun k => x k ^^^ y k

/-- The 32 lower bits of a word. -/
def trunc (a : Word) : Word := (a.setWidth 32).setWidth 64

/-- Modulo `2 ^ 64`. -/
def multiplyAdd (a b : Word) : Word := a + b + 2 * trunc a * trunc b

theorem neZero_sixteen : NeZero 16 := ⟨by decide⟩

theorem neZero_blockWords : NeZero 128 := ⟨by decide⟩

/-- A place among the sixteen words of a permutation. -/
def place (n : Nat) : Fin 16 := @Fin.ofNat 16 neZero_sixteen n

/-- A place among the words of a block. -/
def index (n : Nat) : Fin 128 := @Fin.ofNat 128 neZero_blockWords n

@[simp]
theorem place_val (j : Fin 16) : place j = j := Fin.ext (Nat.mod_eq_of_lt j.isLt)

@[simp]
theorem index_val (k : Fin 128) : index k = k := Fin.ext (Nat.mod_eq_of_lt k.isLt)

/-- The function GB on the words at four places. -/
def mixing (v : Fin 16 → Word) (a b c d : Fin 16) : Fin 16 → Word :=
  let v := update v a (multiplyAdd (v a) (v b))
  let v := update v d ((v d ^^^ v a).rotateRight 32)
  let v := update v c (multiplyAdd (v c) (v d))
  let v := update v b ((v b ^^^ v c).rotateRight 24)
  let v := update v a (multiplyAdd (v a) (v b))
  let v := update v d ((v d ^^^ v a).rotateRight 16)
  let v := update v c (multiplyAdd (v c) (v d))
  update v b ((v b ^^^ v c).rotateRight 63)

/-- The permutation P of eight registers of two words each. -/
def permutation (v : Fin 16 → Word) : Fin 16 → Word :=
  let v := mixing v (place 0) (place 4) (place 8) (place 12)
  let v := mixing v (place 1) (place 5) (place 9) (place 13)
  let v := mixing v (place 2) (place 6) (place 10) (place 14)
  let v := mixing v (place 3) (place 7) (place 11) (place 15)
  let v := mixing v (place 0) (place 5) (place 10) (place 15)
  let v := mixing v (place 1) (place 6) (place 11) (place 12)
  let v := mixing v (place 2) (place 7) (place 8) (place 13)
  mixing v (place 3) (place 4) (place 9) (place 14)

/-- P on every row of eight registers: word `k` is in row `k / 16`, at place `k % 16`. -/
def rows (v : Words) : Words := fun k =>
  permutation (fun j => v (index (16 * (k / 16) + j))) (place (k % 16))

/-- P on every column of eight registers: word `k` is the word `k % 2` of register `k / 2`, which is
in row `k / 16` and in column `k / 2 % 8`. -/
def columns (v : Words) : Words := fun k =>
  permutation (fun j => v (index (16 * (j / 2) + 2 * (k / 2 % 8) + j % 2)))
    (place (2 * (k / 16) + k % 2))

/-- The function G. -/
def compression (x y : Words) : Words := sum (columns (rows (sum x y))) (sum x y)

end Standard

namespace Block

open Standard (Word Words)

/-! ### Blocks as words -/

/-- Machine words as bit vectors, by their places. -/
def bits {ι : Type} (v : ι → UInt64) (k : ι) : Word := (v k).toBitVec

def value (block : Block) : Words := bits block.words

def ofValue (v : Words) : Block := sequence.symm fun k => .ofBitVec (v k)

@[simp]
theorem value_ofValue (v : Words) : (ofValue v).value = v := by
  rw [value, ofValue, show words = sequence from rfl, Equiv.apply_symm_apply]
  rfl

@[simp]
theorem ofValue_value (block : Block) : ofValue block.value = block := rfl

theorem value_zero : zero.value = Standard.zero := by
  funext k
  exact congrArg UInt64.toBitVec (words_zero k)

theorem value_xor (x y : Block) : (x.xor y).value = Standard.sum x.value y.value := by
  funext k
  exact congrArg UInt64.toBitVec (words_xor x y k)

/-! ### One round -/

theorem toBitVec_mulAdd (x y : UInt64) :
    (mulAdd x y).toBitVec = Standard.multiplyAdd x.toBitVec y.toBitVec := by
  have low (w : UInt64) : (w &&& 0xffffffff).toBitVec = Standard.trunc w.toBitVec := by
    apply BitVec.eq_of_toNat_eq
    have half : w.toNat % UInt32.size < 2 ^ 64 :=
      Nat.lt_trans (Nat.mod_lt _ (by decide)) (by decide)
    rw [UInt64.toNat_toBitVec, toNat_low, Standard.trunc, BitVec.toNat_setWidth,
      BitVec.toNat_setWidth, UInt64.toNat_toBitVec]
    exact (Nat.mod_eq_of_lt half).symm
  rw [mulAdd, UInt64.toBitVec_add, UInt64.toBitVec_add, UInt64.toBitVec_mul, UInt64.toBitVec_mul,
    low, low, Standard.multiplyAdd, BitVec.mul_assoc]
  rfl

theorem toBitVec_turnedSum {count : UInt64} (below : count.toNat < 64) (positive : 0 < count.toNat)
    (x y : UInt64) :
    (turnedSum count x y).toBitVec = (x.toBitVec ^^^ y.toBitVec).rotateRight count.toNat := by
  rw [turnedSum, toBitVec_rotateRight below positive, UInt64.toBitVec_xor]

theorem bits_combineAt (f : UInt64 → UInt64 → UInt64) (v : Fin 16 → UInt64)
    (target source : Fin 16) :
    bits (combineAt f v target source) =
      update (bits v) target (f (v target) (v source)).toBitVec := by
  funext k
  by_cases here : k = target
  · subst here
    simp only [bits, combineAt, update_self]
  · simp only [bits, combineAt, update_of_ne here]

theorem bits_mixAt (v : Fin 16 → UInt64) (a b c d : Fin 16) :
    bits (mixAt v a b c d) = Standard.mixing (bits v) a b c d := by
  have add (v : Fin 16 → UInt64) (target source : Fin 16) :
      bits (combineAt mulAdd v target source) =
        update (bits v) target (Standard.multiplyAdd (bits v target) (bits v source)) := by
    rw [bits_combineAt, toBitVec_mulAdd, bits, bits]
  have turn (count : UInt64) (below : count.toNat < 64) (positive : 0 < count.toNat)
      (v : Fin 16 → UInt64) (target source : Fin 16) :
      bits (combineAt (turnedSum count) v target source) =
        update (bits v) target ((bits v target ^^^ bits v source).rotateRight count.toNat) := by
    rw [bits_combineAt, toBitVec_turnedSum below positive, bits, bits]
  simp only [mixAt, Standard.mixing, add, turn 32 (by decide) (by decide),
    turn 24 (by decide) (by decide), turn 16 (by decide) (by decide),
    turn 63 (by decide) (by decide)]
  rfl

theorem bits_roundAt (v : Fin 16 → UInt64) :
    bits (roundAt v id) = Standard.permutation (bits v) := by
  simp only [roundAt, bits_mixAt, id, Standard.permutation]
  rfl

/-! ### All rounds -/

/-- A round on places of their own is the permutation of the words there. -/
theorem bits_roundsAt {places : Fin 8 → Fin 16 → Fin 128} (apart : Injective (uncurry places))
    (v : Fin 128 → UInt64) (i : Fin 8) (j : Fin 16) :
    bits (roundsAt places v) (places i j) = Standard.permutation (bits v ∘ places i) j := by
  have placed : roundsAt places v (places i j) = roundAt (v ∘ places i) id j :=
    congrFun (roundsAt_comp apart v i) j
  rw [bits, placed]
  exact congrFun (bits_roundAt (v ∘ places i)) j

theorem bits_rows (v : Fin 128 → UInt64) :
    bits (roundsAt rowPlaces v) = Standard.rows (bits v) := by
  funext k
  obtain ⟨⟨i, j⟩, rfl⟩ := rowPlaces_bijective.surjective k
  have row : (rowPlaces i j).val / 16 = i := by
    simp only [rowPlaces]
    omega
  have place : (rowPlaces i j).val % 16 = j := by
    simp only [rowPlaces]
    omega
  have words : (fun l : Fin 16 => bits v (Standard.index (16 * i.val + l.val))) =
      bits v ∘ rowPlaces i := by
    funext l
    exact congrArg (bits v) (Standard.index_val (rowPlaces i l))
  simp only [uncurry, Standard.rows, row, place, words, Standard.place_val]
  exact bits_roundsAt rowPlaces_bijective.injective v i j

theorem bits_columns (v : Fin 128 → UInt64) :
    bits (roundsAt columnPlaces v) = Standard.columns (bits v) := by
  funext k
  obtain ⟨⟨i, j⟩, rfl⟩ := columnPlaces_bijective.surjective k
  have column : (columnPlaces i j).val / 2 % 8 = i := by
    simp only [columnPlaces]
    omega
  have place : 2 * ((columnPlaces i j).val / 16) + (columnPlaces i j).val % 2 = j := by
    simp only [columnPlaces]
    omega
  have words : (fun l : Fin 16 =>
      bits v (Standard.index (16 * (l.val / 2) + 2 * i.val + l.val % 2))) =
        bits v ∘ columnPlaces i := by
    funext l
    have number : 16 * (l.val / 2) + 2 * i.val + l.val % 2 = columnPlaces i l := by
      simp only [columnPlaces]
      omega
    rw [number, Standard.index_val, comp_apply]
  simp only [uncurry, Standard.columns, column, place, words, Standard.place_val]
  exact bits_roundsAt columnPlaces_bijective.injective v i j

theorem value_compress (x y : Block) :
    (x.compress y).value = Standard.compression x.value y.value := by
  have sum : bits (fun k => x.words k ^^^ y.words k) = Standard.sum x.value y.value := rfl
  rw [value, words_compress, Standard.compression, ← sum, ← bits_rows, ← bits_columns]
  rfl

end Block

end HeaderVault.Argon2
