import HeaderVault.Proofs.Argon2.Mixing
import Mathlib.Data.FinEnum
import Mathlib.SetTheory.Cardinal.Finite

/-!
The compression of blocks without the addition at its end is a permutation.

The 128 words of a block are mixed in place by sixteen rounds, eight on the rows of sixteen
neighbours and eight on the columns of neighbouring pairs. Every word is in exactly one row and in
exactly one column (`rowPlaces_bijective`, `columnPlaces_bijective`), so the rounds of one kind do
not meet: each is a round on the words that were there before (`roundsAt_comp`). It follows that
together they lose nothing (`roundsAt_injective`), and that they are what `permute` does to rows
and to the rows of the transposed square (`words_permute`). What compression adds to them is the sum
of the two blocks, and nothing else of the blocks enters (`compress_exact`).
-/

namespace HeaderVault.Argon2.Block

open HeaderVault.Digest Function

/-! ### Rounds on places that do not meet -/

section Rounds

variable {ι κ : Type} {places : κ → Fin 16 → ι}

theorem eq_of_comp_places (partition : Bijective (uncurry places)) {v w : ι → UInt64}
    (each : ∀ i, v ∘ places i = w ∘ places i) : v = w := by
  funext k
  obtain ⟨⟨i, j⟩, rfl⟩ := partition.surjective k
  exact congrFun (each i) j

theorem places_injective (apart : Injective (uncurry places)) (i : κ) : Injective (places i) := by
  intro j j' same
  exact congrArg Prod.snd (@apart (i, j) (i, j') same)

variable [DecidableEq ι]

theorem roundAt_comp_other (apart : Injective (uncurry places)) {i i' : κ} (other : i ≠ i')
    (v : ι → UInt64) : roundAt v (places i') ∘ places i = v ∘ places i := by
  funext j
  apply roundAt_other
  intro j' same
  exact other (congrArg Prod.fst (@apart (i, j) (i', j') same))

theorem foldl_roundAt_comp [DecidableEq κ] (apart : Injective (uncurry places)) {order : List κ}
    (once : order.Nodup) (v : ι → UInt64) (i : κ) :
    order.foldl (fun v i => roundAt v (places i)) v ∘ places i =
      if i ∈ order then roundAt (v ∘ places i) id else v ∘ places i := by
  induction order generalizing v with
  | nil => rfl
  | cons first rest ih =>
      obtain ⟨notAgain, onceLater⟩ := List.nodup_cons.mp once
      rw [List.foldl_cons, ih onceLater]
      by_cases now : i = first
      · subst now
        rw [if_neg notAgain, if_pos List.mem_cons_self,
          roundAt_comp (places_injective apart i)]
      · -- The first round is on other places and leaves these for the rounds after it.
        rw [roundAt_comp_other apart now]
        simp only [List.mem_cons, now, false_or]

/-- Eight rounds one after the other, each on places of its own. -/
def roundsAt (places : Fin 8 → Fin 16 → ι) (v : ι → UInt64) : ι → UInt64 :=
  (List.finRange 8).foldl (fun v i => roundAt v (places i)) v

variable {places : Fin 8 → Fin 16 → ι}

theorem roundsAt_comp (apart : Injective (uncurry places)) (v : ι → UInt64) (i : Fin 8) :
    roundsAt places v ∘ places i = roundAt (v ∘ places i) id := by
  rw [roundsAt, foldl_roundAt_comp apart (List.nodup_finRange 8), if_pos (List.mem_finRange i)]

theorem roundsAt_injective (partition : Bijective (uncurry places)) :
    Injective (roundsAt places) := by
  intro v w same
  apply eq_of_comp_places partition
  intro i
  apply roundAt_injective injective_id
  have part := congrArg (· ∘ places i) same
  simp only [roundsAt_comp partition.injective] at part
  exact part

end Rounds

/-! ### Rows and columns -/

/-- Sixteen neighbours. -/
def rowPlaces (i : Fin 8) (j : Fin 16) : Fin 128 := ⟨16 * i + j, by omega⟩

/-- Eight pairs of neighbours, each sixteen places after the one before it. -/
def columnPlaces (i : Fin 8) (j : Fin 16) : Fin 128 := ⟨2 * i + 16 * (j / 2) + j % 2, by omega⟩

theorem partition_of_apart {places : Fin 8 → Fin 16 → Fin 128}
    (apart : ∀ i j i' j', (places i j).val = (places i' j').val → i.val = i'.val ∧ j.val = j'.val) :
    Bijective (uncurry places) := by
  apply (Fintype.bijective_iff_injective_and_card _).mpr
  refine ⟨?_, by simp⟩
  rintro ⟨i, j⟩ ⟨i', j'⟩ same
  obtain ⟨first, second⟩ := apart i j i' j' (congrArg Fin.val same)
  exact Prod.ext (Fin.ext first) (Fin.ext second)

theorem rowPlaces_bijective : Bijective (uncurry rowPlaces) := by
  apply partition_of_apart
  intro i j i' j' same
  simp only [rowPlaces] at same
  omega

theorem columnPlaces_bijective : Bijective (uncurry columnPlaces) := by
  apply partition_of_apart
  intro i j i' j' same
  simp only [columnPlaces] at same
  omega

/-- The eight row rounds and the eight column rounds on 128 words. -/
def permuteAt (v : Fin 128 → UInt64) : Fin 128 → UInt64 :=
  roundsAt columnPlaces (roundsAt rowPlaces v)

theorem permuteAt_bijective : Bijective permuteAt := by
  apply Finite.injective_iff_bijective.mp
  exact (roundsAt_injective columnPlaces_bijective).comp (roundsAt_injective rowPlaces_bijective)

/-! ### The words of a block -/

/-- The words of a block by their places. -/
def words (block : Block) (i : Fin 128) : UInt64 := block.word i

/-- Blocks and sequences of 128 words, one to one. -/
def sequence : Block ≃ (Fin 128 → UInt64) where
  toFun := words
  invFun v := ofRows fun i => Words16.ofFn fun j => v (Fin.ofNat 128 (16 * i + j))
  left_inv _ := rfl
  right_inv v := by
    funext k
    obtain ⟨⟨i, j⟩, rfl⟩ := rowPlaces_bijective.surjective k
    fin_cases i <;> fin_cases j <;> rfl

theorem words_injective : Injective words := sequence.injective

theorem card_block : Nat.card Block = 2 ^ 8192 := by
  rw [Nat.card_congr sequence, Nat.card_fun, Nat.card_eq_fintype_card, Nat.card_eq_fintype_card,
    Fintype.card_fin, ← FinEnum.card_eq_fintypeCard, FinEnum.card_UInt64, ← pow_mul]

theorem words_rows (block : Block) (i : Fin 8) :
    block.words ∘ rowPlaces i = (block.row i).words := by
  funext j
  have row : (16 * i.val + j.val) / 16 = i := by omega
  have place : (16 * i.val + j.val) % 16 = j % 16 := by omega
  simp only [comp_apply, words, word, rowPlaces, row, Words16.words, Words16.word, place]

theorem words_columns (block : Block) (i : Fin 8) :
    block.words ∘ columnPlaces i = (block.transpose.row i).words := by
  funext j
  fin_cases i <;> fin_cases j <;> rfl

theorem row_mapRows (f : Words16 → Words16) (block : Block) (i : Nat) :
    (block.mapRows f).row i = f (block.row i) := by
  simp only [row, mapRows]
  split <;> rfl

theorem transpose_transpose (block : Block) : block.transpose.transpose = block := rfl

theorem words_mapRows (block : Block) :
    (block.mapRows round).words = roundsAt rowPlaces block.words := by
  apply eq_of_comp_places rowPlaces_bijective
  intro i
  rw [roundsAt_comp rowPlaces_bijective.injective, words_rows, words_rows, row_mapRows,
    roundAt_words]

theorem words_mapColumns (block : Block) :
    (block.transpose.mapRows round).transpose.words = roundsAt columnPlaces block.words := by
  apply eq_of_comp_places columnPlaces_bijective
  intro i
  rw [roundsAt_comp columnPlaces_bijective.injective, words_columns, words_columns,
    transpose_transpose, row_mapRows, roundAt_words]

theorem words_permute (block : Block) : block.permute.words = permuteAt block.words := by
  rw [permute, words_mapColumns, words_mapRows, permuteAt]

theorem permute_bijective : Bijective permute := by
  have conjugate : permute = sequence.symm ∘ permuteAt ∘ sequence := by
    funext block
    exact (sequence.symm_apply_eq.mpr (words_permute block).symm).symm
  rw [conjugate]
  exact sequence.symm.bijective.comp (permuteAt_bijective.comp sequence.bijective)

/-! ### Sums of blocks -/

theorem row_zipWith (f : UInt64 → UInt64 → UInt64) (x y : Block) (i : Nat) :
    (x.zipWith f y).row i = (x.row i).zipWith f (y.row i) := by
  simp only [row, zipWith]
  split <;> rfl

theorem word_zipWith (f : UInt64 → UInt64 → UInt64) (u v : Words16) (i : Nat) :
    (u.zipWith f v).word i = f (u.word i) (v.word i) := by
  simp only [Words16.word, Words16.zipWith]
  split <;> rfl

theorem words_xor (x y : Block) (i : Fin 128) : (x.xor y).words i = x.words i ^^^ y.words i := by
  simp only [words, word, xor, row_zipWith, word_zipWith]

theorem words_zero (i : Fin 128) : zero.words i = 0 := by
  fin_cases i <;> rfl

theorem xor_comm (x y : Block) : x.xor y = y.xor x := by
  apply words_injective
  funext i
  rw [words_xor, words_xor, UInt64.xor_comm]

theorem xor_zero (x : Block) : x.xor zero = x := by
  apply words_injective
  funext i
  rw [words_xor, words_zero, UInt64.xor_zero]

theorem xor_xor_self (x y : Block) : (x.xor y).xor y = x := by
  apply words_injective
  funext i
  rw [words_xor, words_xor, UInt64.xor_assoc, UInt64.xor_self, UInt64.xor_zero]

/-! ### Compression -/

/-- Two sequences of words into one: the sixteen rounds on their sum, and the sum once more. -/
def compressAt (x y : Fin 128 → UInt64) : Fin 128 → UInt64 :=
  let sum := fun i => x i ^^^ y i
  fun i => permuteAt sum i ^^^ sum i

theorem words_compress (x y : Block) : (x.compress y).words = compressAt x.words y.words := by
  have sum : (x.xor y).words = fun i => x.words i ^^^ y.words i := funext (words_xor x y)
  funext i
  rw [compress, words_xor, words_permute, sum, compressAt]

theorem compress_zero_xor (block : Block) : (block.compress zero).xor block = block.permute := by
  rw [compress, xor_zero, xor_xor_self]

/-- Compression is sixteen rounds in place on the sum of two blocks, with the sum added, and these
rounds are a permutation of all blocks. -/
theorem compress_exact :
    Bijective (fun block : Block => (block.compress zero).xor block) ∧
      (∀ x y x' y' : Block, x.xor y = x'.xor y' → x.compress y = x'.compress y') ∧
      (∀ x y : Block, (x.compress y).words = compressAt x.words y.words) ∧
      Bijective permuteAt ∧ Nat.card Block = 2 ^ 8192 := by
  refine ⟨?_, ?_, words_compress, permuteAt_bijective, card_block⟩
  · simp only [compress_zero_xor]
    exact permute_bijective
  · intro x y x' y' same
    rw [compress, compress, same]

/-- A block with a single word that is not zero. -/
def marked (place : Fin 128) (word : UInt64) : Block :=
  sequence.symm (update (fun _ => 0) place word)

theorem compress_exact_swapped :
    (marked 3 0xdeadbeef).xor (marked 77 42) = (marked 77 42).xor (marked 3 0xdeadbeef) ∧
      (marked 3 0xdeadbeef).compress (marked 77 42) =
        (marked 77 42).compress (marked 3 0xdeadbeef) :=
  ⟨xor_comm _ _, compress_exact.2.1 _ _ _ _ (xor_comm _ _)⟩

end HeaderVault.Argon2.Block
