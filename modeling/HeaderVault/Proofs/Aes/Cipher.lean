import HeaderVault.Aes.Cipher
import HeaderVault.Proofs.Aes.Field

/-!
Decryption and encryption undo each other.

`mix` and `unmix` are additive maps of columns, so that they undo each other is a matter of the
columns with a single bit. A round of decryption with unmixed keys is a round of encryption read
backwards (`decryptRounds`, `encryptRounds`), and `Cipher.decrypt_encrypt` and
`Cipher.encrypt_decrypt` put the two schedules of a key together.
-/

namespace HeaderVault.Aes

open Words

/-! ### Columns -/

namespace Column

theorem xor_assoc (a b c : Column) : (a.xor b).xor c = a.xor (b.xor c) := by
  simp [xor, UInt8.xor_assoc]

@[simp]
theorem xor_self (a : Column) : a.xor a = zero := by
  simp [xor, zero]

@[simp]
theorem xor_zero (a : Column) : a.xor zero = a := by
  simp [xor, zero]

@[simp]
theorem xor_cancel (a b : Column) : (a.xor b).xor b = a := by
  rw [xor_assoc, xor_self, xor_zero]

instance : XorOp Column := ⟨xor⟩

/-- The column with one byte that may differ from zero. -/
def single (place : Fin 4) (byte : UInt8) : Column :=
  match place with
  | 0 => ⟨byte, 0, 0, 0⟩
  | 1 => ⟨0, byte, 0, 0⟩
  | 2 => ⟨0, 0, byte, 0⟩
  | 3 => ⟨0, 0, 0, byte⟩

theorem single_additive (place : Fin 4) : Additive (single place) where
  map_xor a b := by
    change single place (a ^^^ b) = (single place a).xor (single place b)
    unfold single xor
    split <;> simp

theorem sum_singles (a : Column) :
    single 0 a.b0 ^^^ (single 1 a.b1 ^^^ (single 2 a.b2 ^^^ single 3 a.b3)) = a := by
  change (single 0 a.b0).xor ((single 1 a.b1).xor ((single 2 a.b2).xor (single 3 a.b3))) = a
  simp [single, xor]

/-- Additive maps are equal when they agree on columns with a single bit. -/
theorem eq_of_units {f g : Column → Column} (hf : Additive f) (hg : Additive g)
    (agree : ∀ place i, f (single place (unit i)) = g (single place (unit i))) (a : Column) :
    f a = g a := by
  have one : ∀ place byte, f (single place byte) = g (single place byte) := fun place =>
    Aes.eq_of_units (hf.comp (single_additive place)) (hg.comp (single_additive place)) (agree place)
  rw [← sum_singles a]
  simp only [hf.map_xor, hg.map_xor, one]

theorem mix_xor (a b : Column) : (a.xor b).mix = a.mix.xor b.mix := by
  simp only [mix, xor, (mul_additive_left _).map_xor, mk.injEq]
  refine ⟨?_, ?_, ?_, ?_⟩ <;> ac_rfl

theorem unmix_xor (a b : Column) : (a.xor b).unmix = a.unmix.xor b.unmix := by
  simp only [unmix, xor, (mul_additive_left _).map_xor, mk.injEq]
  refine ⟨?_, ?_, ?_, ?_⟩ <;> ac_rfl

theorem mix_additive : Additive mix := ⟨mix_xor⟩

theorem unmix_additive : Additive unmix := ⟨unmix_xor⟩

@[simp]
theorem unmix_mix (a : Column) : a.mix.unmix = a := by
  refine eq_of_units (unmix_additive.comp mix_additive) .id (fun place i => ?_) a
  revert place i
  decide

@[simp]
theorem mix_unmix (a : Column) : a.unmix.mix = a := by
  refine eq_of_units (mix_additive.comp unmix_additive) .id (fun place i => ?_) a
  revert place i
  decide

end Column

/-! ### Blocks -/

namespace Block

@[simp]
theorem xor_cancel (s t : Block) : (s.xor t).xor t = s := by
  simp [xor]

@[simp]
theorem unmixColumns_mixColumns (s : Block) : s.mixColumns.unmixColumns = s := by
  simp [mixColumns, unmixColumns, mapColumns]

@[simp]
theorem mixColumns_unmixColumns (s : Block) : s.unmixColumns.mixColumns = s := by
  simp [mixColumns, unmixColumns, mapColumns]

theorem unmixColumns_xor (s t : Block) :
    (s.xor t).unmixColumns = s.unmixColumns.xor t.unmixColumns := by
  simp [unmixColumns, mapColumns, xor, Column.unmix_xor]

@[simp]
theorem unsubstituteBytes_substituteBytes (s : Block) :
    s.substituteBytes.unsubstituteBytes = s := by
  simp [substituteBytes, unsubstituteBytes, mapColumns, Column.map]

@[simp]
theorem substituteBytes_unsubstituteBytes (s : Block) :
    s.unsubstituteBytes.substituteBytes = s := by
  simp [substituteBytes, unsubstituteBytes, mapColumns, Column.map]

end Block

/-! ### Rounds -/

namespace Schedule

/-- One round backwards: the key that was added is unmixed and added again. -/
theorem decryptRound_encryptRound (state key : Block) :
    decryptRound (encryptRound state key).substituteBytes.shiftRows key.unmixColumns =
      state.substituteBytes.shiftRows := by
  simp [decryptRound, encryptRound, Block.unmixColumns_xor]

/-- All inner rounds backwards, with the unmixed keys in reverse. -/
theorem decryptRounds (keys : List Block) (state : Block) :
    (keys.reverse.map Block.unmixColumns).foldl decryptRound
        (keys.foldl encryptRound state).substituteBytes.shiftRows =
      state.substituteBytes.shiftRows := by
  induction keys generalizing state with
  | nil => rfl
  | cons key rest ih =>
      rw [List.foldl_cons, List.reverse_cons, List.map_append, List.foldl_append, ih]
      exact decryptRound_encryptRound state key

/-- One round forwards, after one backwards with the unmixed key. -/
theorem encryptRound_decryptRound (state key : Block) :
    encryptRound (decryptRound state key.unmixColumns).unshiftRows.unsubstituteBytes key =
      state.unshiftRows.unsubstituteBytes := by
  simp [decryptRound, encryptRound, ← Block.unmixColumns_xor]

/-- All inner rounds forwards, after all of them backwards. -/
theorem encryptRounds (keys : List Block) (state : Block) :
    (keys.foldl encryptRound ((keys.reverse.map Block.unmixColumns).foldl decryptRound
        state).unshiftRows.unsubstituteBytes).substituteBytes.shiftRows = state := by
  induction keys generalizing state with
  | nil => simp
  | cons key rest ih =>
      rw [List.foldl_cons, List.reverse_cons, List.map_append, List.foldl_append]
      change (rest.foldl encryptRound (encryptRound (decryptRound _
        key.unmixColumns).unshiftRows.unsubstituteBytes key)).substituteBytes.shiftRows = state
      rw [encryptRound_decryptRound, ih]

/-! ### The two schedules of a key -/

theorem key_encrypting (key : Key) {i : Nat} (bound : i ≤ key.size.rounds) :
    (encrypting key).key i = Key.roundKey key.expand i := by
  have inside : i < 15 := Nat.lt_of_le_of_lt bound key.size.rounds_lt
  simp [Schedule.key, encrypting, Vector.getD, inside, bound]

theorem key_decrypting_outer (key : Key) {i : Nat} (outer : i = 0 ∨ i = key.size.rounds) :
    (decrypting key).key i = Key.roundKey key.expand (key.size.rounds - i) := by
  have inside : i < 15 := by
    have := key.size.rounds_lt
    omega
  simp [Schedule.key, decrypting, Vector.getD, inside, outer]

theorem key_decrypting_inner (key : Key) {i : Nat} (first : 0 < i) (last : i < key.size.rounds) :
    (decrypting key).key i = (Key.roundKey key.expand (key.size.rounds - i)).unmixColumns := by
  have inside : i < 15 := Nat.lt_trans last key.size.rounds_lt
  have inner : ¬ (i = 0 ∨ i = key.size.rounds) := by omega
  simp [Schedule.key, decrypting, Vector.getD, inside, inner, last]

theorem innerKeys_decrypting (key : Key) :
    (decrypting key).innerKeys = (encrypting key).innerKeys.reverse.map Block.unmixColumns := by
  apply List.ext_getElem
  · simp [innerKeys, rounds, encrypting, decrypting]
  · intro i left right
    have bound : i < key.size.rounds - 1 := by simpa [innerKeys, rounds, decrypting] using left
    simp only [innerKeys, rounds, List.getElem_map, List.getElem_range, List.getElem_reverse,
      List.length_map, List.length_range]
    rw [key_decrypting_inner key (by omega) (by omega)]
    have mirrored : key.size.rounds - 1 - 1 - i + 1 = key.size.rounds - (i + 1) := by omega
    change _ = ((encrypting key).key (key.size.rounds - 1 - 1 - i + 1)).unmixColumns
    rw [mirrored, key_encrypting key (by omega)]

/-- What is added first in one direction is added last in the other. -/
theorem key_decrypting_ends (key : Key) :
    (decrypting key).key 0 = (encrypting key).key key.size.rounds ∧
      (decrypting key).key key.size.rounds = (encrypting key).key 0 := by
  rw [key_decrypting_outer key (.inl rfl), key_decrypting_outer key (.inr rfl),
    key_encrypting key (Nat.le_refl _), key_encrypting key (Nat.zero_le _), Nat.sub_zero,
    Nat.sub_self]
  exact ⟨rfl, rfl⟩

theorem decryptBlock_encryptBlock (key : Key) (block : Block) :
    (decrypting key).decryptBlock ((encrypting key).encryptBlock block) = block := by
  obtain ⟨first, last⟩ := key_decrypting_ends key
  unfold decryptBlock encryptBlock
  simp only [rounds]
  change Block.xor _ ((decrypting key).key key.size.rounds) = block
  rw [show (encrypting key).size = key.size from rfl, first, last, Block.xor_cancel,
    innerKeys_decrypting, decryptRounds]
  simp

theorem encryptBlock_decryptBlock (key : Key) (block : Block) :
    (encrypting key).encryptBlock ((decrypting key).decryptBlock block) = block := by
  obtain ⟨first, last⟩ := key_decrypting_ends key
  unfold decryptBlock encryptBlock
  simp only [rounds]
  change Block.xor _ ((encrypting key).key key.size.rounds) = block
  rw [show (decrypting key).size = key.size from rfl, first, last, Block.xor_cancel,
    innerKeys_decrypting, encryptRounds, Block.xor_cancel]

end Schedule

theorem Cipher.decrypt_encrypt (key : Key) (block : Block) :
    (ofKey key).decrypt ((ofKey key).encrypt block) = block :=
  Schedule.decryptBlock_encryptBlock key block

theorem Cipher.encrypt_decrypt (key : Key) (block : Block) :
    (ofKey key).encrypt ((ofKey key).decrypt block) = block :=
  Schedule.encryptBlock_decryptBlock key block

end HeaderVault.Aes
