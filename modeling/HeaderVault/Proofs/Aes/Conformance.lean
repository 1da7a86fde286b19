import HeaderVault.Proofs.Aes.Buffers
import HeaderVault.Proofs.Aes.Standard

/-!
The block cipher is that of FIPS-197.

Columns and blocks of bytes are words and states of the standard (`Column.word`, `Block.state`),
and every step of a round is the transformation of its name. The words appended to a key are those
of the key expansion (`word_expand`), so that round by round the two ciphers agree
(`state_encryptBlock`).
-/

namespace HeaderVault.Aes

open Polynomial

/-! ### The substitution box -/

/-- A bit after a turn is the bit that many places below, cyclically. -/
theorem getLsbD_affine (a : UInt8) (i : Fin 8) : (affine a).toBitVec.getLsbD i =
    (a.toBitVec.getLsbD i ^^ a.toBitVec.getLsbD (i + 7 : Fin 8) ^^
      a.toBitVec.getLsbD (i + 6 : Fin 8) ^^ a.toBitVec.getLsbD (i + 5 : Fin 8) ^^
      a.toBitVec.getLsbD (i + 4 : Fin 8) ^^ (0x63 : UInt8).toBitVec.getLsbD i) := by
  simp only [affine, rotate, UInt8.toBitVec_xor, UInt8.toBitVec_or, UInt8.toBitVec_shiftLeft,
    UInt8.toBitVec_shiftRight, BitVec.getLsbD_xor, BitVec.getLsbD_or]
  fin_cases i <;> simp

theorem element_affine (a : UInt8) : element (affine a) = Standard.affine (element a) := by
  have sum : ∀ x y : Bool, (if x ^^ y then (1 : ZMod 2) else 0) =
      (if x then 1 else 0) + if y then 1 else 0 := by decide
  have constant : ∀ i : Fin 8, (if (0x63 : UInt8).toBitVec.getLsbD i then (1 : ZMod 2) else 0) =
      Standard.affineConstant i := by decide
  rw [← ofCoefficients_coefficient (element (affine a)), Standard.affine]
  congr 1
  funext i
  simp only [coefficient_element, getLsbD_affine, sum, constant]
  ring

theorem element_substitute (a : UInt8) :
    element (substitute a) = Standard.sbox (element a) := by
  rw [substitute_eq, element_affine, element_inverse, Standard.sbox]

/-! ### Columns -/

namespace Column

def byte (a : Column) : Fin 4 → UInt8 := ![a.b0, a.b1, a.b2, a.b3]

noncomputable def word (a : Column) : Standard.Word := fun r => element (a.byte r)

theorem word_xor (a b : Column) : (a.xor b).word = a.word + b.word := by
  have byte : ∀ r, (a.xor b).byte r = a.byte r ^^^ b.byte r := by
    intro r
    fin_cases r <;> rfl
  funext r
  rw [word, byte, element_xor]
  rfl

theorem word_rotate (a : Column) : a.rotate.word = Standard.rotWord a.word := by
  have byte : ∀ r, a.rotate.byte r = a.byte (r + 1) := by
    intro r
    fin_cases r <;> rfl
  funext r
  rw [word, byte, Standard.rotWord, word]

theorem word_substitute (a : Column) : (a.map substitute).word = Standard.subWord a.word := by
  have byte : ∀ r, (a.map substitute).byte r = substitute (a.byte r) := by
    intro r
    fin_cases r <;> rfl
  funext r
  rw [word, byte, element_substitute, Standard.subWord, word]

theorem word_mix (a : Column) : a.mix.word = Standard.mixColumn a.word := by
  rw [Standard.mixColumn_eq]
  funext r
  fin_cases r <;>
    simp [word, byte, mix, element_xor, element_mul, Standard.mixed, CommRing.mul_comm]

end Column

/-! ### Blocks -/

namespace Block

def column (s : Block) : Fin 4 → Column := ![s.c0, s.c1, s.c2, s.c3]

noncomputable def state (s : Block) : Standard.State := fun r c => (s.column c).word r

theorem state_mapColumns {f : Column → Column} {g : Standard.Word → Standard.Word}
    (agree : ∀ a, (f a).word = g a.word) (s : Block) :
    (s.mapColumns f).state = fun r c => g (fun row => s.state row c) r := by
  have column : ∀ c, (s.mapColumns f).column c = f (s.column c) := by
    intro c
    fin_cases c <;> rfl
  funext r c
  rw [state, column, agree]
  rfl

theorem state_substituteBytes (s : Block) :
    s.substituteBytes.state = Standard.subBytes s.state := by
  rw [substituteBytes, state_mapColumns Column.word_substitute]
  rfl

theorem state_shiftRows (s : Block) : s.shiftRows.state = Standard.shiftRows s.state := by
  have byte : ∀ r c, (s.shiftRows.column c).byte r = (s.column (c + r)).byte r := by
    intro r c
    fin_cases r <;> fin_cases c <;> simp [column, shiftRows, Column.byte]
  funext r c
  rw [state, Column.word, byte, Standard.shiftRows, state, Column.word]

theorem state_mixColumns (s : Block) : s.mixColumns.state = Standard.mixColumns s.state := by
  rw [mixColumns, state_mapColumns Column.word_mix]
  rfl

end Block

/-! ### Key expansion -/

section Appending

variable {keyWords count : Nat} {words : Array Column}

theorem getD_push (words : Array Column) (last : Column) (i : Nat) :
    (words.push last).getD i .zero = if i = words.size then last else words.getD i .zero := by
  simp only [Array.getD_eq_getD_getElem?, Array.getElem?_push]
  split <;> rfl

theorem getD_appendWords_of_lt {i : Nat} (begun : i < words.size) :
    (appendWords keyWords count words).getD i .zero = words.getD i .zero := by
  induction count generalizing words with
  | zero => rfl
  | succ count ih =>
      rw [appendWords, ih (by rw [Array.size_push]; omega), getD_push, if_neg (by omega)]

/-- Each appended word is made from two words of the result itself. -/
theorem getD_appendWords {i : Nat} (begun : words.size ≤ i) (bound : i < words.size + count)
    (positive : 0 < keyWords) (enough : keyWords ≤ words.size) :
    (appendWords keyWords count words).getD i .zero =
      nextWord keyWords i ((appendWords keyWords count words).getD (i - 1) .zero)
        ((appendWords keyWords count words).getD (i - keyWords) .zero) := by
  induction count generalizing words with
  | zero => omega
  | succ count ih =>
      rw [appendWords]
      have size : ∀ last, (words.push last).size = words.size + 1 := fun _ => Array.size_push _
      have kept : ∀ last j, j ≤ words.size → (appendWords keyWords count (words.push last)).getD j
          .zero = if j = words.size then last else words.getD j .zero := by
        intro last j inside
        rw [getD_appendWords_of_lt (by rw [size]; omega), getD_push]
      rcases Nat.eq_or_lt_of_le begun with rfl | later
      · rw [kept _ _ (Nat.le_refl _), kept _ _ (Nat.sub_le _ _), kept _ _ (Nat.sub_le _ _),
          if_pos rfl, if_neg (by omega), if_neg (by omega)]
      · exact ih (by rw [size]; omega) (by rw [size]; omega) (by rw [size]; omega)

end Appending

theorem Column.length_split : ∀ bytes : Bytes, (Column.split bytes).length = bytes.length / 4
  | _ :: _ :: _ :: _ :: rest => by
      simp only [Column.split, List.length_cons, length_split rest]
      omega
  | [] | [_] | [_, _] | [_, _, _] => by simp [Column.split]

theorem Column.byte_split (r : Fin 4) : ∀ {bytes : Bytes} {i : Nat}, 4 * i + 3 < bytes.length →
    ((Column.split bytes).getD i .zero).byte r = bytes.getD (4 * i + r) 0
  | _ :: _ :: _ :: _ :: _, 0, _ => by fin_cases r <;> rfl
  | _ :: _ :: _ :: _ :: rest, i + 1, bound => by
      have next : 4 * (i + 1) + r.val = 4 * i + r.val + 1 + 1 + 1 + 1 := by omega
      rw [Column.split, List.getD_cons_succ, byte_split r (by simp at bound; omega), next]
      rfl

/-- What is added to the word one key length back is the standard's. -/
theorem word_nextWord (keyWords i : Nat) (previous back : Column) :
    (nextWord keyWords i previous back).word =
      back.word + Standard.step keyWords i previous.word := by
  have constant : ∀ n, element (roundConstant n) = AdjoinRoot.root modulus ^ n := by
    intro n
    induction n with
    | zero => rw [roundConstant, element_one, pow_zero]
    | succ n ih => rw [roundConstant, element_double, ih, pow_succ']
  have rcon : (⟨roundConstant (i / keyWords - 1), 0, 0, 0⟩ : Column).word =
      Standard.rcon (i / keyWords) := by
    funext r
    fin_cases r
    · exact constant _
    all_goals exact element_zero
  rw [nextWord, Column.word_xor, Standard.step]
  congr 1
  split_ifs
  · rw [Column.word_xor, Column.word_substitute, Column.word_rotate, rcon]
  · rw [Column.word_substitute]
  · rfl

namespace Key

/-- The bytes of a key as elements. -/
noncomputable def elements (key : Key) : Fin key.size.bytes → Element := fun i =>
  element key.octets[i]

theorem word_split (key : Key) {i : Nat} (inside : i < key.size.words) (r : Fin 4) :
    ((Column.split key.octets.toList).toArray.getD i .zero).word r =
      key.elements ⟨4 * i + r, by unfold KeySize.bytes; omega⟩ := by
  have place : 4 * i + 3 < key.size.bytes := by
    unfold KeySize.bytes
    omega
  have entry : (Column.split key.octets.toList).toArray.getD i .zero =
      (Column.split key.octets.toList).getD i .zero := by
    simp [Array.getD_eq_getD_getElem?, List.getD_eq_getElem?_getD]
  have last : 4 * i + r.val < key.size.bytes := by omega
  rw [entry, Column.word, Column.byte_split r (by rwa [Vector.length_toList]), elements]
  simp [List.getD_eq_getElem?_getD, last]

theorem length_split (key : Key) : (Column.split key.octets.toList).length = key.size.words := by
  rw [Column.length_split, Vector.length_toList, KeySize.bytes]
  omega

/-- The words that the cipher uses are those of the standard. -/
theorem word_expand (key : Key) {i : Nat} (bound : i < 4 * (key.size.rounds + 1)) :
    (key.expand.getD i .zero).word = Standard.keyExpansion key.size key.elements i := by
  have positive := key.size.words_pos
  have size : (Column.split key.octets.toList).toArray.size = key.size.words := key.length_split
  induction i using Nat.strong_induction_on with
  | _ i ih =>
      rw [Standard.keyExpansion]
      split_ifs with inside
      · rw [expand, getD_appendWords_of_lt (by omega)]
        exact funext (key.word_split inside)
      · rw [expand, getD_appendWords (by omega) (by omega) positive (by omega), word_nextWord,
          ← expand, ih _ (by omega) (by omega), ih _ (by omega) (by omega)]

end Key

/-! ### Rounds -/

theorem Block.state_xor_roundKey (key : Key) {round : Nat} (bound : round ≤ key.size.rounds)
    (s : Block) : (s.xor (Key.roundKey key.expand round)).state =
      Standard.addRoundKey (Standard.keyExpansion key.size key.elements) round s.state := by
  have column : ∀ c, (s.xor (Key.roundKey key.expand round)).column c =
      (s.column c).xor (key.expand.getD (4 * round + c) .zero) := by
    intro c
    fin_cases c <;> rfl
  funext r c
  rw [state, column, Column.word_xor, key.word_expand (by omega)]
  rfl

namespace Schedule

theorem state_encryptRounds (key : Key) (block : Block) {count : Nat}
    (bound : count ≤ key.size.rounds) :
    (((List.range count).map fun i => (encrypting key).key (i + 1)).foldl encryptRound
      (block.xor ((encrypting key).key 0))).state =
        Standard.afterRounds (Standard.keyExpansion key.size key.elements) block.state count := by
  induction count with
  | zero =>
      rw [key_encrypting key (Nat.zero_le _)]
      exact Block.state_xor_roundKey key (Nat.zero_le _) block
  | succ count ih =>
      rw [List.range_succ, List.map_append, List.foldl_append, List.map_singleton, List.foldl_cons,
        List.foldl_nil, key_encrypting key bound, encryptRound, Block.state_xor_roundKey key bound,
        Block.state_mixColumns, Block.state_shiftRows, Block.state_substituteBytes,
        ih (by omega), Standard.afterRounds]

theorem state_encryptBlock (key : Key) (block : Block) :
    ((encrypting key).encryptBlock block).state = Standard.cipherState key.size.rounds
      (Standard.keyExpansion key.size key.elements) block.state := by
  have rounds : (encrypting key).rounds = key.size.rounds := rfl
  rw [encryptBlock, innerKeys, rounds, key_encrypting key (Nat.le_refl _),
    Block.state_xor_roundKey key (Nat.le_refl _), Block.state_shiftRows,
    Block.state_substituteBytes, state_encryptRounds key block (Nat.sub_le _ _),
    Standard.cipherState]

end Schedule

/-! ### Byte strings -/

namespace Block

theorem toBytes_eq_store (s : Block) :
    s.toBytes = List.ofFn fun i => elements.symm (Standard.store s.state i) := by
  have bytes : s.toBytes = List.ofFn fun i : Fin 16 =>
      (s.column ⟨i / 4, by omega⟩).byte ⟨i % 4, by omega⟩ := rfl
  rw [bytes]
  congr 1
  funext i
  exact (elements.symm_apply_apply _).symm

theorem load_toBytes {octets : Octets 16} {s : Block} (same : s.toBytes = octets.toList) :
    Standard.load (fun i => element octets[i]) = s.state := by
  have byte : ∀ r c : Fin 4, s.toBytes[r.val + 4 * c.val]? = some ((s.column c).byte r) := by
    intro r c
    fin_cases r <;> fin_cases c <;> rfl
  funext r c
  have place : r.val + 4 * c.val < 16 := by omega
  have entry := byte r c
  rw [same, Vector.getElem?_toList, Vector.getElem?_eq_getElem place] at entry
  exact congrArg element (Option.some.inj entry)

end Block

/-- A key of 16, 24 or 32 bytes is accepted, and its schedule encrypts each block to what the
standard says. -/
theorem encryption_conforms (size : KeySize) (key : Octets size.bytes) (block : Octets 16) :
    Key.ofBytes key.toList = .ok ⟨size, key⟩ ∧
      AesBackend.software.encryptBytes (.encrypting ⟨size, key⟩) block.toList =
        .ok (List.ofFn fun i => elements.symm
          (Standard.cipher size (fun j => element key[j]) (fun j => element block[j]) i)) := by
  have bytes : (Block.ofBytes block.toList).toBytes = block.toList :=
    Block.toBytes_ofBytes block.length_toList
  have joined : block.toList = Block.join [Block.ofBytes block.toList] := by
    rw [Block.join_cons, bytes]
    exact (List.append_nil _).symm
  constructor
  · simp [Key.ofBytes, KeySize.ofLength?_bytes]
  · rw [AesBackend.encryptBytes_eq, joined, Schedule.encryptBytes_join rfl, List.map_singleton,
      Block.join_cons, Block.toBytes_eq_store, Schedule.state_encryptBlock,
      ← Block.load_toBytes bytes]
    exact congrArg Except.ok (List.append_nil _)

end HeaderVault.Aes
