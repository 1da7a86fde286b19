import HeaderVault.Proofs.Xts.Field
import HeaderVault.Proofs.Xts.Masking

/-!
Data units, byte for byte.

The encryption of a data unit is fixed by its blocks: each is masked with the tweak of its place,
and the tweaks are fixed by the second key and the number of the data unit (`Tweaks`). What follows
is that decryption takes back encryption and the other way round, that a block of the result
depends on the block at the same place and on no other, and that whole blocks at the front are
encrypted as if nothing came after them. Anything but whole blocks, or no block at all, is refused,
and the buffer is as before (`dataUnit_exact`).
-/

namespace HeaderVault.Xts

open HeaderVault.Aes

/-! ### Tweaks -/

/-- The tweaks of a data unit by their places: the first is the number of the data unit as sixteen
bytes, lowest first, encrypted with the second key, and each next one is the one before it times
`alpha`. -/
structure Tweaks (key : Key) (unit : UInt64) (tweaks : Nat → Tweak) : Prop where
  first : (tweaks 0).toBlock =
    (Cipher.ofKey key).encrypt (Block.ofBytes (Bytes.ofNatLE 16 unit.toNat))
  next : ∀ place, (tweaks (place + 1)).element = Tweak.alpha * (tweaks place).element

namespace Tweaks

/-- A data unit has one family of tweaks only. -/
theorem unique {key : Key} {unit : UInt64} {tweaks others : Nat → Tweak}
    (these : Tweaks key unit tweaks) (those : Tweaks key unit others) : tweaks = others := by
  funext place
  induction place with
  | zero =>
      have same := these.first.trans those.first.symm
      rw [← Tweak.ofBlock_toBlock (tweaks 0), same, Tweak.ofBlock_toBlock]
  | succ place ih =>
      apply Tweak.element_injective
      rw [these.next, those.next, ih]

theorem firstTweak (data key : Key) (unit : UInt64) :
    Tweaks key unit (Keys.firstTweak ⟨.ofKey data, .ofKey key⟩ unit).atPlace where
  first := Tweak.toBlock_ofBlock _
  next _ := Tweak.element_double _

end Tweaks

/-! ### Keys -/

theorem Keys.ofBytes_halves {bytes : Bytes} {data tweak : Key} (even : bytes.length % 2 = 0)
    (first : Key.ofBytes (bytes.take (bytes.length / 2)) = .ok data)
    (second : Key.ofBytes (bytes.drop (bytes.length / 2)) = .ok tweak) :
    Keys.ofBytes bytes = .ok ⟨.ofKey data, .ofKey tweak⟩ := by
  simp only [Keys.ofBytes, even, first, second, bind, Except.bind]
  rfl

/-! ### Data units of blocks -/

theorem checkLength_join {blocks : List Block} (nonempty : blocks ≠ []) :
    checkLength (Block.join blocks).length = .ok () := by
  have count : blocks.length ≠ 0 := by simpa using nonempty
  rw [checkLength, Block.length_join]
  apply if_neg
  omega

section

variable {keys : Keys} {unit : UInt64}

theorem encrypt_join {blocks : List Block} (nonempty : blocks ≠ []) :
    encrypt keys unit (Block.join blocks) =
      .ok (Block.join (encryptBlocks keys unit blocks)) := by
  rw [encrypt, checkLength_join nonempty, Block.split_join]
  rfl

theorem decrypt_join {blocks : List Block} (nonempty : blocks ≠ []) :
    decrypt keys unit (Block.join blocks) =
      .ok (Block.join (decryptBlocks keys unit blocks)) := by
  rw [decrypt, checkLength_join nonempty, Block.split_join]
  rfl

theorem encrypt_refused {bytes : Bytes} (fault : bytes.length = 0 ∨ bytes.length % 16 ≠ 0) :
    encrypt keys unit bytes = .error (.invalidLength bytes.length) := by
  rw [encrypt, checkLength, if_pos fault]
  rfl

theorem decrypt_refused {bytes : Bytes} (fault : bytes.length = 0 ∨ bytes.length % 16 ≠ 0) :
    decrypt keys unit bytes = .error (.invalidLength bytes.length) := by
  rw [decrypt, checkLength, if_pos fault]
  rfl

end

theorem mask_ne_nil (f : Block → Block) (tweak : Tweak) {blocks : List Block}
    (nonempty : blocks ≠ []) : mask f tweak blocks ≠ [] := by
  apply List.ne_nil_of_length_pos
  rw [length_mask]
  exact List.length_pos_iff.mpr nonempty

theorem blockAt_mask (f : Block → Block) (tweak : Tweak) {blocks : List Block} {place : Nat}
    (inside : place < blocks.length) :
    Block.blockAt (Block.join (mask f tweak blocks)) place =
      (f ((Block.blockAt (Block.join blocks) place).xor (tweak.atPlace place).toBlock)).xor
        (tweak.atPlace place).toBlock := by
  have found : blocks[place]? = some blocks[place] := List.getElem?_eq_getElem inside
  rw [Block.blockAt_join found]
  apply Block.blockAt_join
  rw [getElem?_mask, found]
  rfl

/-- Different blocks stay different under one and the same tweak. -/
theorem masked_injective (key : Key) (tweak : Block) :
    Function.Injective fun block : Block =>
      ((Cipher.ofKey key).encrypt (block.xor tweak)).xor tweak := by
  apply Function.LeftInverse.injective (g := fun block : Block =>
    ((Cipher.ofKey key).decrypt (block.xor tweak)).xor tweak)
  intro block
  simp [Cipher.decrypt_encrypt]

/-! ### Buffers -/

/-- What holds of a buffer and its encryption. -/
structure Encrypts (keys : Keys) (unit : UInt64) (data : Key) (tweaks : Nat → Tweak)
    (buffer sealed : Bytes) : Prop where
  done : inPlace (encrypt keys unit) buffer = (sealed, .ok ())
  size : sealed.length = buffer.length
  /-- A block is masked with the tweak of its place before and after it passes the cipher. -/
  block : ∀ place, 16 * place < buffer.length → Block.blockAt sealed place =
    ((Cipher.ofKey data).encrypt
      ((Block.blockAt buffer place).xor (tweaks place).toBlock)).xor (tweaks place).toBlock
  undone : inPlace (decrypt keys unit) sealed = (buffer, .ok ())
  /-- The encryptions of two buffers differ in the blocks in which the buffers differ. -/
  apart : ∀ other result, other.length = buffer.length →
    inPlace (encrypt keys unit) other = (result, .ok ()) →
    ∀ place, 16 * place < buffer.length →
      (Block.blockAt result place = Block.blockAt sealed place ↔
        Block.blockAt other place = Block.blockAt buffer place)
  /-- Whole blocks at the front are encrypted as if nothing came after them. -/
  front : ∀ count, 0 < count → 16 * count ≤ buffer.length →
    inPlace (encrypt keys unit) (buffer.take (16 * count)) = (sealed.take (16 * count), .ok ())

/-- What holds of two keys, the data key among them, and the tweaks of a data unit. -/
structure Conforms (keys : Keys) (unit : UInt64) (data : Key) (tweaks : Nat → Tweak) : Prop where
  encrypts : ∀ buffer : Bytes, buffer.length ≠ 0 → buffer.length % 16 = 0 →
    ∃ sealed, Encrypts keys unit data tweaks buffer sealed
  decrypts : ∀ buffer : Bytes, buffer.length ≠ 0 → buffer.length % 16 = 0 →
    ∃ opened, inPlace (decrypt keys unit) buffer = (opened, .ok ()) ∧
      inPlace (encrypt keys unit) opened = (buffer, .ok ())
  refuses : ∀ buffer : Bytes, buffer.length = 0 ∨ buffer.length % 16 ≠ 0 →
    inPlace (encrypt keys unit) buffer = (buffer, .error (.invalidLength buffer.length)) ∧
    inPlace (decrypt keys unit) buffer = (buffer, .error (.invalidLength buffer.length))

theorem exists_blocks {buffer : Bytes} (filled : buffer.length ≠ 0)
    (whole : buffer.length % 16 = 0) : ∃ blocks, blocks ≠ [] ∧ Block.join blocks = buffer := by
  have joined := Block.join_split whole
  refine ⟨Block.split buffer, ?_, joined⟩
  intro none
  rw [none] at joined
  apply filled
  rw [← joined]
  rfl

section

variable (data tweak : Key) (unit : UInt64)

theorem encrypts_join {blocks : List Block} (nonempty : blocks ≠ []) :
    Encrypts ⟨.ofKey data, .ofKey tweak⟩ unit data
      (Keys.firstTweak ⟨.ofKey data, .ofKey tweak⟩ unit).atPlace (Block.join blocks)
      (Block.join (encryptBlocks ⟨.ofKey data, .ofKey tweak⟩ unit blocks)) := by
  constructor
  case done => exact inPlace_of_ok (encrypt_join nonempty)
  case size => rw [Block.length_join, Block.length_join, encryptBlocks, length_mask]
  case block =>
    intro place inside
    rw [Block.length_join] at inside
    exact blockAt_mask _ _ (by omega)
  case undone =>
    have kept : encryptBlocks ⟨.ofKey data, .ofKey tweak⟩ unit blocks ≠ [] :=
      mask_ne_nil _ _ nonempty
    rw [inPlace_of_ok (decrypt_join kept), decryptBlocks_encryptBlocks]
  case apart =>
    intro other result length encrypted place inside
    have positive := List.length_pos_iff.mpr nonempty
    rw [Block.length_join] at length inside
    have filled : other.length ≠ 0 := by omega
    obtain ⟨others, othersNonempty, rfl⟩ := exists_blocks filled (by omega)
    rw [Block.length_join] at length
    rw [inPlace_of_ok (encrypt_join othersNonempty)] at encrypted
    obtain rfl := congrArg Prod.fst encrypted
    rw [encryptBlocks, encryptBlocks, blockAt_mask _ _ (by omega), blockAt_mask _ _ (by omega)]
    exact (masked_injective data _).eq_iff
  case front =>
    intro places positive _
    rw [Block.take_join, Block.take_join]
    have kept : blocks.take places ≠ [] := by
      simp [nonempty, Nat.ne_of_gt positive]
    rw [inPlace_of_ok (encrypt_join kept), encryptBlocks, encryptBlocks, take_mask]

theorem conforms :
    Conforms ⟨.ofKey data, .ofKey tweak⟩ unit data
      (Keys.firstTweak ⟨.ofKey data, .ofKey tweak⟩ unit).atPlace where
  encrypts buffer filled whole := by
    obtain ⟨blocks, nonempty, rfl⟩ := exists_blocks filled whole
    exact ⟨_, encrypts_join data tweak unit nonempty⟩
  decrypts buffer filled whole := by
    obtain ⟨blocks, nonempty, rfl⟩ := exists_blocks filled whole
    have opened : decryptBlocks ⟨.ofKey data, .ofKey tweak⟩ unit blocks ≠ [] :=
      mask_ne_nil _ _ nonempty
    refine ⟨_, inPlace_of_ok (decrypt_join nonempty), ?_⟩
    rw [inPlace_of_ok (encrypt_join opened), encryptBlocks_decryptBlocks]
  refuses buffer fault :=
    ⟨inPlace_of_error (encrypt_refused fault), inPlace_of_error (decrypt_refused fault)⟩

end

/-- Any 32, 48 or 64 bytes are the two keys of data units, the first half of them the data key. -/
theorem dataUnit_exact (bytes : Bytes)
    (size : bytes.length = 32 ∨ bytes.length = 48 ∨ bytes.length = 64) (unit : UInt64) :
    ∃ data tweak keys tweaks,
      Key.ofBytes (bytes.take (bytes.length / 2)) = .ok data ∧
      Key.ofBytes (bytes.drop (bytes.length / 2)) = .ok tweak ∧
      Keys.ofBytes bytes = .ok keys ∧
      Tweaks tweak unit tweaks ∧
      Conforms keys unit data tweaks := by
  obtain ⟨data, first⟩ : ∃ data, Key.ofBytes (bytes.take (bytes.length / 2)) = .ok data := by
    apply Key.exists_ofBytes
    rw [List.length_take]
    omega
  obtain ⟨tweak, second⟩ : ∃ tweak, Key.ofBytes (bytes.drop (bytes.length / 2)) = .ok tweak := by
    apply Key.exists_ofBytes
    rw [List.length_drop]
    omega
  have both := Keys.ofBytes_halves (by omega) first second
  exact ⟨data, tweak, _, _, first, second, both, Tweaks.firstTweak data tweak unit,
    conforms data tweak unit⟩

theorem dataUnit_exact_counting :
    ((List.range 64).map UInt8.ofNat).length = 64 ∧
    ∃ data tweak keys tweaks,
      Key.ofBytes (((List.range 64).map UInt8.ofNat).take 32) = .ok data ∧
      Key.ofBytes (((List.range 64).map UInt8.ofNat).drop 32) = .ok tweak ∧
      Keys.ofBytes ((List.range 64).map UInt8.ofNat) = .ok keys ∧
      Tweaks tweak 7 tweaks ∧
      Conforms keys 7 data tweaks :=
  ⟨by decide, dataUnit_exact ((List.range 64).map UInt8.ofNat) (by decide) 7⟩

end HeaderVault.Xts
