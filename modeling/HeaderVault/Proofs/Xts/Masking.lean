import HeaderVault.Proofs.Aes.Buffers
import HeaderVault.Xts

/-!
The blocks of a data unit, each between two maskings with its tweak.

`getElem?_mask` says what becomes of a single block: nothing but the block itself and its place
counts, so that the front of a data unit is encrypted by itself (`take_mask`). Encryption and
decryption undo each other, since the maskings cancel (`decryptBlocks_encryptBlocks`,
`encryptBlocks_decryptBlocks`).
-/

namespace HeaderVault.Xts

open HeaderVault.Aes

/-! ### Tweaks -/

namespace Tweak

theorem capacity_sixteen : Bytes.capacity 16 = 340282366920938463463374607431768211456 := rfl

@[simp]
theorem ofBlock_toBlock (tweak : Tweak) : ofBlock tweak.toBlock = tweak := by
  rw [ofBlock, toBlock, Block.toBytes_ofBytes (Bytes.length_ofNatLE 16 _), Bytes.toNatLE_ofNatLE,
    capacity_sixteen]
  apply BitVec.eq_of_toNat_eq
  have small := tweak.isLt
  simp only [BitVec.toNat_ofNat]
  omega

@[simp]
theorem toBlock_ofBlock (block : Block) : (ofBlock block).toBlock = block := by
  have small := Bytes.toNatLE_lt block.toBytes
  rw [Block.length_toBytes, capacity_sixteen] at small
  have value : (ofBlock block).toNat = Bytes.toNatLE block.toBytes := by
    rw [ofBlock, BitVec.toNat_ofNat]
    omega
  have bytes := Bytes.ofNatLE_toNatLE block.toBytes
  rw [Block.length_toBytes] at bytes
  rw [toBlock, value, bytes, Block.ofBytes_toBytes]

/-- The tweak of a place, from the one of the first place. -/
def atPlace (first : Tweak) : (place : Nat) → Tweak
  | 0 => first
  | place + 1 => (first.atPlace place).double

theorem atPlace_double (first : Tweak) (place : Nat) :
    first.double.atPlace place = first.atPlace (place + 1) := by
  induction place with
  | zero => rfl
  | succ place ih => rw [atPlace, ih, ← atPlace]

end Tweak

/-! ### Masking -/

section

variable {f g : Block → Block}

/-- A block is masked with the tweak that belongs to its place. -/
theorem getElem?_mask (f : Block → Block) (tweak : Tweak) (blocks : List Block) (place : Nat) :
    (mask f tweak blocks)[place]? = blocks[place]?.map fun block =>
      (f (block.xor (tweak.atPlace place).toBlock)).xor (tweak.atPlace place).toBlock := by
  induction blocks generalizing tweak place with
  | nil => simp [mask]
  | cons block rest ih =>
      cases place with
      | zero => simp [mask, Tweak.atPlace]
      | succ place => simp [mask, ih, Tweak.atPlace_double]

theorem take_mask (f : Block → Block) (tweak : Tweak) (blocks : List Block) (count : Nat) :
    mask f tweak (blocks.take count) = (mask f tweak blocks).take count := by
  induction blocks generalizing tweak count with
  | nil => simp [mask]
  | cons block rest ih =>
      cases count with
      | zero => simp [mask]
      | succ count => simp [mask, ih]

/-- Masking with the same tweaks undoes masking when the inner maps undo each other. -/
theorem mask_mask (undo : ∀ block, g (f block) = block) (tweak : Tweak) (blocks : List Block) :
    mask g tweak (mask f tweak blocks) = blocks := by
  induction blocks generalizing tweak with
  | nil => rfl
  | cons block rest ih => simp [mask, undo, ih]

end

theorem decryptBlocks_encryptBlocks (data tweak : Key) (unit : UInt64) (blocks : List Block) :
    decryptBlocks ⟨.ofKey data, .ofKey tweak⟩ unit
      (encryptBlocks ⟨.ofKey data, .ofKey tweak⟩ unit blocks) = blocks :=
  mask_mask (Cipher.decrypt_encrypt data) _ blocks

theorem encryptBlocks_decryptBlocks (data tweak : Key) (unit : UInt64) (blocks : List Block) :
    encryptBlocks ⟨.ofKey data, .ofKey tweak⟩ unit
      (decryptBlocks ⟨.ofKey data, .ofKey tweak⟩ unit blocks) = blocks :=
  mask_mask (Cipher.encrypt_decrypt data) _ blocks

end HeaderVault.Xts
