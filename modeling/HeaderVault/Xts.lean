import HeaderVault.Aes.Cipher

/-!
XTS for data units of whole blocks.

Two keys take part. The second one encrypts the number of the data unit into the first tweak, and
every further tweak is the one before it times `x` in the field of `2 ^ 128` elements. Each block is
masked with its tweak before and after it passes the cipher under the first key, so blocks stay
independent of each other.
-/

namespace HeaderVault.Xts

open HeaderVault.Aes

/-! ### Tweaks -/

/-- A tweak, its lowest bit in the lowest bit of the first byte. -/
abbrev Tweak := BitVec 128

/-- Multiplication by `x` modulo `x^128 + x^7 + x^2 + x + 1`. -/
def Tweak.double (tweak : Tweak) : Tweak :=
  if tweak.msb then (tweak <<< 1) ^^^ 0x87#128 else tweak <<< 1

def Tweak.toBlock (tweak : Tweak) : Block := Block.ofBytes (Bytes.ofNatLE 16 tweak.toNat)

def Tweak.ofBlock (block : Block) : Tweak := BitVec.ofNat 128 (Bytes.toNatLE block.toBytes)

/-! ### Keys -/

structure Keys where
  data : Cipher
  tweak : Cipher

/-- The first half of the bytes is the data key, the second the tweak key. -/
def Keys.ofBytes (bytes : Bytes) : Except Error Keys := do
  if bytes.length % 2 ≠ 0 then
    throw (.invalidKeyLength bytes.length)
  let half := bytes.length / 2
  let data ← Key.ofBytes (bytes.take half)
  let tweak ← Key.ofBytes (bytes.drop half)
  return ⟨.ofKey data, .ofKey tweak⟩

/-- The tweak of the first block of a data unit. -/
def Keys.firstTweak (keys : Keys) (unit : UInt64) : Tweak :=
  .ofBlock (keys.tweak.encrypt (Block.ofBytes (Bytes.ofNatLE 16 unit.toNat)))

/-! ### Data units -/

/-- Passes every block through `f` between two maskings with its tweak. -/
def mask (f : Block → Block) : Tweak → List Block → List Block
  | _, [] => []
  | tweak, block :: rest =>
      (f (block.xor tweak.toBlock)).xor tweak.toBlock :: mask f tweak.double rest

def encryptBlocks (keys : Keys) (unit : UInt64) (blocks : List Block) : List Block :=
  mask keys.data.encrypt (keys.firstTweak unit) blocks

def decryptBlocks (keys : Keys) (unit : UInt64) (blocks : List Block) : List Block :=
  mask keys.data.decrypt (keys.firstTweak unit) blocks

@[simp]
theorem length_mask (f : Block → Block) (tweak : Tweak) (blocks : List Block) :
    (mask f tweak blocks).length = blocks.length := by
  induction blocks generalizing tweak with
  | nil => rfl
  | cons block rest ih => simp [mask, ih]

/-- A data unit is at least one block, and whole blocks only. -/
def checkLength (length : Nat) : Except Error Unit :=
  if length = 0 ∨ length % 16 ≠ 0 then .error (.invalidLength length) else .ok ()

def encrypt (keys : Keys) (unit : UInt64) (bytes : Bytes) : Except Error Bytes := do
  checkLength bytes.length
  return Block.join (encryptBlocks keys unit (Block.split bytes))

def decrypt (keys : Keys) (unit : UInt64) (bytes : Bytes) : Except Error Bytes := do
  checkLength bytes.length
  return Block.join (decryptBlocks keys unit (Block.split bytes))

end HeaderVault.Xts
