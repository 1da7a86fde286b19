import HeaderVault.Aes.Schedule

/-!
Encryption and decryption of blocks, and of byte strings block by block without chaining.

`encryptBytes` and `decryptBytes` refuse a schedule of the other direction and a length that is not
a whole number of blocks, in this order.
-/

namespace HeaderVault.Aes

namespace Schedule

/-- The round keys strictly between the first and the last one. -/
def innerKeys (schedule : Schedule) : List Block :=
  (List.range (schedule.rounds - 1)).map fun i => schedule.key (i + 1)

/-! ### One block -/

def encryptRound (state roundKey : Block) : Block :=
  state.substituteBytes.shiftRows.mixColumns.xor roundKey

def encryptBlock (schedule : Schedule) (block : Block) : Block :=
  let state := schedule.innerKeys.foldl encryptRound (block.xor (schedule.key 0))
  state.substituteBytes.shiftRows.xor (schedule.key schedule.rounds)

def decryptRound (state roundKey : Block) : Block :=
  state.unshiftRows.unsubstituteBytes.unmixColumns.xor roundKey

def decryptBlock (schedule : Schedule) (block : Block) : Block :=
  let state := schedule.innerKeys.foldl decryptRound (block.xor (schedule.key 0))
  state.unshiftRows.unsubstituteBytes.xor (schedule.key schedule.rounds)

/-! ### Byte strings -/

/-- A buffer can be processed in a direction when the schedule is for it and only whole blocks
occur. -/
def require (schedule : Schedule) (wanted : Direction) (length : Nat) : Except Error Unit :=
  if schedule.direction ≠ wanted then
    .error (.corruptSchedule (.direction schedule.direction wanted))
  else if length % 16 ≠ 0 then
    .error (.invalidLength length)
  else
    .ok ()

def encryptBytes (schedule : Schedule) (bytes : Bytes) : Except Error Bytes := do
  schedule.require .encrypt bytes.length
  return Block.join ((Block.split bytes).map schedule.encryptBlock)

def decryptBytes (schedule : Schedule) (bytes : Bytes) : Except Error Bytes := do
  schedule.require .decrypt bytes.length
  return Block.join ((Block.split bytes).map schedule.decryptBlock)

end Schedule

/-- A key with both of its schedules. -/
structure Cipher where
  encrypting : Schedule
  decrypting : Schedule

namespace Cipher

def ofKey (key : Key) : Cipher := ⟨.encrypting key, .decrypting key⟩

def encrypt (cipher : Cipher) (block : Block) : Block := cipher.encrypting.encryptBlock block

def decrypt (cipher : Cipher) (block : Block) : Block := cipher.decrypting.decryptBlock block

end Cipher

end HeaderVault.Aes
