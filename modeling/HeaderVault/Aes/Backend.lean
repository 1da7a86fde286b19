import HeaderVault.Aes.Cipher

/-!
The two implementations of the block cipher: the tables of this library, and the instructions that
many processors have for the rounds of AES.

An instruction takes a state through a whole round and adds the round key. It shifts the rows before
it substitutes the bytes, which makes no difference. Either implementation uses the same schedules.
-/

namespace HeaderVault

/-- Which implementation of the block cipher is used. -/
inductive AesBackend where
  | software
  | instructions
  deriving DecidableEq, Repr

namespace AesBackend

def label : AesBackend → String
  | .software => "Software"
  | .instructions => "AesNi"

/-- The name in records. -/
def key : AesBackend → String
  | .software => "software"
  | .instructions => "aes-ni"

end AesBackend

namespace Aes.Instructions

/-! ### Instructions -/

/-- An inner round of encryption. -/
def encryptRound (state roundKey : Block) : Block :=
  state.shiftRows.substituteBytes.mixColumns.xor roundKey

/-- The last round of encryption. -/
def encryptLast (state roundKey : Block) : Block := state.shiftRows.substituteBytes.xor roundKey

/-- An inner round of decryption. -/
def decryptRound (state roundKey : Block) : Block :=
  state.unshiftRows.unsubstituteBytes.unmixColumns.xor roundKey

/-- The last round of decryption. -/
def decryptLast (state roundKey : Block) : Block :=
  state.unshiftRows.unsubstituteBytes.xor roundKey

/-! ### One block -/

def encryptBlock (schedule : Schedule) (block : Block) : Block :=
  encryptLast (schedule.innerKeys.foldl encryptRound (block.xor (schedule.key 0)))
    (schedule.key schedule.rounds)

def decryptBlock (schedule : Schedule) (block : Block) : Block :=
  decryptLast (schedule.innerKeys.foldl decryptRound (block.xor (schedule.key 0)))
    (schedule.key schedule.rounds)

/-! ### Byte strings -/

def encryptBytes (schedule : Schedule) (bytes : Bytes) : Except Error Bytes := do
  schedule.require .encrypt bytes.length
  return Block.join ((Block.split bytes).map (encryptBlock schedule))

def decryptBytes (schedule : Schedule) (bytes : Bytes) : Except Error Bytes := do
  schedule.require .decrypt bytes.length
  return Block.join ((Block.split bytes).map (decryptBlock schedule))

end Aes.Instructions

namespace AesBackend

def encryptBytes : AesBackend → Aes.Schedule → Bytes → Except Error Bytes
  | .software => Aes.Schedule.encryptBytes
  | .instructions => Aes.Instructions.encryptBytes

def decryptBytes : AesBackend → Aes.Schedule → Bytes → Except Error Bytes
  | .software => Aes.Schedule.decryptBytes
  | .instructions => Aes.Instructions.decryptBytes

end AesBackend

end HeaderVault
