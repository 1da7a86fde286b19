import HeaderVault.Bytes
import HeaderVault.Kdf.Params

/-!
The part of a header that can be read without a credential: a salt of 64 bytes and a block of 16
bytes that names the key derivation.

The block holds the number of the algorithm, three zero bytes, and memory, time and lanes as words
of 32 bits. Reading refuses whatever writing cannot produce, so a block says exactly one thing.
-/

namespace HeaderVault

/-- Bytes of a header. -/
def headerLength : Nat := 512

/-- The bytes of a header slot. -/
abbrev HeaderBytes := Octets 512

/-! ### The parameter block -/

namespace KdfParams

def toBlock (params : KdfParams) : Bytes :=
  [params.algorithm.id, 0, 0, 0] ++ Bytes.ofUInt32 params.memory ++ Bytes.ofUInt32 params.time ++
    Bytes.ofUInt32 params.lanes

theorem length_toBlock (params : KdfParams) : params.toBlock.length = 16 := by
  simp [toBlock, Bytes.ofUInt32]

/-- Reads a block; the first fault counts, in the order length, algorithm, zero bytes, costs. -/
def ofBlock (block : Bytes) : Except HeaderFault KdfParams :=
  if block.length ≠ 16 then
    .error .paramsLength
  else
    let id := block.getD 0 0
    match KdfAlgorithm.ofId? id with
    | none => .error (.algorithm id)
    | some algorithm =>
        if block.slice 1 3 ≠ [0, 0, 0] then
          .error .reserved
        else
          let memory := Bytes.toUInt32 (block.slice 4 4)
          let time := Bytes.toUInt32 (block.slice 8 4)
          let lanes := Bytes.toUInt32 (block.slice 12 4)
          (new algorithm memory time lanes).mapError .params

end KdfParams

/-! ### Salt and parameters -/

structure Cleartext where
  salt : Octets 64
  kdf : KdfParams
  deriving DecidableEq

namespace Cleartext

def toBytes (cleartext : Cleartext) : Bytes := cleartext.salt.toList ++ cleartext.kdf.toBlock

theorem length_toBytes (cleartext : Cleartext) : cleartext.toBytes.length = 80 := by
  simp [toBytes, KdfParams.length_toBlock]

/-- Reads the front of a whole header. -/
def parse (header : Bytes) : Except Error Cleartext :=
  if header.length ≠ headerLength then
    .error (.malformedHeader (.length header.length))
  else
    match KdfParams.ofBlock (header.slice 64 16) with
    | .ok kdf => .ok ⟨Octets.ofBytes 64 (header.take 64), kdf⟩
    | .error fault => .error (.malformedHeader fault)

end Cleartext

end HeaderVault
