import HeaderVault.Bytes

/-!
The CRC-32 of IEEE 802.3 in its reflected form, which guards the header fields and drives the mixing
of keyfiles.

A register of 32 bits takes one byte at a time. `bitStep` is the division step of a single bit; the
table holds eight of them for each byte, and `update` reads one entry. The register starts with all
bits set and is complemented at the end (`checksum`).
-/

namespace HeaderVault.Checksum

/-- The generator with its bits in reflected order and the leading one left out. -/
def polynomial : UInt32 := 0xedb88320

/-- The register all computations start from. -/
def start : UInt32 := 0xffffffff

/-- Divides out one bit: the lowest is shifted out and, where it was set, the generator is taken
off. -/
def bitStep (register : UInt32) : UInt32 :=
  if register &&& 1 = 0 then register >>> 1 else polynomial ^^^ (register >>> 1)

/-- Several bit steps in a row. -/
def bitSteps : Nat → UInt32 → UInt32
  | 0, register => register
  | count + 1, register => bitSteps count (bitStep register)

/-- Eight bit steps of every byte. -/
def table : Vector UInt32 256 := Vector.ofFn fun byte => bitSteps 8 (UInt32.ofNat byte)

/-- Advances a running register by one byte. -/
def update (register : UInt32) (byte : UInt8) : UInt32 :=
  let low := (register ^^^ byte.toUInt32).toUInt8
  have bound := low.toNat_lt
  table[low.toNat] ^^^ (register >>> 8)

/-- The register after a byte string, not complemented. -/
def register (initial : UInt32) (bytes : Bytes) : UInt32 := bytes.foldl update initial

/-- The check value of a byte string. -/
def checksum (bytes : Bytes) : UInt32 := ~~~ register start bytes

/-- A split message can be checked piece by piece. -/
@[simp]
theorem register_append (initial : UInt32) (first second : Bytes) :
    register initial (first ++ second) = register (register initial first) second :=
  List.foldl_append

@[simp]
theorem register_nil (initial : UInt32) : register initial [] = initial := rfl

@[simp]
theorem register_cons (initial : UInt32) (byte : UInt8) (rest : Bytes) :
    register initial (byte :: rest) = register (update initial byte) rest := rfl

end HeaderVault.Checksum
