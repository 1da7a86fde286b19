import HeaderVault.Checksum
import HeaderVault.Header.Cleartext
import HeaderVault.Kdf.Derivation
import HeaderVault.Xts

/-!
Volume headers, open and sealed.

A sealed header is its cleartext followed by a body of 432 bytes, encrypted as one data unit under
the header key. The body begins with 172 bytes that hold a mark, the version of the format, the size
of the data area and the check value of the key area; the check value of these 172 bytes and the key
area itself follow. Neither check value can be right under a wrong key but by accident, so a wrong
one means the credential was wrong.
-/

namespace HeaderVault

/-- What a header says: how its key is derived, and what it keeps. -/
structure VolumeHeader where
  kdf : KdfParams
  salt : Octets 64
  dataSize : UInt64
  keyArea : Octets 256
  deriving DecidableEq

namespace VolumeHeader

/-- The version of the format, the only one so far. -/
def version : Nat := 1

/-- The bytes at the start of every body. -/
def magic : Bytes := "VKHD".toUTF8.toList

/-- The same keys and data size for another derivation. -/
def rewrapped (header : VolumeHeader) (kdf : KdfParams) (salt : Octets 64) : VolumeHeader :=
  { header with kdf := kdf, salt := salt }

def cleartext (header : VolumeHeader) : Cleartext := ⟨header.salt, header.kdf⟩

/-! ### The body -/

/-- The bytes that the header checksum covers. -/
def bodyStart (header : VolumeHeader) : Bytes :=
  magic ++ Bytes.ofNatLE 2 version ++ [0, 0] ++ Bytes.ofUInt64 header.dataSize ++
    Bytes.ofUInt32 (Checksum.checksum header.keyArea.toList) ++ List.replicate 152 0

def body (header : VolumeHeader) : Bytes :=
  header.bodyStart ++ Bytes.ofUInt32 (Checksum.checksum header.bodyStart) ++ header.keyArea.toList

/-- Reads a body; the mark comes first, then the version, then the two checksums. -/
def ofBody (cleartext : Cleartext) (body : Bytes) : Except Error VolumeHeader :=
  let found := Bytes.toNatLE (body.slice 4 2)
  let keyArea := body.drop 176
  if body.take 4 ≠ magic then
    .error .wrongCredential
  else if found ≠ version then
    .error (.malformedHeader (.version found))
  else if Bytes.toUInt32 (body.slice 172 4) ≠ Checksum.checksum (body.take 172) then
    .error .wrongCredential
  else if Bytes.toUInt32 (body.slice 16 4) ≠ Checksum.checksum keyArea then
    .error .wrongCredential
  else
    .ok {
      kdf := cleartext.kdf
      salt := cleartext.salt
      dataSize := Bytes.toUInt64 (body.slice 8 8)
      keyArea := Octets.ofBytes 256 keyArea }

/-! ### Sealing -/

/-- The two keys of a header key. -/
def keys (key : HeaderKey) : Xts.Keys :=
  let half (bytes : Bytes) : Aes.Cipher := .ofKey ⟨.aes256, Octets.ofBytes 32 bytes⟩
  ⟨half (key.bytes.toList.take 32), half (key.bytes.toList.drop 32)⟩

def encryptBody (key : HeaderKey) (body : Bytes) : Bytes :=
  Aes.Block.join (Xts.encryptBlocks (keys key) 0 (Aes.Block.split body))

def decryptBody (key : HeaderKey) (body : Bytes) : Bytes :=
  Aes.Block.join (Xts.decryptBlocks (keys key) 0 (Aes.Block.split body))

/-- Seals a header; only the key derived from its own salt and parameters opens it for a credential.
-/
def sealWith (header : VolumeHeader) (key : HeaderKey) : HeaderBytes :=
  Octets.ofBytes 512 (header.cleartext.toBytes ++ encryptBody key header.body)

/-- Opens a sealed header with a key. -/
def openWith (key : HeaderKey) (sealed : Bytes) : Except Error VolumeHeader := do
  let cleartext ← Cleartext.parse sealed
  ofBody cleartext (decryptBody key (sealed.drop 80))

/-- The text for programmers; the key area never appears. -/
def describe (header : VolumeHeader) : String :=
  s!"VolumeHeader \x7b version: {version}, kdf: {header.kdf.describe}, " ++
    s!"data_size: {header.dataSize}, key_area: \"[REDACTED]\" \x7d"

end VolumeHeader

end HeaderVault
