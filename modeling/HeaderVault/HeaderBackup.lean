import HeaderVault.Header.Cleartext

/-!
The file format for saved headers: a mark, a version, the number of headers, the time of saving in
seconds, and one or two sealed headers.

A file holds nothing else, and reading checks every byte that is not a header, so `decode` and
`encode` undo each other.
-/

namespace HeaderVault

/-- A moment in whole seconds from the start of 1970, within the years that a calendar covers. -/
structure Timestamp where
  seconds : Int64
  first_le : -8334601228800 ≤ seconds.toInt
  le_last : seconds.toInt ≤ 8210266876799
  deriving DecidableEq

/-- The start of 1970. -/
def Timestamp.epoch : Timestamp := ⟨0, by decide, by decide⟩

def Timestamp.ofSeconds? (seconds : Int64) : Option Timestamp :=
  if inside : -8334601228800 ≤ seconds.toInt ∧ seconds.toInt ≤ 8210266876799 then
    some ⟨seconds, inside.1, inside.2⟩
  else
    none

/-- The headers of a volume as they were saved. -/
structure HeaderBackup where
  created : Timestamp
  primary : HeaderBytes
  backup : Option HeaderBytes
  deriving DecidableEq

namespace HeaderBackup

/-- The bytes at the start of every file. -/
def magic : Bytes := "VKBK".toUTF8.toList

def version : UInt8 := 1

/-- Bytes before the headers. -/
def prefixLength : Nat := 14

def headers (saved : HeaderBackup) : List HeaderBytes := saved.primary :: saved.backup.toList

def encode (saved : HeaderBackup) : Bytes :=
  magic ++ [version, UInt8.ofNat saved.headers.length] ++
    Bytes.ofUInt64 saved.created.seconds.toUInt64 ++ saved.headers.flatMap Vector.toList

/-- Header `i` of a file. -/
def headerAt (bytes : Bytes) (i : Nat) : HeaderBytes :=
  Octets.ofBytes 512 (bytes.slice (prefixLength + headerLength * i) headerLength)

def decode (bytes : Bytes) : Except Error HeaderBackup :=
  let count := (bytes.getD 5 0).toNat
  if bytes.length < prefixLength ∨ bytes.take 4 ≠ magic then
    .error (.malformedHeader .magic)
  else if bytes.getD 4 0 ≠ version then
    .error (.malformedHeader (.fileVersion (bytes.getD 4 0)))
  else if ¬ (count = 1 ∨ count = 2) ∨ bytes.length ≠ prefixLength + headerLength * count then
    .error (.malformedHeader (.fileLength bytes.length count))
  else
    match Timestamp.ofSeconds? (Bytes.toUInt64 (bytes.slice 6 8)).toInt64 with
    | none => .error (.malformedHeader .timestamp)
    | some created =>
        .ok {
          created := created
          primary := headerAt bytes 0
          backup := if count = 2 then some (headerAt bytes 1) else none }

end HeaderBackup

end HeaderVault
