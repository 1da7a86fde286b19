/-!
Byte strings.

`Bytes` holds byte strings of any length and `Octets n` those of exactly `n` bytes. Every number of
a header is stored least significant byte first: `ofNatLE` and `toNatLE` are the two directions of
that code, and `toNatLE_ofNatLE` and `ofNatLE_toNatLE` say that nothing is lost below
`capacity width`.
-/

namespace HeaderVault

/-- A byte string of any length. -/
abbrev Bytes := List UInt8

/-- A byte string of exactly `n` bytes. -/
abbrev Octets (n : Nat) := Vector UInt8 n

namespace Bytes

/-- The `count` bytes from `offset` on, fewer where the string ends before. -/
def slice (bytes : Bytes) (offset count : Nat) : Bytes :=
  (bytes.drop offset).take count

theorem length_slice (bytes : Bytes) (offset count : Nat) :
    (slice bytes offset count).length = min count (bytes.length - offset) := by
  simp [slice]

/-! ### Numbers -/

/-- The `width` bytes of `n`, least significant first; what does not fit is dropped. -/
def ofNatLE : (width : Nat) → (n : Nat) → Bytes
  | 0, _ => []
  | width + 1, n => UInt8.ofNat n :: ofNatLE width (n / 256)

/-- How many numbers fit into a width. -/
def capacity : (width : Nat) → Nat
  | 0 => 1
  | width + 1 => 256 * capacity width

/-- The number whose bytes these are, least significant first. -/
def toNatLE : Bytes → Nat
  | [] => 0
  | byte :: rest => byte.toNat + 256 * toNatLE rest

@[simp]
theorem length_ofNatLE (width n : Nat) : (ofNatLE width n).length = width := by
  induction width generalizing n with
  | zero => rfl
  | succ width ih => simp [ofNatLE, ih]

theorem toNatLE_ofNatLE (width n : Nat) : toNatLE (ofNatLE width n) = n % capacity width := by
  induction width generalizing n with
  | zero => simp [ofNatLE, toNatLE, capacity, Nat.mod_one]
  | succ width ih =>
      have byte : (UInt8.ofNat n).toNat = n % 256 := UInt8.toNat_ofNat'
      rw [ofNatLE, toNatLE, ih, byte, capacity, Nat.mod_mul]

theorem toNatLE_lt (bytes : Bytes) : toNatLE bytes < capacity bytes.length := by
  induction bytes with
  | nil => simp [toNatLE, capacity]
  | cons byte rest ih =>
      have := byte.toNat_lt
      simp only [toNatLE, List.length_cons, capacity]
      omega

theorem ofNatLE_toNatLE (bytes : Bytes) : ofNatLE bytes.length (toNatLE bytes) = bytes := by
  induction bytes with
  | nil => rfl
  | cons byte rest ih =>
      have small := byte.toNat_lt
      have quotient : (byte.toNat + 256 * toNatLE rest) / 256 = toNatLE rest := by omega
      simp only [List.length_cons, toNatLE, ofNatLE, quotient, ih, List.cons.injEq, and_true]
      apply UInt8.toNat_inj.mp
      rw [UInt8.toNat_ofNat']
      omega

/-- A 32-bit word as four bytes. -/
def ofUInt32 (word : UInt32) : Bytes := ofNatLE 4 word.toNat

/-- The 32-bit word of four bytes; bits above are dropped. -/
def toUInt32 (bytes : Bytes) : UInt32 := UInt32.ofNat (toNatLE bytes)

/-- A 64-bit word as eight bytes. -/
def ofUInt64 (word : UInt64) : Bytes := ofNatLE 8 word.toNat

/-- The 64-bit word of eight bytes; bits above are dropped. -/
def toUInt64 (bytes : Bytes) : UInt64 := UInt64.ofNat (toNatLE bytes)

@[simp]
theorem toUInt32_ofUInt32 (word : UInt32) : toUInt32 (ofUInt32 word) = word := by
  have fits : word.toNat < capacity 4 := word.toNat_lt
  simp [toUInt32, ofUInt32, toNatLE_ofNatLE, Nat.mod_eq_of_lt fits]

@[simp]
theorem toUInt64_ofUInt64 (word : UInt64) : toUInt64 (ofUInt64 word) = word := by
  have fits : word.toNat < capacity 8 := word.toNat_lt
  simp [toUInt64, ofUInt64, toNatLE_ofNatLE, Nat.mod_eq_of_lt fits]

/-! ### Hexadecimal text -/

/-- The digit of a number below sixteen. -/
def hexDigit (n : Nat) : Char :=
  if n < 10 then Char.ofNat (48 + n) else Char.ofNat (87 + n)

/-- Two lower case digits a byte. -/
def toHex (bytes : Bytes) : String :=
  String.ofList (bytes.flatMap fun byte => [hexDigit (byte.toNat / 16), hexDigit (byte.toNat % 16)])

/-! ### Text -/

/-- The text that bytes spell in UTF-8, if they spell one. -/
def toText? (bytes : Bytes) : Option String := String.fromUTF8? ⟨bytes.toArray⟩

end Bytes

namespace Octets

/-- All bytes zero. -/
def zero (n : Nat) : Octets n := Vector.replicate n 0

/-- The first `n` bytes of a string, followed by zeros where it is shorter. -/
def ofBytes (n : Nat) (bytes : Bytes) : Octets n :=
  let packed := bytes.toArray
  Vector.ofFn fun i => packed.getD i 0

theorem toList_ofBytes {n : Nat} {bytes : Bytes} (exact : bytes.length = n) :
    (ofBytes n bytes).toList = bytes := by
  subst exact
  apply List.ext_getElem
  · simp
  · intro i left right
    simp [ofBytes]

@[simp]
theorem ofBytes_toList {n : Nat} (octets : Octets n) : ofBytes n octets.toList = octets := by
  ext i bound
  simp [ofBytes]

end Octets

end HeaderVault
