import HeaderVault.Aes.Block
import HeaderVault.Error

/-!
AES keys and the round keys made from them.

A schedule always has room for the fifteen round keys of the longest key size; shorter keys leave
the last ones zero. The schedule for encryption holds the round keys in the order of their use. The
one for decryption holds them in reverse, the inner ones with their columns unmixed, so that
decryption can run its steps in the same order as encryption does.

The stored form of a schedule is the fifteen round keys and a field of four bytes, the first of
which is sixteen times the number of rounds (`toBytes`, `ofBytes`). A field that names no key size
is refused, never guessed.
-/

namespace HeaderVault.Aes

/-! ### Keys -/

inductive KeySize where
  | aes128
  | aes192
  | aes256
  deriving DecidableEq, Repr

namespace KeySize

/-- Words of a key. -/
def words : KeySize → Nat
  | aes128 => 4
  | aes192 => 6
  | aes256 => 8

/-- Bytes of a key. -/
def bytes (size : KeySize) : Nat := 4 * size.words

/-- Rounds of the cipher. -/
def rounds (size : KeySize) : Nat := size.words + 6

theorem rounds_lt (size : KeySize) : size.rounds < 15 := by cases size <;> decide

def ofLength? : Nat → Option KeySize
  | 16 => some aes128
  | 24 => some aes192
  | 32 => some aes256
  | _ => none

theorem ofLength?_bytes (size : KeySize) : ofLength? size.bytes = some size := by
  cases size <;> rfl

theorem bytes_of_ofLength? {length : Nat} {size : KeySize} (known : ofLength? length = some size) :
    size.bytes = length := by
  unfold ofLength? at known
  split at known <;> simp_all <;> subst known <;> rfl

end KeySize

structure Key where
  size : KeySize
  octets : Octets size.bytes

/-- A key of 16, 24 or 32 bytes. -/
def Key.ofBytes (bytes : Bytes) : Except Error Key :=
  match KeySize.ofLength? bytes.length with
  | some size => .ok ⟨size, Octets.ofBytes size.bytes bytes⟩
  | none => .error (.invalidKeyLength bytes.length)

/-! ### Key expansion -/

/-- The powers of `x`, from `1` on. -/
def roundConstant : Nat → UInt8
  | 0 => 1
  | n + 1 => double (roundConstant n)

/-- Word `i` of the expansion, from the word before it and the word one key length back. -/
def nextWord (keyWords i : Nat) (previous back : Column) : Column :=
  back.xor <|
    if i % keyWords = 0 then
      (previous.rotate.map substitute).xor ⟨roundConstant (i / keyWords - 1), 0, 0, 0⟩
    else if 6 < keyWords ∧ i % keyWords = 4 then previous.map substitute
    else previous

/-- Appends words to an expansion that has begun. -/
def appendWords (keyWords : Nat) : (count : Nat) → Array Column → Array Column
  | 0, words => words
  | count + 1, words =>
      let previous := words.getD (words.size - 1) .zero
      let back := words.getD (words.size - keyWords) .zero
      appendWords keyWords count (words.push (nextWord keyWords words.size previous back))

/-- All words of the round keys: four for each round and four to begin with. -/
def Key.expand (key : Key) : Array Column :=
  appendWords key.size.words (4 * (key.size.rounds + 1) - key.size.words)
    (Column.split key.octets.toList).toArray

/-- Round key `i`: the words from `4 * i` on. -/
def Key.roundKey (words : Array Column) (i : Nat) : Block :=
  ⟨words.getD (4 * i) .zero, words.getD (4 * i + 1) .zero, words.getD (4 * i + 2) .zero,
    words.getD (4 * i + 3) .zero⟩

/-! ### Schedules -/

structure Schedule where
  direction : Direction
  size : KeySize
  keys : Vector Block 15
  deriving DecidableEq

namespace Schedule

def rounds (schedule : Schedule) : Nat := schedule.size.rounds

/-- The round keys in the order of their use. -/
def encrypting (key : Key) : Schedule where
  direction := .encrypt
  size := key.size
  keys :=
    let words := key.expand
    Vector.ofFn fun i => if i ≤ key.size.rounds then Key.roundKey words i else .zero

/-- The round keys in reverse, all but the outer two with unmixed columns. -/
def decrypting (key : Key) : Schedule where
  direction := .decrypt
  size := key.size
  keys :=
    let words := key.expand
    let last := key.size.rounds
    Vector.ofFn fun i =>
      if i = 0 ∨ i = last then Key.roundKey words (last - i)
      else if i < last then (Key.roundKey words (last - i)).unmixColumns
      else .zero

/-- Round key `i`, for `i` up to the number of rounds. -/
def key? (schedule : Schedule) (i : Nat) : Option Block :=
  if i ≤ schedule.rounds then schedule.keys[i]? else none

def key (schedule : Schedule) (i : Nat) : Block := schedule.keys.getD i .zero

/-- Bytes of a stored schedule. -/
def storedLength : Nat := 244

/-- The stored form. -/
def toBytes (schedule : Schedule) : Bytes :=
  Block.join schedule.keys.toList ++ [UInt8.ofNat (16 * schedule.rounds), 0, 0, 0]

/-- Reads a stored schedule. -/
def ofBytes (direction : Direction) (bytes : Bytes) : Except Error Schedule := do
  if bytes.length ≠ storedLength then
    throw (.corruptSchedule (.length bytes.length))
  let size ← match bytes.getD 240 0 with
    | 160 => pure KeySize.aes128
    | 192 => pure KeySize.aes192
    | 224 => pure KeySize.aes256
    | 0 => throw (.corruptSchedule .zeroRounds)
    | field => throw (.corruptSchedule (.rounds field))
  let blocks := (Block.split (bytes.take 240)).toArray
  return ⟨direction, size, Vector.ofFn fun i => blocks.getD i .zero⟩

/-- The round keys never appear in a printed schedule. -/
def describe (schedule : Schedule) : String :=
  s!"RoundKeySchedule \x7b direction: {schedule.direction.name}, rounds: {schedule.rounds}, " ++
    "keys: \"[REDACTED]\" \x7d"

end Schedule

end HeaderVault.Aes
