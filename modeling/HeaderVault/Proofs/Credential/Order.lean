import Mathlib.Data.Nat.ModEq
import HeaderVault.Proofs.Checksum
import HeaderVault.Proofs.Credential

/-!
Whether the order of two keyfiles matters.

The registers of the second keyfile come to lie behind those of the first one, around the end of the
pool. So the two orders give the same secret exactly when at every place what each keyfile adds in
front, and what the other one adds behind it, balance (`Pool.Balanced`, `Credential.swap_iff`). They
do when both keyfiles fill the pool a whole number of times, as each of them then begins at the front
in either order (`Pool.balanced_of_whole`).

Two keyfiles of one length that do not fill the pool never balance unless they are the same
(`Pool.Balanced.eq_of_length`), and two that fit into it one behind the other balance only if both of
them lead the register to one that differs from the start in its lowest byte at most
(`Credential.returns_of_balanced`).
-/

namespace HeaderVault

/-! ### Registers and their bytes -/

namespace Checksum

/-- A register is known by its four bytes. -/
theorem registerByte_ext {a b : UInt32}
    (same : ∀ j < 4, registerByte a j = registerByte b j) : a = b := by
  have smallA := a.toNat_lt
  have smallB := b.toNat_lt
  have first := same 0 (by decide)
  have second := same 1 (by decide)
  have third := same 2 (by decide)
  have fourth := same 3 (by decide)
  simp only [registerByte, Nat.shiftRight_eq_div_pow] at first second third fourth
  apply UInt32.toNat_inj.mp
  omega

theorem registerByte_lt (register : UInt32) (j : Nat) : registerByte register j < 256 :=
  Nat.mod_lt _ (by decide)

/-- Two bytes lead to one register only if they differ as the registers before them do. -/
theorem xor_eq_of_update {a b : UInt32} {byte other : UInt8}
    (same : update a byte = update b other) : a ^^^ byte.toUInt32 = b ^^^ other.toUInt32 := by
  rw [update_eq, update_eq] at same
  exact bitSteps_injective 8 same

theorem length_registers (initial : UInt32) (bytes : Bytes) :
    (registers initial bytes).length = bytes.length := by
  simp [registers]

theorem registers_append (initial : UInt32) (first second : Bytes) :
    registers initial (first ++ second) =
      registers initial first ++ registers (register initial first) second := by
  induction first generalizing initial with
  | nil => rfl
  | cons byte rest ih => simp [registers_cons, ih]

/-- A byte string is known by its registers. -/
theorem registers_injective (initial : UInt32) : Function.Injective (registers initial) := by
  intro bytes other same
  induction bytes generalizing initial other with
  | nil => cases other with
    | nil => rfl
    | cons => simp [registers] at same
  | cons byte rest ih => cases other with
    | nil => simp [registers] at same
    | cons first more =>
        rw [registers_cons, registers_cons, List.cons.injEq] at same
        have bytes := (UInt32.xor_right_inj initial).mp (xor_eq_of_update same.1)
        obtain rfl : byte = first := UInt8.toUInt32_inj.mp bytes
        rw [ih _ same.2]

end Checksum

/-! ### Two rows of registers -/

namespace Pool

open Checksum (registerByte)

/-- What a row of registers adds to a place of the pool when it begins behind `start` others. -/
def share (size start : Nat) (row : List UInt32) (place : Nat) : Nat :=
  ∑ n ∈ Finset.range row.length, ∑ j ∈ Finset.range 4,
    if (4 * (start + n) + j) % size = place then registerByte (row.getD n 0) j else 0

/-- At every place two rows add up to the same, whichever of them goes first. -/
def Balanced (size : Nat) (row other : List UInt32) : Prop :=
  ∀ place < size, (sum size row place + share size row.length other place) % 256 =
    (sum size other place + share size other.length row place) % 256

variable {size start : Nat} {row other : List UInt32}

theorem sum_append (size : Nat) (row other : List UInt32) (place : Nat) :
    sum size (row ++ other) place = sum size row place + share size row.length other place := by
  rw [sum, List.length_append, Finset.sum_range_add]
  congr 1
  · refine Finset.sum_congr rfl fun n inside => ?_
    rw [List.getD_append _ _ _ _ (Finset.mem_range.mp inside)]
  · refine Finset.sum_congr rfl fun n _ => ?_
    rw [List.getD_append_right _ _ _ _ (Nat.le_add_right _ _), Nat.add_sub_cancel_left]

theorem balanced_iff : Balanced size row other ↔
    ∀ place < size, sum size (row ++ other) place % 256 = sum size (other ++ row) place % 256 := by
  simp only [Balanced, sum_append]

/-- A row that begins further back adds the same, further back. -/
theorem share_shifted (row : List UInt32) {place : Nat} (inside : place < size) :
    share size start row ((4 * start + place) % size) = sum size row place := by
  refine Finset.sum_congr rfl fun n _ => Finset.sum_congr rfl fun j _ => ?_
  have cancel : (4 * (start + n) + j) % size = (4 * start + place) % size ↔
      (4 * n + j) % size = place := by
    rw [Nat.mul_add, Nat.add_assoc]
    conv_rhs => rw [← Nat.mod_eq_of_lt inside]
    exact ⟨Nat.ModEq.add_left_cancel' _, Nat.ModEq.add_left _⟩
  simp only [cancel]

/-- A row behind a whole number of pools begins at the front. -/
theorem share_of_whole (whole : size ∣ 4 * start) (row : List UInt32) (place : Nat) :
    share size start row place = sum size row place := by
  refine Finset.sum_congr rfl fun n _ => Finset.sum_congr rfl fun j _ => ?_
  obtain ⟨pools, whole⟩ := whole
  rw [Nat.mul_add, Nat.add_assoc, whole, Nat.mul_add_mod]

theorem balanced_of_whole (whole : size ∣ 4 * row.length) (wholeOther : size ∣ 4 * other.length) :
    Balanced size row other := by
  intro place _
  rw [share_of_whole whole, share_of_whole wholeOther, Nat.add_comm]

/-- A row that fits into the pool adds one byte of one register to each place. -/
theorem sum_of_fits (fits : 4 * row.length ≤ size) {place : Nat} (inside : place < size) :
    sum size row place = registerByte (row.getD (place / 4) 0) (place % 4) := by
  have single : ∀ n ∈ Finset.range row.length, ∑ j ∈ Finset.range 4,
      (if (4 * n + j) % size = place then registerByte (row.getD n 0) j else 0) =
        if n = place / 4 then registerByte (row.getD n 0) (place % 4) else 0 := by
    intro n within
    have within := Finset.mem_range.mp within
    by_cases here : n = place / 4
    · rw [if_pos here, Finset.sum_eq_single (place % 4)]
      · have whole : (4 * n + place % 4) % size = place := by
          rw [here, Nat.div_add_mod, Nat.mod_eq_of_lt inside]
        rw [if_pos whole]
      · intro j small different
        have small := Finset.mem_range.mp small
        rw [Nat.mod_eq_of_lt (by omega), if_neg (by omega)]
      · intro outside
        exact absurd (Finset.mem_range.mpr (Nat.mod_lt _ (by decide))) outside
    · rw [if_neg here]
      refine Finset.sum_eq_zero fun j small => ?_
      have small := Finset.mem_range.mp small
      rw [Nat.mod_eq_of_lt (by omega), if_neg (by omega)]
  rw [sum, Finset.sum_congr rfl single, Finset.sum_ite_eq']
  split
  · rfl
  · next behind =>
    have behind : row.length ≤ place / 4 := by simpa using behind
    rw [List.getD_eq_default _ _ behind]
    simp [registerByte]

/-- A row that fits into the pool is known by its sums. -/
theorem eq_of_sum (fits : 4 * row.length ≤ size) (length : row.length = other.length)
    (same : ∀ place < size, sum size row place % 256 = sum size other place % 256) :
    row = other := by
  refine List.ext_getElem length fun i inRow inOther => Checksum.registerByte_ext fun j small => ?_
  have sums := same (4 * i + j) (by omega)
  have register : (4 * i + j) / 4 = i := by omega
  have byte : (4 * i + j) % 4 = j := by omega
  rw [sum_of_fits fits (by omega), sum_of_fits (length ▸ fits) (by omega), register, byte,
    List.getD_eq_getElem _ _ inRow, List.getD_eq_getElem _ _ inOther,
    Nat.mod_eq_of_lt (Checksum.registerByte_lt _ _),
    Nat.mod_eq_of_lt (Checksum.registerByte_lt _ _)] at sums
  exact sums

/-- Behind a row that does not fill the pool nothing is added. -/
theorem sum_behind (fits : 4 * row.length ≤ size) {place : Nat} (behind : 4 * row.length ≤ place)
    (inside : place < size) : sum size row place = 0 := by
  rw [sum_of_fits fits inside, List.getD_eq_default _ _ (by omega)]
  simp [registerByte]

/-- Rows of one length that leave a part of the pool free balance only if they are the same. -/
theorem Balanced.eq_of_length (balanced : Balanced size row other)
    (length : row.length = other.length) (room : 4 * row.length < size) : row = other := by
  have fits := Nat.le_of_lt room
  refine eq_of_sum fits length fun place inside => ?_
  -- what is added to a place is added once more one row further on, where either nothing has been
  -- added before or, around the end of the pool, what is added to an earlier place
  induction place using Nat.strong_induction_on with
  | _ place earlier =>
    have pos : 0 < size := Nat.lt_of_le_of_lt (Nat.zero_le _) room
    have further := balanced ((4 * row.length + place) % size) (Nat.mod_lt _ pos)
    rw [share_shifted other inside, ← length, share_shifted row inside] at further
    have front : sum size row ((4 * row.length + place) % size) % 256 =
        sum size other ((4 * row.length + place) % size) % 256 := by
      by_cases around : 4 * row.length + place < size
      · have behind : 4 * row.length ≤ 4 * row.length + place := Nat.le_add_right _ _
        rw [Nat.mod_eq_of_lt around, sum_behind fits behind around,
          sum_behind (length ▸ fits) (length ▸ behind) around]
      · by_cases row.length = 0
        · omega
        · have back : (4 * row.length + place) % size = 4 * row.length + place - size := by
            rw [Nat.mod_eq_sub_mod (Nat.le_of_not_lt around), Nat.mod_eq_of_lt (by omega)]
          rw [back]
          exact earlier _ (by omega) (by omega)
    omega

/-- Rows that fit into the pool one behind the other balance only if their order does not matter. -/
theorem Balanced.append_comm (balanced : Balanced size row other)
    (fits : 4 * (row.length + other.length) ≤ size) : row ++ other = other ++ row :=
  eq_of_sum (by simpa using fits) (by simp [Nat.add_comm]) (balanced_iff.mp balanced)

end Pool

namespace Checksum

theorem getLast?_registers (initial : UInt32) {bytes : Bytes} (some : bytes ≠ []) :
    (registers initial bytes).getLast? = .some (register initial bytes) := by
  have last : bytes.dropLast ++ [bytes.getLast some] = bytes := List.dropLast_concat_getLast some
  rw [← last, registers_append]
  simp [registers]

/-- Strings whose registers can change places, the shorter of them first. -/
theorem returns_of_lt {initial : UInt32} {bytes other : Bytes} (some : bytes ≠ [])
    (shorter : bytes.length < other.length)
    (comm : registers initial bytes ++ registers initial other =
      registers initial other ++ registers initial bytes) :
    register initial bytes >>> 8 = initial >>> 8 := by
  -- the longer string begins with the shorter one
  have parts : other.take bytes.length ++ other.drop bytes.length = other := List.take_append_drop ..
  have front : registers initial bytes = registers initial (other.take bytes.length) := by
    rw [← parts, registers_append, List.append_assoc] at comm
    refine (List.append_inj comm ?_).1
    rw [length_registers, length_registers, List.length_take, Nat.min_eq_left (by omega)]
  rw [← registers_injective initial front] at parts
  cases rest : other.drop bytes.length with
  | nil =>
      have none := List.drop_eq_nil_iff.mp rest
      omega
  | cons next more =>
      cases bytes with
      | nil => exact absurd rfl some
      | cons byte bytes =>
          rw [← parts, rest, registers_append, List.append_assoc, List.append_cancel_left_eq,
            registers_cons, registers_cons] at comm
          have heads := xor_eq_of_update (List.cons.inj comm).1
          have low : ∀ byte : UInt8, byte.toUInt32 >>> 8 = 0 := fun byte => by
            have small := byte.toNat_lt
            apply UInt32.toNat_inj.mp
            simp only [UInt32.toNat_shiftRight, UInt8.toNat_toUInt32, Nat.shiftRight_eq_div_pow]
            exact Nat.div_eq_of_lt small
          have shifted := congrArg (fun word : UInt32 => word >>> 8) heads
          simpa [UInt32.shiftRight_xor, low] using shifted.symm

/-- Different strings whose registers can change places lead to the same register, and it differs
from the initial one in its lowest byte at most. -/
theorem returns_of_comm {initial : UInt32} {bytes other : Bytes} (some : bytes ≠ [])
    (someOther : other ≠ []) (different : bytes ≠ other)
    (comm : registers initial bytes ++ registers initial other =
      registers initial other ++ registers initial bytes) :
    register initial bytes = register initial other ∧
      register initial bytes >>> 8 = initial >>> 8 := by
  have last : register initial bytes = register initial other := by
    have lasts := congrArg List.getLast? comm
    rw [List.getLast?_append, List.getLast?_append, getLast?_registers initial some,
      getLast?_registers initial someOther] at lasts
    exact (Option.some.inj lasts).symm
  refine ⟨last, ?_⟩
  rcases Nat.lt_trichotomy bytes.length other.length with shorter | same | longer
  · exact returns_of_lt some shorter comm
  · have rows := (List.append_inj comm (by simp [length_registers, same])).1
    exact absurd (registers_injective initial rows) different
  · rw [last]
    exact returns_of_lt someOther longer comm.symm

end Checksum

/-! ### Two keyfiles -/

/-- The registers of a keyfile. -/
def Keyfile.registers (keyfile : Keyfile) : List UInt32 :=
  Checksum.registers Checksum.start keyfile.counted

namespace Credential

variable {password : Bytes} {a b : Keyfile}

theorem registers_pair (a b : Keyfile) : registers [a, b] = a.registers ++ b.registers := by
  simp [registers, Keyfile.registers, Checksum.start]

/-- A secret is as long as its pool. -/
theorem Mixed.length_eq {row : List UInt32} {mixed : Bytes} (closed : Mixed password row mixed) :
    mixed.length = Pool.sizeFor password := closed.length

/-- With one password, rows with the same sums make the same secret. -/
theorem Mixed.eq_iff {row other : List UInt32} {mixed second : Bytes}
    (closed : Mixed password row mixed) (closedSecond : Mixed password other second) :
    mixed = second ↔ ∀ place < Pool.sizeFor password,
      Pool.sum (Pool.sizeFor password) row place % 256 =
        Pool.sum (Pool.sizeFor password) other place % 256 := by
  have size := closed.length_eq
  have sizeSecond := closedSecond.length_eq
  constructor
  · rintro rfl place inside
    have byte := closed.byte place (size ▸ inside)
    have byteSecond := closedSecond.byte place (size ▸ inside)
    rw [size] at byte byteSecond
    omega
  · intro same
    refine closed.unique ⟨closedSecond.length, fun place inside => ?_⟩
    have byte := closedSecond.byte place inside
    rw [sizeSecond] at inside byte ⊢
    have sums := same place inside
    omega

/-- Both orders have a secret, and it is the same exactly when the registers balance. -/
theorem swap_iff (short : password.length ≤ 128) (filledA : a.data ≠ []) (filledB : b.data ≠ []) :
    ∃ first second, secret ⟨password, [a, b]⟩ = .ok first ∧ secret ⟨password, [b, a]⟩ = .ok second ∧
      (first = second ↔ Pool.Balanced (Pool.sizeFor password) a.registers b.registers) := by
  have usable : ∀ keyfiles : List Keyfile, (∀ keyfile ∈ keyfiles, keyfile.data ≠ []) →
      ¬Unusable ⟨password, keyfiles⟩ := by
    rintro keyfiles filled (long | ⟨keyfile, member, none⟩)
    · exact absurd short (Nat.not_le.mpr long)
    · exact filled keyfile member none
  obtain ⟨first, value, -, closed⟩ := secret_mixes (List.cons_ne_nil _ _)
    (usable [a, b] (by simp [filledA, filledB]))
  obtain ⟨second, valueSecond, -, closedSecond⟩ := secret_mixes (List.cons_ne_nil _ _)
    (usable [b, a] (by simp [filledA, filledB]))
  refine ⟨first, second, value, valueSecond, ?_⟩
  rw [registers_pair] at closed closedSecond
  rw [closed.eq_iff closedSecond, Pool.balanced_iff]

theorem returns_of_balanced {size : Nat} (filledA : a.data ≠ []) (filledB : b.data ≠ [])
    (different : a.counted ≠ b.counted) (fits : 4 * (a.counted.length + b.counted.length) ≤ size)
    (balanced : Pool.Balanced size a.registers b.registers) :
    Checksum.register Checksum.start a.counted = Checksum.register Checksum.start b.counted ∧
      Checksum.register Checksum.start a.counted >>> 8 = Checksum.start >>> 8 := by
  refine Checksum.returns_of_comm (fun none => filledA (Keyfile.counted_eq_nil.mp none))
    (fun none => filledB (Keyfile.counted_eq_nil.mp none)) different ?_
  apply balanced.append_comm
  simpa [Keyfile.registers, Checksum.length_registers] using fits

/-- The order of two keyfiles matters exactly when their registers do not balance in the pool. They
never balance when different contents of one length leave a part of the pool free. They balance when
each of the contents fills the pool a whole number of times; and where both fit into it one behind the
other, different contents balance only if they lead to one and the same register, which differs from
the start in its lowest byte at most. -/
theorem swap_exact (short : password.length ≤ 128) (filledA : a.data ≠ [])
    (filledB : b.data ≠ []) :
    ∃ first second, secret ⟨password, [a, b]⟩ = .ok first ∧ secret ⟨password, [b, a]⟩ = .ok second ∧
      (first = second ↔ Pool.Balanced (Pool.sizeFor password) a.registers b.registers) ∧
      (Pool.sizeFor password ∣ 4 * a.counted.length →
        Pool.sizeFor password ∣ 4 * b.counted.length → first = second) ∧
      (a.counted ≠ b.counted →
        (a.counted.length = b.counted.length → 4 * a.counted.length < Pool.sizeFor password →
          first ≠ second) ∧
        (4 * (a.counted.length + b.counted.length) ≤ Pool.sizeFor password → first = second →
          Checksum.register Checksum.start a.counted =
              Checksum.register Checksum.start b.counted ∧
            Checksum.register Checksum.start a.counted >>> 8 = Checksum.start >>> 8)) := by
  obtain ⟨first, second, value, valueSecond, swap⟩ := swap_iff short filledA filledB
  have length : ∀ keyfile : Keyfile, keyfile.registers.length = keyfile.counted.length :=
    fun keyfile => Checksum.length_registers _ _
  refine ⟨first, second, value, valueSecond, swap, fun whole wholeOther => ?_,
    fun different => ⟨fun same room alike => different ?_, fun fits alike => ?_⟩⟩
  · exact swap.mpr (Pool.balanced_of_whole (by rwa [length]) (by rwa [length]))
  · have rows := (swap.mp alike).eq_of_length (by rw [length, length, same]) (by rwa [length])
    exact Checksum.registers_injective _ rows
  · exact returns_of_balanced filledA filledB different fits (swap.mp alike)

/-- Keyfiles that are as long as they can be without filling the pool. -/
def nearlyFull : Keyfile := ⟨"a", List.replicate 15 97⟩

def nearlyFullToo : Keyfile := ⟨"b", List.replicate 15 98⟩

/-- Their order matters, though the second one goes around the end of the pool. -/
theorem swap_nearlyFull :
    nearlyFull.data ≠ [] ∧ nearlyFullToo.data ≠ [] ∧
      ∃ first second, secret ⟨[112, 119], [nearlyFull, nearlyFullToo]⟩ = .ok first ∧
        secret ⟨[112, 119], [nearlyFullToo, nearlyFull]⟩ = .ok second ∧ first ≠ second := by
  have filledA : nearlyFull.data ≠ [] := by decide
  have filledB : nearlyFullToo.data ≠ [] := by decide
  have short : [(112 : UInt8), 119].length ≤ 128 := by decide
  obtain ⟨first, second, value, valueSecond, -, -, differ⟩ := swap_exact short filledA filledB
  refine ⟨filledA, filledB, first, second, value, valueSecond, ?_⟩
  exact (differ (by decide)).1 (by decide) (by decide)

/-- Keyfiles that fill the pool of a short password once. -/
def full : Keyfile := ⟨"a", List.replicate 16 97⟩

def fullToo : Keyfile := ⟨"b", List.replicate 16 98⟩

/-- The order of different keyfiles can be lost. -/
theorem order_can_be_lost :
    full.data ≠ fullToo.data ∧ full.data.length = 16 ∧ fullToo.data.length = 16 ∧
      ∃ mixed, secret ⟨[112, 119], [full, fullToo]⟩ = .ok mixed ∧
        secret ⟨[112, 119], [fullToo, full]⟩ = .ok mixed := by
  have short : [(112 : UInt8), 119].length ≤ 128 := by decide
  have balanced : Pool.Balanced (Pool.sizeFor [112, 119]) full.registers fullToo.registers := by
    apply Pool.balanced_of_whole <;> rw [Keyfile.registers, Checksum.length_registers] <;> decide
  obtain ⟨first, second, value, valueSecond, swap⟩ :=
    swap_iff short (a := full) (b := fullToo) (by decide) (by decide)
  obtain rfl := swap.mpr balanced
  exact ⟨by decide, by decide, by decide, first, value, valueSecond⟩

end Credential

end HeaderVault
