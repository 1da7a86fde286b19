import Mathlib.Algebra.BigOperators.Intervals
import HeaderVault.Files.Keyfile
import HeaderVault.Proofs.Argon2.Checked
import HeaderVault.Proofs.Files.System

/-!
What mixing keyfiles into a password comes to.

A keyfile stands for the registers after its bytes that count, and a list of keyfiles for their
registers in a row (`Credential.registers`). The pool holds such registers when every byte of it is
the sum of the register bytes that come to lie there and the next register is still to come at its
place (`Pool.Holds`). An empty pool holds none, and adding a register makes it one more
(`Pool.Holds.addRegister`); as registers have four bytes and the size of a pool is a multiple of
four, none of them is ever cut by the end of the pool.

So the secret has a closed form (`Credential.Mixed`), and the functions that look up every byte in
its place and stop where there is none never stop (`Credential.checkedSecret_eq`).
-/

namespace HeaderVault

open Argon2 (Checked)
open Argon2.Checked (refusing ok_bind)

/-! ### Registers -/

/-- The bytes that count. -/
def Keyfile.counted (keyfile : Keyfile) : Bytes := keyfile.data.take limit

/-- The keyfile without the bytes that do not count. -/
def Keyfile.cut (keyfile : Keyfile) : Keyfile := ⟨keyfile.label, keyfile.counted⟩

/-- A keyfile has bytes that count unless it has none at all. -/
theorem Keyfile.counted_eq_nil {keyfile : Keyfile} : keyfile.counted = [] ↔ keyfile.data = [] := by
  simp [counted, limit]

theorem Keyfile.counted_cut (keyfile : Keyfile) : keyfile.cut.counted = keyfile.counted := by
  simp [cut, counted, List.take_take]

/-- What is read of a file is the keyfile of its contents without the bytes that do not count. -/
theorem Keyfile.load_of_read {files : FileSystem} {path : Path} {content : Bytes}
    (read : files.read path = .ok content) :
    load files path = .ok (cut ⟨path.text, content⟩) := by
  unfold FileSystem.read at read
  cases resolved : files.resolve path with
  | error fault =>
      rw [resolved] at read
      cases read
  | ok location =>
      rw [resolved] at read
      have found : files.contentAt location = .ok content := read
      rw [load, FileSystem.describe_eq_ok.mpr resolved]
      simp only [bind, Except.bind, FileSystem.describe_eq_ok.mpr found]
      rfl

/-- The registers after each byte of a string. -/
def Checksum.registers (initial : UInt32) (bytes : Bytes) : List UInt32 :=
  (List.range bytes.length).map fun i => register initial (bytes.take (i + 1))

/-- The registers after each byte that counts, starting anew with every keyfile. -/
def Credential.registers (keyfiles : List Keyfile) : List UInt32 :=
  keyfiles.flatMap fun keyfile => Checksum.registers 0xffffffff keyfile.counted

theorem Checksum.registers_cons (initial : UInt32) (byte : UInt8) (rest : Bytes) :
    registers initial (byte :: rest) =
      update initial byte :: registers (update initial byte) rest := by
  simp [registers, List.range_succ_eq_map, Function.comp_def]

/-- A byte of a register, counted from the most significant one. -/
def Checksum.registerByte (register : UInt32) (j : Nat) : Nat :=
  (register.toNat >>> (8 * (3 - j))) % 256

/-- In the order in which they are added to the pool. -/
theorem Checksum.toNat_reverse_ofUInt32 (register : UInt32) {j : Nat} (bound : j < 4) :
    ((Bytes.ofUInt32 register).reverse.getD j 0).toNat = registerByte register j := by
  have bytes : (Bytes.ofUInt32 register).reverse =
      [UInt8.ofNat (register.toNat / 256 / 256 / 256), UInt8.ofNat (register.toNat / 256 / 256),
        UInt8.ofNat (register.toNat / 256), UInt8.ofNat register.toNat] := rfl
  rw [bytes, registerByte, Nat.shiftRight_eq_div_pow]
  have cases : j = 0 ∨ j = 1 ∨ j = 2 ∨ j = 3 := by omega
  rcases cases with rfl | rfl | rfl | rfl <;> simp <;> omega

theorem Checksum.length_reverse_ofUInt32 (register : UInt32) :
    (Bytes.ofUInt32 register).reverse.length = 4 := rfl

/-! ### Look-ups -/

namespace Pool

variable {size : Nat}

/-- Adds to the byte at the place, which must be one of the pool. -/
def checkedAddByte (pool : Pool size) (byte : UInt8) : Checked (Pool size) :=
  if inside : pool.place < size then
    .ok ⟨pool.sums.set pool.place (pool.sums[pool.place] + byte), pool.place + 1⟩
  else
    .error .aborted

def checkedAddRegister (pool : Pool size) (register : UInt32) : Checked (Pool size) := do
  return wrap (← (Bytes.ofUInt32 register).reverse.foldlM checkedAddByte pool)

def checkedAddBytes : (pool : Pool size) → (register : UInt32) → Bytes → Checked (Pool size)
  | pool, _, [] => .ok pool
  | pool, register, byte :: rest => do
      let next := Checksum.update register byte
      checkedAddBytes (← checkedAddRegister pool next) next rest

def checkedAddKeyfile (pool : Pool size) (keyfile : Keyfile) : Checked (Pool size) :=
  if keyfile.data.isEmpty then
    .error (.refused (.keyfile (.empty keyfile.label)))
  else
    checkedAddBytes pool Checksum.start (keyfile.data.take Keyfile.limit)

end Pool

/-- The secret with every byte of the pool looked up, and the password copied where it fits only. -/
def Credential.checkedSecret (credential : Credential) : Checked Bytes :=
  let password := credential.password
  if credential.keyfiles.isEmpty then
    .ok password
  else if maxMixedPassword < password.length then
    .error (.refused (.keyfile .passwordLength))
  else do
    let size := Pool.sizeFor password
    let pool ← credential.keyfiles.foldlM Pool.checkedAddKeyfile (Pool.empty size)
    if password.length ≤ size then
      return List.zipWith (· + ·) (Octets.ofBytes size password).toList pool.sums.toList
    else
      throw .aborted

/-! ### Bytes in a row -/

namespace Pool

section

variable {size : Nat} {pool : Pool size} {bytes : Bytes}

theorem addByte_eq (inside : pool.place < size) (byte : UInt8) :
    pool.addByte byte =
      ⟨pool.sums.set pool.place (pool.sums[pool.place] + byte), pool.place + 1⟩ := by
  obtain ⟨sums, place⟩ := pool
  have inside : place < size := inside
  simp only [addByte, Vector.getElem?_eq_getElem inside, Option.getD_some,
    Argon2.setIfInBounds_of_lt sums inside]

theorem checkedAddByte_eq (inside : pool.place < size) (byte : UInt8) :
    pool.checkedAddByte byte = .ok (pool.addByte byte) := by
  rw [checkedAddByte, dif_pos inside, addByte_eq inside]

theorem place_addByte (pool : Pool size) (byte : UInt8) :
    (pool.addByte byte).place = pool.place + 1 := rfl

theorem toNat_addByte (inside : pool.place < size) (byte : UInt8) {k : Nat} (bound : k < size) :
    (pool.addByte byte).sums[k].toNat =
      (pool.sums[k].toNat + if pool.place = k then byte.toNat else 0) % 256 := by
  have small := pool.sums[k].toNat_lt
  simp only [addByte_eq inside, Vector.getElem_set]
  split
  · next same =>
    subst same
    rw [UInt8.toNat_add]
  · exact (Nat.mod_eq_of_lt small).symm

theorem foldlM_checkedAddByte (fits : pool.place + bytes.length ≤ size) :
    bytes.foldlM checkedAddByte pool = .ok (bytes.foldl addByte pool) := by
  induction bytes generalizing pool with
  | nil => rfl
  | cons byte rest ih =>
      simp only [List.length_cons] at fits
      rw [List.foldlM_cons, checkedAddByte_eq (by omega), ok_bind, List.foldl_cons]
      exact ih (by rw [place_addByte]; omega)

theorem place_foldl_addByte (pool : Pool size) (bytes : Bytes) :
    (bytes.foldl addByte pool).place = pool.place + bytes.length := by
  induction bytes generalizing pool with
  | nil => rfl
  | cons byte rest ih =>
      rw [List.foldl_cons, ih, place_addByte, List.length_cons]
      omega

theorem toNat_foldl_addByte (fits : pool.place + bytes.length ≤ size) {k : Nat} (bound : k < size) :
    (bytes.foldl addByte pool).sums[k].toNat =
      (pool.sums[k].toNat + ∑ j ∈ Finset.range bytes.length,
        if pool.place + j = k then (bytes.getD j 0).toNat else 0) % 256 := by
  induction bytes generalizing pool with
  | nil => simp
  | cons byte rest ih =>
      simp only [List.length_cons] at fits
      have room : (pool.addByte byte).place + rest.length ≤ size := by
        rw [place_addByte]
        omega
      -- the first byte lies at the place, the others are counted on from behind it
      rw [List.foldl_cons, ih room, toNat_addByte (by omega) byte bound, List.length_cons,
        Finset.sum_range_succ', Nat.mod_add_mod, place_addByte]
      congr 1
      simp only [List.getD_cons_succ, List.getD_cons_zero, Nat.add_zero, Nat.add_right_comm _ 1,
        ← Nat.add_assoc]
      omega

end

/-! ### Registers in a row -/

/-- The sum of the bytes of registers in a row that come to lie at a place of a pool. -/
def sum (size : Nat) (registers : List UInt32) (place : Nat) : Nat :=
  ∑ n ∈ Finset.range registers.length, ∑ j ∈ Finset.range 4,
    if (4 * n + j) % size = place then Checksum.registerByte (registers.getD n 0) j else 0

/-- What a pool is after registers were added to an empty one. -/
structure Holds {size : Nat} (pool : Pool size) (registers : List UInt32) : Prop where
  place : pool.place = 4 * registers.length % size
  sums : ∀ k (_ : k < size), pool.sums[k].toNat = sum size registers k % 256

section

variable {size : Nat} {pool : Pool size} {before : List UInt32}

theorem sum_concat (size : Nat) (before : List UInt32) (register : UInt32) (place : Nat) :
    sum size (before ++ [register]) place =
      sum size before place + ∑ j ∈ Finset.range 4,
        if (4 * before.length + j) % size = place then Checksum.registerByte register j else 0 := by
  rw [sum, List.length_append, List.length_singleton, Finset.sum_range_succ]
  congr 1
  · refine Finset.sum_congr rfl fun n bound => ?_
    rw [List.getD_append _ _ _ _ (Finset.mem_range.mp bound)]
  · simp

theorem holds_empty (size : Nat) : (empty size).Holds [] where
  place := rfl
  sums k bound := by simp [empty, sum, Octets.zero]

/-- A register is not cut by the end of the pool. -/
theorem mod_add (whole : 4 ∣ size) (pos : 0 < size) (n : Nat) {j : Nat} (bound : j < 4) :
    4 * n % size + 4 ≤ size ∧ (4 * n + j) % size = 4 * n % size + j := by
  obtain ⟨groups, rfl⟩ := whole
  have group : n % groups < groups := Nat.mod_lt n (by omega)
  have front : 4 * n % (4 * groups) = 4 * (n % groups) := Nat.mul_mod_mul_left 4 n groups
  have inside : 4 * (n % groups) + j < 4 * groups := by omega
  refine ⟨by omega, ?_⟩
  rw [← Nat.mod_add_mod, front, Nat.mod_eq_of_lt inside]

/-- Behind the last group of the pool comes the first one. -/
theorem place_wrap (inside : pool.place ≤ size) : pool.wrap.place = pool.place % size := by
  rw [wrap]
  split
  · next full =>
    have same : pool.place = size := Nat.le_antisymm inside full
    rw [same, Nat.mod_self]
  · next room => exact (Nat.mod_eq_of_lt (Nat.lt_of_not_le room)).symm

@[simp]
theorem sums_wrap (pool : Pool size) : pool.wrap.sums = pool.sums := by
  rw [wrap]
  split <;> rfl

variable (whole : 4 ∣ size) (pos : 0 < size)
include whole pos

theorem Holds.fits (holds : pool.Holds before) (register : UInt32) :
    pool.place + (Bytes.ofUInt32 register).reverse.length ≤ size := by
  have room := (mod_add whole pos before.length (j := 0) (by decide)).1
  rw [holds.place, Checksum.length_reverse_ofUInt32]
  exact room

/-- The step: one register more. -/
theorem Holds.addRegister (holds : pool.Holds before) (register : UInt32) :
    (pool.addRegister register).Holds (before ++ [register]) where
  place := by
    have fits := holds.fits whole pos register
    have after : ((Bytes.ofUInt32 register).reverse.foldl addByte pool).place =
        4 * before.length % size + 4 := by
      rw [place_foldl_addByte, holds.place, Checksum.length_reverse_ofUInt32]
    rw [Checksum.length_reverse_ofUInt32, holds.place] at fits
    rw [Pool.addRegister, place_wrap (by omega), after, Nat.mod_add_mod, List.length_append,
      List.length_singleton, Nat.mul_add]
  sums k bound := by
    -- wrapping moves the place only, so the sums are those of four bytes in a row
    rw [sum_concat, ← Nat.mod_add_mod, ← holds.sums k bound]
    simp only [Pool.addRegister, sums_wrap]
    rw [toNat_foldl_addByte (holds.fits whole pos register) bound,
      Checksum.length_reverse_ofUInt32]
    congr 2
    refine Finset.sum_congr rfl fun j small => ?_
    have small := Finset.mem_range.mp small
    rw [(mod_add whole pos before.length small).2, holds.place,
      Checksum.toNat_reverse_ofUInt32 register small]

theorem Holds.checkedAddRegister (holds : pool.Holds before) (register : UInt32) :
    pool.checkedAddRegister register = .ok (pool.addRegister register) := by
  rw [Pool.checkedAddRegister, foldlM_checkedAddByte (holds.fits whole pos register), ok_bind]
  rfl

theorem Holds.addBytes (holds : pool.Holds before) (register : UInt32) (bytes : Bytes) :
    pool.checkedAddBytes register bytes = .ok (pool.addBytes register bytes) ∧
      (pool.addBytes register bytes).Holds (before ++ Checksum.registers register bytes) := by
  induction bytes generalizing pool before register with
  | nil =>
      rw [Pool.addBytes, show Checksum.registers register [] = [] from rfl, List.append_nil]
      exact ⟨rfl, holds⟩
  | cons byte rest ih =>
      obtain ⟨checked, rest⟩ := ih (holds.addRegister whole pos (Checksum.update register byte))
        (Checksum.update register byte)
      rw [Pool.checkedAddBytes, holds.checkedAddRegister whole pos, ok_bind,
        Checksum.registers_cons, List.append_cons]
      exact ⟨checked, rest⟩

/-! ### Keyfiles in a row -/

theorem Holds.addKeyfile (holds : pool.Holds before) {keyfile : Keyfile}
    (filled : keyfile.data ≠ []) :
    ∃ next, pool.addKeyfile keyfile = .ok next ∧ pool.checkedAddKeyfile keyfile = .ok next ∧
      next.Holds (before ++ Checksum.registers 0xffffffff keyfile.counted) := by
  obtain ⟨checked, next⟩ := holds.addBytes whole pos Checksum.start keyfile.counted
  have some : ¬keyfile.data.isEmpty := by simpa using filled
  exact ⟨_, if_neg some, (if_neg some).trans checked, next⟩

theorem Holds.addKeyfiles (holds : pool.Holds before) {keyfiles : List Keyfile}
    (filled : ∀ keyfile ∈ keyfiles, keyfile.data ≠ []) :
    ∃ last, keyfiles.foldlM Pool.addKeyfile pool = .ok last ∧
      keyfiles.foldlM Pool.checkedAddKeyfile pool = .ok last ∧
      last.Holds (before ++ Credential.registers keyfiles) := by
  induction keyfiles generalizing pool before with
  | nil => exact ⟨pool, rfl, rfl, by simpa [Credential.registers] using holds⟩
  | cons keyfile rest ih =>
      obtain ⟨next, added, checked, holds⟩ := holds.addKeyfile whole pos
        (filled keyfile List.mem_cons_self)
      obtain ⟨last, all, allChecked, holds⟩ := ih holds fun other member =>
        filled other (List.mem_cons_of_mem _ member)
      refine ⟨last, ?_, ?_, ?_⟩
      · rw [List.foldlM_cons, added]
        exact all
      · rw [List.foldlM_cons, checked, ok_bind, allChecked]
      · rwa [List.append_assoc] at holds

/-- The first empty keyfile ends everything. -/
theorem Holds.refuses (holds : pool.Holds before) {keyfiles : List Keyfile}
    (hollow : ∃ keyfile ∈ keyfiles, keyfile.data = []) :
    ∃ error, keyfiles.foldlM Pool.addKeyfile pool = .error error ∧
      keyfiles.foldlM Pool.checkedAddKeyfile pool = .error (.refused error) := by
  induction keyfiles generalizing pool before with
  | nil => simp at hollow
  | cons keyfile rest ih =>
      by_cases empty : keyfile.data = []
      · have empty : keyfile.data.isEmpty = true := by simpa using empty
        refine ⟨.keyfile (.empty keyfile.label), ?_, ?_⟩
        · rw [List.foldlM_cons, Pool.addKeyfile, if_pos empty]
          rfl
        · rw [List.foldlM_cons, Pool.checkedAddKeyfile, if_pos empty]
          rfl
      · obtain ⟨next, added, checked, holds⟩ := holds.addKeyfile whole pos empty
        have later : ∃ keyfile ∈ rest, keyfile.data = [] := by
          obtain ⟨other, member, none⟩ := hollow
          rcases List.mem_cons.mp member with rfl | member
          · exact absurd none empty
          · exact ⟨other, member, none⟩
        obtain ⟨error, refused, refusedChecked⟩ := ih holds later
        refine ⟨error, ?_, ?_⟩
        · rw [List.foldlM_cons, added]
          exact refused
        · rw [List.foldlM_cons, checked, ok_bind, refusedChecked]

end

theorem sizeFor_whole (password : Bytes) : 4 ∣ sizeFor password := by
  unfold sizeFor
  split <;> decide

theorem sizeFor_pos (password : Bytes) : 0 < sizeFor password := by
  unfold sizeFor
  split <;> decide

theorem length_le_sizeFor {password : Bytes}
    (short : password.length ≤ Credential.maxMixedPassword) :
    password.length ≤ sizeFor password := by
  unfold sizeFor
  split
  · assumption
  · exact short

end Pool

/-! ### The secret -/

namespace Credential

/-- The closed form: a password is filled up with zeros to one of two sizes, and the bytes of all
registers are added to it, each of them where it comes to lie. -/
structure Mixed (password : Bytes) (row : List UInt32) (mixed : Bytes) : Prop where
  length : mixed.length = if password.length ≤ 64 then 64 else 128
  byte : ∀ place < mixed.length, (mixed.getD place 0).toNat =
    ((password.getD place 0).toNat + Pool.sum mixed.length row place) % 256

section

variable {password mixed other : Bytes} {row : List UInt32} {credential : Credential}

theorem Mixed.unique (first : Mixed password row mixed)
    (second : Mixed password row other) : mixed = other := by
  have same : mixed.length = other.length := first.length.trans second.length.symm
  refine List.ext_getElem same fun place left right => ?_
  have byte := (first.byte place left).trans (same ▸ (second.byte place right).symm)
  rw [List.getD_eq_getElem _ _ left, List.getD_eq_getElem _ _ right] at byte
  exact UInt8.toNat_inj.mp byte

theorem mixed_of_holds {pool : Pool (Pool.sizeFor password)} (holds : pool.Holds row) :
    Mixed password row (List.zipWith (· + ·)
      (Octets.ofBytes (Pool.sizeFor password) password).toList pool.sums.toList) where
  length := by simp [Pool.sizeFor]
  byte place bound := by
    have length : (List.zipWith (· + ·) (Octets.ofBytes (Pool.sizeFor password) password).toList
        pool.sums.toList).length = Pool.sizeFor password := by simp
    rw [length] at bound ⊢
    have sum := holds.sums place bound
    rw [List.getD_eq_getElem _ _ (by rwa [length])]
    simp [UInt8.toNat_add, sum, Octets.ofBytes]

/-- What a credential is refused for. -/
def Unusable (credential : Credential) : Prop :=
  128 < credential.password.length ∨ ∃ keyfile ∈ credential.keyfiles, keyfile.data = []

theorem secret_refuses (some : credential.keyfiles ≠ []) (unusable : credential.Unusable) :
    ∃ error, credential.secret = .error error ∧
      credential.checkedSecret = .error (.refused error) := by
  have some : ¬credential.keyfiles.isEmpty := by simpa using some
  rw [secret, checkedSecret, if_neg some, if_neg some]
  by_cases long : maxMixedPassword < credential.password.length
  · exact ⟨_, if_pos long, if_pos long⟩
  · rw [if_neg long, if_neg long]
    have hollow := unusable.resolve_left long
    obtain ⟨error, refused, checked⟩ := (Pool.holds_empty _).refuses
      (Pool.sizeFor_whole credential.password) (Pool.sizeFor_pos credential.password) hollow
    refine ⟨error, ?_, ?_⟩
    · dsimp only
      rw [refused]
      rfl
    · dsimp only
      rw [checked]
      rfl

theorem secret_mixes (some : credential.keyfiles ≠ []) (usable : ¬credential.Unusable) :
    ∃ mixed, credential.secret = .ok mixed ∧ credential.checkedSecret = .ok mixed ∧
      Mixed credential.password (registers credential.keyfiles) mixed := by
  have some : ¬credential.keyfiles.isEmpty := by simpa using some
  have short : ¬maxMixedPassword < credential.password.length := fun long => usable (.inl long)
  have fits := Pool.length_le_sizeFor (Nat.le_of_not_lt short)
  have filled : ∀ keyfile ∈ credential.keyfiles, keyfile.data ≠ [] :=
    fun keyfile member none => usable (.inr ⟨keyfile, member, none⟩)
  obtain ⟨pool, added, checked, holds⟩ := (Pool.holds_empty _).addKeyfiles
    (Pool.sizeFor_whole credential.password) (Pool.sizeFor_pos credential.password) filled
  refine ⟨_, ?_, ?_, mixed_of_holds holds⟩
  · rw [secret, if_neg some, if_neg short]
    dsimp only
    rw [added]
    rfl
  · rw [checkedSecret, if_neg some, if_neg short]
    dsimp only
    rw [checked, ok_bind, if_pos fits]
    rfl

/-- No look-up leaves the pool, and no copy its size. -/
theorem checkedSecret_eq (credential : Credential) :
    credential.checkedSecret = refusing credential.secret := by
  by_cases none : credential.keyfiles = []
  · rw [checkedSecret, secret, none]
    rfl
  by_cases unusable : credential.Unusable
  · obtain ⟨error, refused, checked⟩ := secret_refuses none unusable
    rw [refused, checked]
    rfl
  · obtain ⟨mixed, value, checked, -⟩ := secret_mixes none unusable
    rw [value, checked]
    rfl

theorem exists_error_iff (some : credential.keyfiles ≠ []) :
    (∃ error, credential.secret = .error error) ↔ credential.Unusable := by
  constructor
  · rintro ⟨error, refused⟩
    by_contra usable
    obtain ⟨mixed, value, -⟩ := secret_mixes some usable
    rw [value] at refused
    cases refused
  · intro unusable
    obtain ⟨error, refused, -⟩ := secret_refuses some unusable
    exact ⟨error, refused⟩

theorem secret_eq_ok (some : credential.keyfiles ≠ []) :
    credential.secret = .ok mixed ↔
      ¬credential.Unusable ∧ Mixed credential.password (registers credential.keyfiles) mixed := by
  constructor
  · intro value
    have usable : ¬credential.Unusable := fun unusable => by
      obtain ⟨error, refused⟩ := (exists_error_iff some).mpr unusable
      rw [value] at refused
      cases refused
    obtain ⟨other, same, -, closed⟩ := secret_mixes some usable
    rw [value] at same
    cases same
    exact ⟨usable, closed⟩
  · rintro ⟨usable, closed⟩
    obtain ⟨other, value, -, same⟩ := secret_mixes some usable
    rw [value, same.unique closed]

end

/-! ### What lies behind the part that counts -/

section

variable {password mixed : Bytes} {keyfiles others : List Keyfile}

theorem registers_congr (same : others.map Keyfile.counted = keyfiles.map Keyfile.counted) :
    registers others = registers keyfiles := by
  have parts : ∀ list : List Keyfile,
      registers list = (list.map Keyfile.counted).flatMap (Checksum.registers 0xffffffff) :=
    fun list => by rw [registers, List.flatMap_map]
  rw [parts, parts, same]

theorem unusable_congr (same : others.map Keyfile.counted = keyfiles.map Keyfile.counted) :
    Unusable ⟨password, others⟩ ↔ Unusable ⟨password, keyfiles⟩ := by
  have parts : ∀ list : List Keyfile,
      (∃ keyfile ∈ list, keyfile.data = []) ↔ [] ∈ list.map Keyfile.counted :=
    fun list => by simp [Keyfile.counted_eq_nil]
  rw [Unusable, Unusable, parts, parts, same]

/-- A password and the parts of the keyfiles that count make the secret. -/
theorem secret_congr (same : others.map Keyfile.counted = keyfiles.map Keyfile.counted) :
    secret ⟨password, others⟩ = .ok mixed ↔ secret ⟨password, keyfiles⟩ = .ok mixed := by
  by_cases none : keyfiles = []
  · subst none
    rw [List.map_eq_nil_iff.mp same]
  have some : others ≠ [] := by
    rintro rfl
    exact none (List.map_eq_nil_iff.mp same.symm)
  refine (secret_eq_ok some).trans ((and_congr ?_ ?_).trans (secret_eq_ok none).symm)
  · exact not_congr (unusable_congr same)
  · rw [registers_congr same]

theorem addKeyfile_cut {size : Nat} (pool : Pool size) (keyfile : Keyfile) :
    pool.addKeyfile keyfile.cut = pool.addKeyfile keyfile := by
  have empty : keyfile.cut.data.isEmpty = keyfile.data.isEmpty := by
    rw [Bool.eq_iff_iff, List.isEmpty_iff, List.isEmpty_iff]
    exact Keyfile.counted_eq_nil
  rw [Pool.addKeyfile, Pool.addKeyfile, empty]
  congr 2
  exact congrArg _ keyfile.counted_cut

/-- With their labels they also decide what is refused, and how. -/
theorem secret_map_cut (password : Bytes) (keyfiles : List Keyfile) :
    secret ⟨password, keyfiles.map Keyfile.cut⟩ = secret ⟨password, keyfiles⟩ := by
  have added : ∀ (size : Nat), (keyfiles.map Keyfile.cut).foldlM Pool.addKeyfile (Pool.empty size) =
      keyfiles.foldlM Pool.addKeyfile (Pool.empty size) := by
    intro size
    simp only [List.foldlM_map, addKeyfile_cut]
  simp only [secret, List.isEmpty_map, added]

theorem secret_cut_between (password : Bytes) (before : List Keyfile) (keyfile : Keyfile)
    (after : List Keyfile) :
    secret ⟨password, before ++ keyfile.cut :: after⟩ =
      secret ⟨password, before ++ keyfile :: after⟩ := by
  have twice : keyfile.cut.cut = keyfile.cut :=
    congrArg (Keyfile.mk keyfile.label) keyfile.counted_cut
  rw [← secret_map_cut password (before ++ keyfile.cut :: after),
    ← secret_map_cut password (before ++ keyfile :: after)]
  simp only [List.map_append, List.map_cons, twice]

end

/-- Mixing keyfiles into a password has a closed form, and no look-up leaves the pool. Without
keyfiles the password stays as it is. Otherwise what is refused is a password that is too long or
an empty keyfile, and the secret has 64 bytes, or 128 for a password of more than 64: at every
place the byte of the password and the bytes of all registers, after each byte that counts of each
keyfile, that come to lie there. So what lies behind the part that counts never matters, and a
keyfile that is read from a file mixes like the whole contents of the file. -/
theorem secret_exact (credential : Credential) :
    credential.checkedSecret = refusing credential.secret ∧
      (credential.keyfiles = [] → credential.secret = .ok credential.password) ∧
      (credential.keyfiles ≠ [] →
        ((∃ error, credential.secret = .error error) ↔
          128 < credential.password.length ∨
            ∃ keyfile ∈ credential.keyfiles, keyfile.data = []) ∧
        ∀ mixed, credential.secret = .ok mixed →
          Mixed credential.password (registers credential.keyfiles) mixed) ∧
      (∀ others : List Keyfile,
        others.map Keyfile.counted = credential.keyfiles.map Keyfile.counted → ∀ mixed,
          secret ⟨credential.password, others⟩ = .ok mixed ↔ credential.secret = .ok mixed) ∧
      ∀ (files : FileSystem) (path : Path) (content : Bytes), files.read path = .ok content →
        ∃ keyfile, Keyfile.load files path = .ok keyfile ∧ ∀ before after : List Keyfile,
          secret ⟨credential.password, before ++ keyfile :: after⟩ =
            secret ⟨credential.password, before ++ ⟨path.text, content⟩ :: after⟩ := by
  refine ⟨checkedSecret_eq credential, fun none => ?_, fun some => ⟨exists_error_iff some, ?_⟩,
    fun others same mixed => secret_congr same, fun files path content read => ?_⟩
  · rw [secret, none]
    rfl
  · intro mixed value
    exact ((secret_eq_ok some).mp value).2
  · refine ⟨_, Keyfile.load_of_read read, fun before after => ?_⟩
    exact secret_cut_between credential.password before ⟨path.text, content⟩ after

/-- A password with two keyfiles. -/
def twoKeyfiles : Credential := ⟨[112, 119], [⟨"a", [97]⟩, ⟨"b", [98]⟩]⟩

/-- The first of them in a file. -/
def firstOnDisk : FileSystem := ⟨[(["a"], .file [97])], []⟩

/-- Both keyfiles go into one secret, also when one of them is read from its file and the other is
known under another name. -/
theorem secret_twoKeyfiles :
    (∃ mixed, twoKeyfiles.secret = .ok mixed ∧
        Mixed twoKeyfiles.password (registers twoKeyfiles.keyfiles) mixed ∧
        secret ⟨twoKeyfiles.password, [⟨"c", [97]⟩, ⟨"b", [98]⟩]⟩ = .ok mixed) ∧
      ∃ keyfile, Keyfile.load firstOnDisk ⟨"a"⟩ = .ok keyfile ∧
        secret ⟨twoKeyfiles.password, [keyfile, ⟨"b", [98]⟩]⟩ = twoKeyfiles.secret := by
  obtain ⟨-, -, mixes, alike, loads⟩ := secret_exact twoKeyfiles
  obtain ⟨refuses, closed⟩ := mixes (by decide)
  obtain ⟨keyfile, loaded, same⟩ := loads firstOnDisk ⟨"a"⟩ [97] (by decide)
  refine ⟨?_, keyfile, loaded, same [] [⟨"b", [98]⟩]⟩
  cases value : twoKeyfiles.secret with
  | error error => exact absurd (refuses.mp ⟨error, value⟩) (by decide)
  | ok mixed =>
      refine ⟨mixed, rfl, closed mixed value, ?_⟩
      exact (alike [⟨"c", [97]⟩, ⟨"b", [98]⟩] (by decide) mixed).mpr value

end Credential

end HeaderVault
