import HeaderVault.FileVolume
import HeaderVault.Proofs.Files.System

/-!
Reading and writing the slots of a volume in a file.

A slot can be read when the path of the volume leads to a file that has the bytes of the slot
(`FileVolume.read_eq_ok`), and a slot that can be read can be written (`FileVolume.write_of_holds`).
It then holds what was written, and the other slot is as it was (`FileVolume.read_written`,
`FileVolume.read_written_other`): the two slots are apart when the file has room for both, which is
what opening a volume checks.
-/

namespace HeaderVault

/-! ### A pair of slots -/

/-- What both slots hold. -/
abbrev Slots := HeaderSlot → HeaderBytes

namespace Slots

def put (slots : Slots) (slot : HeaderSlot) (bytes : HeaderBytes) : Slots :=
  fun other => if other = slot then bytes else slots other

@[simp]
theorem put_self (slots : Slots) (slot : HeaderSlot) (bytes : HeaderBytes) :
    slots.put slot bytes slot = bytes := if_pos rfl

theorem put_other (slots : Slots) {slot other : HeaderSlot} (different : other ≠ slot)
    (bytes : HeaderBytes) : slots.put slot bytes other = slots other := if_neg different

end Slots

/-! ### Bytes of a file -/

theorem Bytes.getElem?_slice (bytes : Bytes) (offset count i : Nat) :
    (bytes.slice offset count)[i]? = if i < count then bytes[offset + i]? else none := by
  rw [slice, List.getElem?_take, List.getElem?_drop]

theorem FileSystem.getElem?_overwrite {content bytes : Bytes} {offset : Nat}
    (inside : offset + bytes.length ≤ content.length) (i : Nat) :
    (overwrite content offset bytes)[i]? =
      if offset ≤ i ∧ i < offset + bytes.length then bytes[i - offset]? else content[i]? := by
  have noGap : offset - content.length = 0 := by omega
  have front : (content.take offset).length = offset := by
    rw [List.length_take]
    omega
  simp only [overwrite, noGap, List.replicate_zero, List.append_nil]
  by_cases before : i < offset
  · rw [List.getElem?_append_left (by rw [List.length_append, front]; omega),
      List.getElem?_append_left (by omega), List.getElem?_take, if_pos before, if_neg (by omega)]
  by_cases within : i < offset + bytes.length
  · rw [List.getElem?_append_left (by rw [List.length_append, front]; omega),
      List.getElem?_append_right (by omega), front, if_pos (by omega)]
  · rw [List.getElem?_append_right (by rw [List.length_append, front]; omega), if_neg (by omega),
      List.getElem?_drop, List.length_append, front]
    congr 1
    omega

theorem FileSystem.slice_overwrite_self {content bytes : Bytes} {offset : Nat}
    (inside : offset + bytes.length ≤ content.length) :
    (overwrite content offset bytes).slice offset bytes.length = bytes := by
  apply List.ext_getElem?
  intro i
  rw [Bytes.getElem?_slice, getElem?_overwrite inside]
  by_cases within : i < bytes.length
  · rw [if_pos within, if_pos (by omega), Nat.add_sub_cancel_left]
  · rw [if_neg within, List.getElem?_eq_none (by omega)]

theorem FileSystem.slice_overwrite {content bytes : Bytes} {offset other count : Nat}
    (inside : offset + bytes.length ≤ content.length)
    (apart : other + count ≤ offset ∨ offset + bytes.length ≤ other) :
    (overwrite content offset bytes).slice other count = content.slice other count := by
  apply List.ext_getElem?
  intro i
  rw [Bytes.getElem?_slice, Bytes.getElem?_slice]
  by_cases within : i < count
  · rw [if_pos within, if_pos within, getElem?_overwrite inside, if_neg (by omega)]
  · rw [if_neg within, if_neg within]

/-! ### Volumes in files -/

namespace FileVolume

theorem reachable_eq_ok {offset : UInt64} {place : Nat} :
    reachable offset = .ok place ↔ offset.toNat ≤ maxFileLength ∧ place = offset.toNat := by
  unfold reachable
  split
  · next far => simp only [reduceCtorEq, false_iff]; omega
  · next near => simp only [Except.ok.injEq]; omega

/-- The file of a volume, and the bytes of one of its slots. -/
structure Holds (volume : FileVolume) (files : FileSystem) (slot : HeaderSlot) (content : Bytes)
    (bytes : HeaderBytes) : Prop where
  resolved : files.resolve volume.path = .ok (volume.path.location files.working)
  reachable : (volume.offset slot).toNat ≤ maxFileLength
  found : files.get? (volume.path.location files.working) = some (.file content)
  stored : content.slice (volume.offset slot).toNat headerLength = bytes.toList

theorem Holds.inside {volume : FileVolume} {files : FileSystem} {slot : HeaderSlot}
    {content : Bytes} {bytes : HeaderBytes} (holds : Holds volume files slot content bytes) :
    (volume.offset slot).toNat + 512 ≤ content.length := by
  have lengths := congrArg List.length holds.stored
  rw [Bytes.length_slice, headerLength, Vector.length_toList] at lengths
  omega

theorem read_eq_ok {volume : FileVolume} {files : FileSystem} {slot : HeaderSlot}
    {bytes : HeaderBytes} :
    volume.read files slot = .ok bytes ↔ ∃ content, Holds volume files slot content bytes := by
  constructor
  · intro ok
    rw [read, FileSystem.describe_eq_ok] at ok
    obtain ⟨location, resolved, located⟩ := exists_of_bind ok
    obtain ⟨offset, reached, placed⟩ := exists_of_bind located
    obtain ⟨content, found, read⟩ := exists_of_bind placed
    obtain ⟨reachable, same⟩ := reachable_eq_ok.mp reached
    have leads := FileSystem.resolve_eq resolved
    rw [leads] at resolved found
    rw [same] at read
    simp only at read
    split at read
    · cases read
    next long =>
    have packed := Except.ok.inj read
    refine ⟨content, resolved, reachable, FileSystem.contentAt_eq_ok.mp found, ?_⟩
    rw [← packed, Octets.toList_ofBytes]
    have most := Bytes.length_slice content (volume.offset slot).toNat headerLength
    unfold headerLength at *
    omega
  · rintro ⟨content, holds⟩
    rw [read, FileSystem.describe_eq_ok, holds.resolved,
      reachable_eq_ok.mpr ⟨holds.reachable, rfl⟩]
    have inside := holds.inside
    have found := FileSystem.contentAt_eq_ok.mpr holds.found
    simp only [bind, Except.bind, found]
    rw [if_neg]
    · simp only [holds.stored, Octets.ofBytes_toList]
      rfl
    · rw [holds.stored, Vector.length_toList]
      decide

/-- What can be read stays the same while the path can be followed and the file is the same. -/
theorem read_of_grows {volume : FileVolume} {files changed : FileSystem} {location : Location}
    (grows : FileSystem.Grows files changed) (resolved : files.resolve volume.path = .ok location)
    (kept : changed.get? location = files.get? location) (slot : HeaderSlot) :
    volume.read changed slot = volume.read files slot := by
  rw [read, read, FileSystem.resolve_of_grows grows resolved, resolved]
  simp only [bind, Except.bind, FileSystem.contentAt, kept]

/-- The file of a volume after one of its slots was written. -/
def written (volume : FileVolume) (files : FileSystem) (slot : HeaderSlot) (content : Bytes)
    (bytes : HeaderBytes) : FileSystem :=
  files.put (volume.path.location files.working)
    (.file (FileSystem.overwrite content (volume.offset slot).toNat bytes.toList))

theorem write_eq_ok {volume : FileVolume} {files changed : FileSystem} {slot : HeaderSlot}
    {bytes : HeaderBytes} (ok : volume.write files slot bytes = .ok changed) :
    ∃ content, files.get? (volume.path.location files.working) = some (.file content) ∧
      changed = volume.written files slot content bytes := by
  rw [write, FileSystem.describe_eq_ok] at ok
  obtain ⟨location, resolved, located⟩ := exists_of_bind ok
  obtain ⟨content, found, placed⟩ := exists_of_bind located
  obtain ⟨offset, reached, written⟩ := exists_of_bind placed
  have leads := FileSystem.resolve_eq resolved
  rw [(reachable_eq_ok.mp reached).2, leads] at written
  rw [leads] at found
  cases written
  exact ⟨content, FileSystem.contentAt_eq_ok.mp found, rfl⟩

/-- A slot that can be read can be written. -/
theorem write_of_holds {volume : FileVolume} {files : FileSystem} {slot : HeaderSlot}
    {content : Bytes} {old : HeaderBytes} (holds : Holds volume files slot content old)
    (bytes : HeaderBytes) :
    volume.write files slot bytes = .ok (volume.written files slot content bytes) := by
  rw [write, FileSystem.describe_eq_ok, holds.resolved, reachable_eq_ok.mpr ⟨holds.reachable, rfl⟩]
  simp only [bind, Except.bind, FileSystem.contentAt_eq_ok.mpr holds.found]
  rfl

theorem toNat_offset_backup {volume : FileVolume} (room : slotsLength ≤ volume.length) :
    (volume.offset .backup).toNat = volume.length.toNat - 512 := by
  have least : 1024 ≤ volume.length.toNat := UInt64.le_iff_toNat_le.mp room
  rw [offset, UInt64.toNat_sub_of_le _ _ (UInt64.le_iff_toNat_le.mpr (by simpa using by omega))]
  rfl

/-- The slots do not overlap when the file has room for both. -/
theorem offsets_apart {volume : FileVolume} (room : slotsLength ≤ volume.length)
    {slot other : HeaderSlot} (different : other ≠ slot) :
    (volume.offset other).toNat + 512 ≤ (volume.offset slot).toNat ∨
      (volume.offset slot).toNat + 512 ≤ (volume.offset other).toNat := by
  have least : 1024 ≤ volume.length.toNat := UInt64.le_iff_toNat_le.mp room
  have first : (volume.offset .primary).toNat = 0 := rfl
  have last := toNat_offset_backup room
  cases slot <;> cases other
  · exact absurd rfl different
  · right
    omega
  · left
    omega
  · exact absurd rfl different

theorem written_replaces {volume : FileVolume} {files : FileSystem} {content : Bytes}
    (found : files.get? (volume.path.location files.working) = some (.file content))
    (slot : HeaderSlot) (bytes : HeaderBytes) :
    FileSystem.Replaces (volume.path.location files.working)
      (FileSystem.overwrite content (volume.offset slot).toNat bytes.toList) files
      (volume.written files slot content bytes) where
  working := rfl
  replaced := FileSystem.get?_put_self _ (FileSystem.ne_nil_of_file found) _
  noDirectory := by simp [found]
  get? other different node known := by rwa [written, FileSystem.get?_put _ different]
  files other different content known := by rwa [written, FileSystem.get?_put _ different] at known

theorem read_written {volume : FileVolume} {files : FileSystem} {slot : HeaderSlot}
    {content : Bytes} {old : HeaderBytes} (holds : Holds volume files slot content old)
    (bytes : HeaderBytes) : volume.read (volume.written files slot content bytes) slot = .ok bytes := by
  have replaces := written_replaces holds.found slot bytes
  have size : bytes.toList.length = headerLength := Vector.length_toList
  refine read_eq_ok.mpr ⟨_, ?_, holds.reachable, replaces.replaced, ?_⟩
  · exact FileSystem.resolve_of_grows replaces.grows holds.resolved
  · rw [← size]
    exact FileSystem.slice_overwrite_self (by rw [size]; exact holds.inside)

theorem read_written_other {volume : FileVolume} (room : slotsLength ≤ volume.length)
    {files : FileSystem} {slot other : HeaderSlot} (different : other ≠ slot) {content : Bytes}
    {old : HeaderBytes} (holds : Holds volume files slot content old) (bytes : HeaderBytes) :
    volume.read (volume.written files slot content bytes) other = volume.read files other := by
  have replaces := written_replaces holds.found slot bytes
  have size : bytes.toList.length = 512 := Vector.length_toList
  have same : (FileSystem.overwrite content (volume.offset slot).toNat bytes.toList).slice
      (volume.offset other).toNat headerLength =
        content.slice (volume.offset other).toNat headerLength := by
    refine FileSystem.slice_overwrite (by rw [size]; exact holds.inside) ?_
    rw [size]
    exact offsets_apart room different
  rw [read, read, FileSystem.resolve_of_grows replaces.grows holds.resolved, holds.resolved]
  congr 1
  simp only [bind, Except.bind, FileSystem.contentAt_eq_ok.mpr replaces.replaced,
    FileSystem.contentAt_eq_ok.mpr holds.found]
  cases reached : reachable (volume.offset other) with
  | error fault => rfl
  | ok offset => simp only [(reachable_eq_ok.mp reached).2, same]

end FileVolume

end HeaderVault
