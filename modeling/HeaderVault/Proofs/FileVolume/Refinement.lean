import HeaderVault.Proofs.FileVolume.Access
import HeaderVault.Proofs.Files.Saving

/-!
A volume in a file behaves as a pair of slots.

`FileVolume.Represents` relates a file to two slots and the bytes between them. It holds of a file
with the length that the volume knows (`represents_of_read`), as it does after opening
(`openAt_of_read`) and creating, whose four ends are told apart once (`Creation`, `create_eq_ok`). A
call answers what the slots would answer and keeps the relation, with the same bytes between the
slots (`call_represents`), and so does any sequence of calls (`calls_represents`). A file of 1024
bytes, whose slots touch, is no exception.
-/

namespace HeaderVault

/-! ### Calls -/

namespace FileVolume

/-- A call on a volume. -/
inductive Call where
  | read (slot : HeaderSlot)
  | write (slot : HeaderSlot) (bytes : HeaderBytes)
  deriving DecidableEq, Repr

/-- Makes a call, which answers with the bytes that it has read, if it is one that reads. -/
def call (volume : FileVolume) (files : FileSystem) :
    Call → Except Error (Option HeaderBytes × FileSystem)
  | .read slot => do
      let bytes ← volume.read files slot
      return (some bytes, files)
  | .write slot bytes => do
      let changed ← volume.write files slot bytes
      return (none, changed)

/-- Makes calls one after the other, up to the first that fails. -/
def calls (volume : FileVolume) :
    FileSystem → List Call → Except Error (List (Option HeaderBytes) × FileSystem)
  | files, [] => return ([], files)
  | files, first :: rest => do
      let (answer, changed) ← volume.call files first
      let (answers, after) ← volume.calls changed rest
      return (answer :: answers, after)

end FileVolume

namespace Slots

open FileVolume

/-- What a call answers and leaves when the slots are cells of a memory. -/
def call (slots : Slots) : Call → Option HeaderBytes × Slots
  | .read slot => (some (slots slot), slots)
  | .write slot bytes => (none, slots.put slot bytes)

def calls : Slots → List Call → List (Option HeaderBytes) × Slots
  | slots, [] => ([], slots)
  | slots, first :: rest =>
      let next := slots.call first
      let last := next.2.calls rest
      (next.1 :: last.1, last.2)

/-! ### Files as slots -/

/-- The first and the last 512 bytes of a file. -/
def ends (content : Bytes) : Slots
  | .primary => Octets.ofBytes 512 (content.take 512)
  | .backup => Octets.ofBytes 512 (content.drop (content.length - 512))

/-- The bytes of a file, with an area between the slots. -/
def around (slots : Slots) (area : Bytes) : Bytes :=
  (slots .primary).toList ++ (area ++ (slots .backup).toList)

@[simp]
theorem length_around (slots : Slots) (area : Bytes) :
    (slots.around area).length = area.length + 1024 := by
  simp only [around, List.length_append, Vector.length_toList]
  omega

theorem around_ends {content : Bytes} (room : 1024 ≤ content.length) :
    (ends content).around (content.slice 512 (content.length - 1024)) = content := by
  have first : (ends content .primary).toList = content.take 512 :=
    Octets.toList_ofBytes (by rw [List.length_take]; omega)
  have last : (ends content .backup).toList = content.drop (content.length - 512) :=
    Octets.toList_ofBytes (by rw [List.length_drop]; omega)
  have rest : content.drop (content.length - 512) =
      (content.drop 512).drop (content.length - 1024) := by
    have place : 512 + (content.length - 1024) = content.length - 512 := by omega
    rw [List.drop_drop, place]
  rw [around, first, last, rest, Bytes.slice, List.take_append_drop, List.take_append_drop]

theorem ends_around (slots : Slots) (area : Bytes) : ends (slots.around area) = slots := by
  have size : ∀ slot, (slots slot).toList.length = 512 := fun slot => Vector.length_toList
  funext slot
  cases slot with
  | primary => rw [ends, around, List.take_left' (size _), Octets.ofBytes_toList]
  | backup =>
      have before : (slots.around area).length - 512 =
          ((slots .primary).toList ++ area).length := by
        rw [length_around, List.length_append, size]
        omega
      rw [ends, before, around, ← List.append_assoc, List.drop_left, Octets.ofBytes_toList]

theorem slice_around (slots : Slots) (area : Bytes) :
    (slots.around area).slice 512 area.length = area := by
  have size : (slots .primary).toList.length = 512 := Vector.length_toList
  rw [around, Bytes.slice, List.drop_left' size, List.take_left]

end Slots

namespace FileSystem

/-- No file is longer than a file can be. -/
def Sized (files : FileSystem) : Prop :=
  ∀ location content, files.get? location = some (.file content) →
    content.length ≤ FileVolume.maxFileLength

/-- Bytes that take the place of as many others. -/
theorem overwrite_append {old bytes : Bytes} (same : bytes.length = old.length)
    (before after : Bytes) :
    overwrite (before ++ (old ++ after)) before.length bytes = before ++ (bytes ++ after) := by
  have inside : before.length - (before ++ (old ++ after)).length = 0 := by
    rw [List.length_append]
    omega
  rw [overwrite, inside, same, List.take_left, List.drop_length_add_append, List.drop_left]
  simp

end FileSystem

/-! ### Representation -/

namespace FileVolume

/-- The file of a volume is two slots with an area between them, and not too long to be written
to at its end. -/
structure Represents (volume : FileVolume) (files : FileSystem) (area : Bytes) (slots : Slots) :
    Prop where
  resolved : files.resolve volume.path = .ok (volume.path.location files.working)
  found : files.get? (volume.path.location files.working) = some (.file (slots.around area))
  length : volume.length.toNat = area.length + 1024
  possible : volume.length.toNat ≤ maxFileLength

/-- Nothing but the file of a volume has changed. -/
structure Confined (volume : FileVolume) (files changed : FileSystem) : Prop where
  working : changed.working = files.working
  get? : ∀ location ≠ volume.path.location files.working,
    changed.get? location = files.get? location

namespace Confined

variable {volume : FileVolume} {files middle changed : FileSystem}

theorem refl (volume : FileVolume) (files : FileSystem) : Confined volume files files :=
  ⟨rfl, fun _ _ => rfl⟩

theorem trans (first : Confined volume files middle) (second : Confined volume middle changed) :
    Confined volume files changed where
  working := second.working.trans first.working
  get? location outside := by
    rw [← first.get? location outside]
    apply second.get?
    rwa [first.working]

end Confined

namespace Represents

variable {volume : FileVolume} {files : FileSystem} {area : Bytes} {slots : Slots}

theorem toNat_offset_backup (represents : Represents volume files area slots) :
    (volume.offset .backup).toNat = area.length + 512 := by
  have length := represents.length
  have room : slotsLength ≤ volume.length := by
    apply UInt64.le_iff_toNat_le.mpr
    rw [length]
    exact Nat.le_add_left 1024 _
  rw [FileVolume.toNat_offset_backup room]
  omega

theorem holds (represents : Represents volume files area slots) (slot : HeaderSlot) :
    Holds volume files slot (slots.around area) (slots slot) := by
  have size : ∀ slot, (slots slot).toList.length = headerLength := fun slot => Vector.length_toList
  have last := represents.toNat_offset_backup
  constructor
  case resolved => exact represents.resolved
  case found => exact represents.found
  case reachable =>
    cases slot with
    | primary => exact Nat.zero_le _
    | backup =>
        have length := represents.length
        have possible := represents.possible
        omega
  case stored =>
    cases slot with
    | primary => exact List.take_left' (size _)
    | backup =>
        have before : (volume.offset .backup).toNat =
            ((slots .primary).toList ++ area).length := by
          rw [last, List.length_append, size, Nat.add_comm]
          rfl
        rw [Slots.around, ← List.append_assoc, Bytes.slice, before, List.drop_left]
        exact List.take_of_length_le (Nat.le_of_eq (size _))

theorem read (represents : Represents volume files area slots) (slot : HeaderSlot) :
    volume.read files slot = .ok (slots slot) :=
  read_eq_ok.mpr ⟨_, represents.holds slot⟩

/-- What is written takes the place of one slot; the other one and the area stay. -/
theorem overwrite_around (represents : Represents volume files area slots) (slot : HeaderSlot)
    (bytes : HeaderBytes) :
    FileSystem.overwrite (slots.around area) (volume.offset slot).toNat bytes.toList =
      (slots.put slot bytes).around area := by
  have size : ∀ bytes : HeaderBytes, bytes.toList.length = 512 := fun bytes => Vector.length_toList
  cases slot with
  | primary =>
      have other : HeaderSlot.backup ≠ .primary := by decide
      rw [Slots.around, Slots.around, Slots.put_self, slots.put_other other]
      exact FileSystem.overwrite_append (by rw [size, size]) [] _
  | backup =>
      have other : HeaderSlot.primary ≠ .backup := by decide
      have before : (volume.offset .backup).toNat = ((slots .primary).toList ++ area).length := by
        rw [represents.toNat_offset_backup, List.length_append, size, Nat.add_comm]
      have same : bytes.toList.length = (slots .backup).toList.length := by rw [size, size]
      have written := FileSystem.overwrite_append same ((slots .primary).toList ++ area) []
      rw [Slots.around, Slots.around, Slots.put_self, slots.put_other other, before]
      simpa using written

theorem write (represents : Represents volume files area slots) (slot : HeaderSlot)
    (bytes : HeaderBytes) :
    ∃ changed, volume.write files slot bytes = .ok changed ∧
      Represents volume changed area (slots.put slot bytes) ∧ Confined volume files changed := by
  have replaces := written_replaces represents.found slot bytes
  refine ⟨_, write_of_holds (represents.holds slot) bytes, ?_, rfl, ?_⟩
  · constructor
    case resolved => exact FileSystem.resolve_of_grows replaces.grows represents.resolved
    case found =>
      rw [← represents.overwrite_around slot bytes]
      exact replaces.replaced
    case length => exact represents.length
    case possible => exact represents.possible
  · intro location outside
    exact FileSystem.get?_put files outside _

/-- The file of a volume as it is found under its path. -/
theorem read_path (represents : Represents volume files area slots) :
    files.read volume.path = .ok (slots.around area) := by
  rw [FileSystem.read, represents.resolved]
  exact FileSystem.contentAt_eq_ok.mpr represents.found

end Represents

variable {volume : FileVolume} {files : FileSystem} {area : Bytes} {slots : Slots}

/-- One call. -/
theorem call_represents (represents : Represents volume files area slots) (made : Call) :
    ∃ changed, volume.call files made = .ok ((slots.call made).1, changed) ∧
      Represents volume changed area (slots.call made).2 ∧ Confined volume files changed := by
  cases made with
  | read slot =>
      refine ⟨files, ?_, represents, .refl volume files⟩
      rw [call, represents.read slot]
      rfl
  | write slot bytes =>
      obtain ⟨changed, written, kept, confined⟩ := represents.write slot bytes
      refine ⟨changed, ?_, kept, confined⟩
      rw [call, written]
      rfl

theorem calls_represents (represents : Represents volume files area slots) (made : List Call) :
    ∃ after, volume.calls files made = .ok ((slots.calls made).1, after) ∧
      Represents volume after area (slots.calls made).2 ∧ Confined volume files after := by
  induction made generalizing files slots with
  | nil => exact ⟨files, rfl, represents, .refl volume files⟩
  | cons first rest ih =>
      obtain ⟨changed, done, kept, confined⟩ := call_represents represents first
      obtain ⟨after, more, last, further⟩ := ih kept
      refine ⟨after, ?_, last, confined.trans further⟩
      simp only [calls, done, more, bind, Except.bind]
      rfl

/-! ### Opening and creating -/

/-- A file that is found under a path is represented by its ends and what is between them. -/
theorem represents_of_read {content : Bytes} (found : files.read volume.path = .ok content)
    (length : volume.length.toNat = content.length) (room : 1024 ≤ content.length)
    (possible : content.length ≤ maxFileLength) :
    Represents volume files (content.slice 512 (content.length - 1024)) (Slots.ends content) := by
  obtain ⟨location, resolved, read⟩ := exists_of_bind found
  have leads := FileSystem.resolve_eq resolved
  constructor
  case resolved => rw [resolved, leads]
  case found =>
    rw [Slots.around_ends room, ← leads]
    exact FileSystem.contentAt_eq_ok.mp read
  case length =>
    rw [length, Bytes.length_slice]
    omega
  case possible => rwa [length]

/-- A file is opened when it has room for both slots. -/
theorem openAt_of_read {path : Path} {content : Bytes} (found : files.read path = .ok content) :
    openAt files path =
      if content.length < 1024 then .error (.malformedHeader (.tooSmall path.text))
      else .ok ⟨path, UInt64.ofNat content.length⟩ := by
  obtain ⟨location, resolved, read⟩ := exists_of_bind found
  have there := FileSystem.contentAt_eq_ok.mp read
  have measured : files.length path = .ok content.length := by
    simp only [FileSystem.length, resolved, bind, Except.bind, there]
    rfl
  rw [openAt, measured]
  rfl

/-- A length that can be counted is the sum that it is. -/
theorem toNat_length {dataSize : UInt64} (representable : dataSize.toNat + 1024 < UInt64.size) :
    (dataSize + slotsLength).toNat = dataSize.toNat + 1024 := by
  rw [UInt64.toNat_add]
  exact Nat.mod_eq_of_lt representable

theorem resize_eq_ok {disk : Disk} {file : Location} {length : Nat} :
    resize disk file length = .ok () ↔
      length ≤ maxFileLength ∧ disk.refuses (.resize file length) = none := by
  unfold resize
  split
  · next large => simp [Nat.not_le.mpr large]
  · next near => simp [Disk.perform_eq_ok, Nat.not_lt.mp near]

/-- How creating a volume can end. -/
inductive Creation (files : FileSystem) (path : Path) (dataSize : UInt64) (disk : Disk) :
    FileSystem × Except Error FileVolume → Prop
  | refused {fault : FileFault} (refused : files.createNew path = .error fault) :
      Creation files path dataSize disk
        (files, .error (.file s!"cannot create volume {path.text}" fault))
  | unsized {created : FileSystem} {location : Location} {fault : FileFault}
      (made : files.createNew path = .ok (created, location))
      (failed : resize disk location (dataSize + slotsLength).toNat = .error fault) :
      Creation files path dataSize disk
        (created, .error (.file s!"cannot size volume {path.text}" fault))
  | unsynced {created : FileSystem} {location : Location} {fault : FileFault}
      (made : files.createNew path = .ok (created, location))
      (sized : resize disk location (dataSize + slotsLength).toNat = .ok ())
      (refused : disk.refuses (.sync location) = some fault) :
      Creation files path dataSize disk
        (created.put location (.file (List.replicate (dataSize + slotsLength).toNat 0)),
          .error (.file s!"cannot sync volume {path.text}" fault))
  | filled {created : FileSystem} {location : Location}
      (made : files.createNew path = .ok (created, location))
      (sized : resize disk location (dataSize + slotsLength).toNat = .ok ())
      (synced : disk.refuses (.sync location) = none) :
      Creation files path dataSize disk
        (created.put location (.file (List.replicate (dataSize + slotsLength).toNat 0)),
          .ok ⟨path, dataSize + slotsLength⟩)

theorem creation (files : FileSystem) (path : Path) (dataSize : UInt64) (disk : Disk) :
    Creation files path dataSize disk (create files path dataSize disk) := by
  unfold create
  dsimp only
  split
  · next fault refused => exact .refused refused
  next created location made =>
  split
  · next fault failed => exact .unsized made failed
  next sized =>
  split
  · next fault refused => exact .unsynced made sized (Disk.perform_eq_error.mp refused)
  · next synced => exact .filled made sized (Disk.perform_eq_ok.mp synced)

/-- A volume that is created is a file of zeros. -/
theorem create_eq_ok {before : FileSystem} {path : Path} {dataSize : UInt64} {disk : Disk}
    (representable : dataSize.toNat + 1024 < UInt64.size)
    (created : create before path dataSize disk = (files, .ok volume)) :
    volume.path = path ∧ volume.length.toNat = dataSize.toNat + 1024 ∧
      files.read path = .ok (List.replicate (dataSize.toNat + 1024) 0) ∧
      dataSize.toNat + 1024 ≤ maxFileLength := by
  have length := toNat_length representable
  have done := creation before path dataSize disk
  rw [created] at done
  cases done with
  | filled made sized =>
      obtain ⟨possible, -⟩ := resize_eq_ok.mp sized
      rw [length] at possible
      refine ⟨rfl, length, ?_, possible⟩
      rw [← length]
      exact FileSystem.read_of_createNew made _

/-- How a volume in a file comes about: a file of a length that files can have is opened, or a new
file is created, with a length that can be counted. -/
inductive Obtained (files : FileSystem) (volume : FileVolume) : Prop where
  | opened {path : Path} {content : Bytes} (found : files.read path = .ok content)
      (possible : content.length ≤ maxFileLength) (opened : openAt files path = .ok volume)
  | created {before : FileSystem} {path : Path} {dataSize : UInt64} {disk : Disk}
      (representable : dataSize.toNat + 1024 < UInt64.size)
      (created : create before path dataSize disk = (files, .ok volume))

/-- A volume knows the length of its file, which has room for both slots. -/
theorem Obtained.exists_content (obtained : Obtained files volume) :
    ∃ content, files.read volume.path = .ok content ∧ volume.length.toNat = content.length ∧
      1024 ≤ content.length ∧ content.length ≤ maxFileLength := by
  cases obtained with
  | @opened path content found possible opened =>
      rw [openAt_of_read found] at opened
      split at opened
      · cases opened
      next room =>
      cases opened
      have fits : content.length < UInt64.size := Nat.lt_of_le_of_lt possible (by decide)
      exact ⟨content, found, UInt64.toNat_ofNat_of_lt fits, Nat.not_lt.mp room, possible⟩
  | created representable created =>
      obtain ⟨rfl, length, found, possible⟩ := create_eq_ok representable created
      refine ⟨_, found, ?_, ?_, ?_⟩
      · rw [length, List.length_replicate]
      · rw [List.length_replicate]
        exact Nat.le_add_left 1024 _
      · rwa [List.length_replicate]

theorem path_of_openAt {path : Path} (opened : openAt files path = .ok volume) :
    volume.path = path := by
  obtain ⟨length, -, opened⟩ := exists_of_bind opened
  split at opened
  · cases opened
  · cases opened
    rfl

/-- Whatever is opened has room for both slots. -/
theorem room_of_openAt (sized : files.Sized) {path : Path} (opened : openAt files path = .ok volume) :
    slotsLength ≤ volume.length := by
  obtain ⟨length, measured, opened⟩ := exists_of_bind opened
  split at opened
  · cases opened
  next room =>
  cases opened
  have possible : length ≤ maxFileLength := by
    rw [FileSystem.describe_eq_ok] at measured
    obtain ⟨location, -, measured⟩ := exists_of_bind measured
    split at measured
    · next content found =>
      cases measured
      exact sized location content found
    · cases measured
      decide
  have counted : (UInt64.ofNat length).toNat = length :=
    UInt64.toNat_ofNat_of_lt (Nat.lt_of_le_of_lt possible (by decide))
  apply UInt64.le_iff_toNat_le.mpr
  rw [counted]
  exact Nat.not_lt.mp room

/-- What is opened and has a slot that can be read has both of them. -/
theorem represents_of_openAt (sized : files.Sized) {path : Path}
    (opened : openAt files path = .ok volume) {slot : HeaderSlot} {bytes : HeaderBytes}
    (held : volume.read files slot = .ok bytes) :
    ∃ area slots, Represents volume files area slots := by
  obtain ⟨content, holds⟩ := read_eq_ok.mp held
  have found : files.read volume.path = .ok content := by
    rw [FileSystem.read, holds.resolved]
    exact FileSystem.contentAt_eq_ok.mpr holds.found
  have named := path_of_openAt opened
  have possible := sized _ content holds.found
  obtain ⟨_, foundAgain, length, room, -⟩ :=
    Obtained.exists_content (.opened (named ▸ found) possible opened)
  obtain rfl := Except.ok.inj (found.symm.trans foundAgain)
  exact ⟨_, _, represents_of_read found length room possible⟩

/-- A volume is created where nothing was, and nothing else has changed. -/
theorem create_confined {before : FileSystem} {path : Path} {dataSize : UInt64} {disk : Disk}
    (created : create before path dataSize disk = (files, .ok volume)) :
    before.get? (path.location before.working) = none ∧ Confined volume before files := by
  have done := creation before path dataSize disk
  rw [created] at done
  cases done with
  | filled made =>
      obtain ⟨names, free, rfl⟩ := FileSystem.createNew_eq made
      rw [FileSystem.put_put]
      rw [names.location_eq] at free ⊢
      exact ⟨free, rfl, fun other different => FileSystem.get?_put before different _⟩

/-- Any calls on a volume that has been opened or created answer as if its first and its last 512
bytes were two cells of a memory, none of them fails, and nothing but these bytes changes. -/
theorem refines_slots (obtained : Obtained files volume) (made : List Call) :
    ∃ content, files.read volume.path = .ok content ∧ volume.length.toNat = content.length ∧
      1024 ≤ content.length ∧
      ∃ after final,
        volume.calls files made = .ok (((Slots.ends content).calls made).1, after) ∧
        after.read volume.path = .ok final ∧
        final.length = content.length ∧
        final.slice 512 (content.length - 1024) = content.slice 512 (content.length - 1024) ∧
        Slots.ends final = ((Slots.ends content).calls made).2 ∧
        Confined volume files after := by
  obtain ⟨content, found, length, room, possible⟩ := obtained.exists_content
  have represents := represents_of_read found length room possible
  obtain ⟨after, done, kept, confined⟩ := calls_represents represents made
  have area : (content.slice 512 (content.length - 1024)).length = content.length - 1024 := by
    rw [Bytes.length_slice]
    omega
  have between := Slots.slice_around ((Slots.ends content).calls made).2
    (content.slice 512 (content.length - 1024))
  rw [area] at between
  refine ⟨content, found, length, room, after, _, done, kept.read_path, ?_, between,
    Slots.ends_around _ _, confined⟩
  rw [Slots.length_around, area]
  omega

/-- A volume without a data area, whose slots touch. -/
def touching : FileVolume := ⟨⟨"v.img"⟩, 1024⟩

def touchingFiles : FileSystem := ⟨[(["v.img"], .file (List.replicate 1024 0))], []⟩

theorem create_touching :
    create ⟨[], []⟩ ⟨"v.img"⟩ 0 .reliable = (touchingFiles, .ok touching) := rfl

theorem refines_slots_touching :
    Obtained touchingFiles touching ∧
    ∃ content, touchingFiles.read touching.path = .ok content ∧
      touching.length.toNat = content.length ∧ 1024 ≤ content.length ∧
      ∃ after final,
        touching.calls touchingFiles
            [.write .backup (Vector.replicate 512 2), .read .primary, .read .backup] =
          .ok ([none, some (Slots.ends content .primary), some (Vector.replicate 512 2)], after) ∧
        after.read touching.path = .ok final ∧
        final.length = content.length ∧
        final.slice 512 (content.length - 1024) = content.slice 512 (content.length - 1024) ∧
        Slots.ends final = (Slots.ends content).put .backup (Vector.replicate 512 2) ∧
        Confined touching touchingFiles after := by
  have representable : (0 : UInt64).toNat + 1024 < UInt64.size := by decide
  have obtained := Obtained.created representable create_touching
  refine ⟨obtained, ?_⟩
  exact refines_slots obtained
    [.write .backup (Vector.replicate 512 2), .read .primary, .read .backup]

end FileVolume

end HeaderVault
