import HeaderVault.Proofs.FileVolume.Refinement

/-!
When a volume that is created is what was asked for.

Creating a volume ends in one of four ways (`FileVolume.Creation`): no file is created, an empty file
is created and is not given its length, a file of zeros is not written out, or there is a file of
zeros. All else stays as it is. The length is a sum of words, so that only a size whose sum with the
slots is a length that files can have leads to what was asked for, and only where the disk refuses
nothing. Otherwise the file stays behind, or it has no room for its slots
(`FileVolume.create_sound_iff`).
-/

namespace HeaderVault.FileVolume

/-- What is asked for: either nothing has changed, or there is a new file of zeros, with the two
slots apart and room for the data between them. -/
inductive Sound (files : FileSystem) (path : Path) (dataSize : UInt64) :
    FileSystem × Except Error FileVolume → Prop
  | failed {error : Error} : Sound files path dataSize (files, .error error)
  | created {after : FileSystem} {volume : FileVolume} (named : volume.path = path)
      (confined : Confined volume files after)
      (content : after.read path = .ok (List.replicate (dataSize.toNat + 1024) 0))
      (length : volume.length.toNat = dataSize.toNat + 1024)
      (size : volume.dataSize = dataSize)
      (first : volume.offset .primary = 0)
      (apart : 512 ≤ (volume.offset .backup).toNat)
      (last : (volume.offset .backup).toNat + 512 = volume.length.toNat) :
      Sound files path dataSize (after, .ok volume)

/-- The length of a volume is one that files can have, and the disk gives it to a file and writes the
file out. -/
structure Granted (disk : Disk) (file : Location) (dataSize : UInt64) : Prop where
  possible : dataSize.toNat + 1024 ≤ maxFileLength
  sized : disk.refuses (.resize file (dataSize.toNat + 1024)) = none
  synced : disk.refuses (.sync file) = none

variable {files : FileSystem} {path : Path} {dataSize : UInt64} {disk : Disk}

/-- Whatever the end, all that was there is still there. -/
theorem Creation.keeps {made : FileSystem × Except Error FileVolume}
    (creation : Creation files path dataSize disk made) : files.Keeps made.1 := by
  have put : ∀ {created : FileSystem} {location : Location},
      files.createNew path = .ok (created, location) →
        ∀ content, files.Keeps (created.put location (.file content)) := by
    intro created location made content
    obtain ⟨-, free, rfl⟩ := FileSystem.createNew_eq made
    rw [FileSystem.put_put]
    exact FileSystem.put_keeps free _
  cases creation with
  | refused => exact .refl files
  | unsized made =>
      obtain ⟨-, free, rfl⟩ := FileSystem.createNew_eq made
      exact FileSystem.put_keeps free _
  | unsynced made => exact put made _
  | filled made => exact put made _

/-- A sum that does not fit its word is what is left of it. -/
theorem toNat_length_of_overflow (overflow : UInt64.size ≤ dataSize.toNat + 1024) :
    (dataSize + slotsLength).toNat = dataSize.toNat + 1024 - UInt64.size := by
  have small := dataSize.toNat_lt_size
  have slots : slotsLength.toNat = 1024 := rfl
  have size : UInt64.size = 2 ^ 64 := rfl
  rw [UInt64.toNat_add, slots]
  omega

theorem Granted.toNat_length {file : Location} (granted : Granted disk file dataSize) :
    (dataSize + slotsLength).toNat = dataSize.toNat + 1024 :=
  FileVolume.toNat_length (Nat.lt_of_le_of_lt granted.possible (by decide))

theorem Granted.resize_eq_ok {file : Location} (granted : Granted disk file dataSize) :
    resize disk file (dataSize + slotsLength).toNat = .ok () := by
  rw [FileVolume.resize_eq_ok, granted.toNat_length]
  exact ⟨granted.possible, granted.sized⟩

/-- A volume of a possible length has its slots apart, at the ends of its file. -/
theorem sound_of_granted {created : FileSystem} {location : Location}
    (made : files.createNew path = .ok (created, location))
    (granted : Granted disk location dataSize) :
    Sound files path dataSize
      (created.put location (.file (List.replicate (dataSize + slotsLength).toNat 0)),
        .ok ⟨path, dataSize + slotsLength⟩) := by
  have length := granted.toNat_length
  have room : slotsLength ≤ dataSize + slotsLength := by
    apply UInt64.le_iff_toNat_le.mpr
    rw [length]
    exact Nat.le_add_left 1024 _
  have back : (FileVolume.offset ⟨path, dataSize + slotsLength⟩ .backup).toNat =
      (dataSize + slotsLength).toNat - 512 := toNat_offset_backup room
  have done : create files path dataSize disk =
      (created.put location (.file (List.replicate (dataSize + slotsLength).toNat 0)),
        .ok ⟨path, dataSize + slotsLength⟩) := by
    simp only [create, made, granted.resize_eq_ok, Disk.perform_eq_ok.mpr granted.synced]
  refine .created rfl (create_confined done).2 ?_ length (UInt64.add_sub_cancel _ _) rfl ?_ ?_
  · rw [length]
    exact FileSystem.read_of_createNew made _
  · rw [back, length]
    omega
  · dsimp only
    rw [back, length]
    omega

theorem Sound.eq_of_error {after : FileSystem} {error : Error}
    (sound : Sound files path dataSize (after, .error error)) : after = files := by
  cases sound
  rfl

theorem Sound.length_of_ok {after : FileSystem} {volume : FileVolume}
    (sound : Sound files path dataSize (after, .ok volume)) :
    volume.length.toNat = dataSize.toNat + 1024 := by
  cases sound
  assumption

/-- Where a file was created something has changed, whatever the file holds. -/
theorem createNew_ne {created : FileSystem} {location : Location}
    (made : files.createNew path = .ok (created, location)) :
    created ≠ files ∧ ∀ content, created.put location (.file content) ≠ files := by
  obtain ⟨names, free, rfl⟩ := FileSystem.createNew_eq made
  have put : ∀ content, files.put location (.file content) ≠ files := by
    intro content same
    rw [← same, FileSystem.get?_put_self _ names.ne_nil] at free
    cases free
  refine ⟨put [], fun content => ?_⟩
  rw [FileSystem.put_put]
  exact put content

/-- What is asked for comes about where no file can be created, and where everything is granted. -/
theorem sound_iff :
    Sound files path dataSize (create files path dataSize disk) ↔
      Granted disk (path.location files.working) dataSize ∨
        ∃ fault, files.createNew path = .error fault := by
  -- once a file is created what is asked for is a matter of what the disk grants
  have decided : ∀ {created : FileSystem} {location : Location}
      {result : FileSystem × Except Error FileVolume},
      files.createNew path = .ok (created, location) →
        (Sound files path dataSize result ↔ Granted disk location dataSize) →
          (Sound files path dataSize result ↔
            Granted disk (path.location files.working) dataSize ∨
              ∃ fault, files.createNew path = .error fault) := by
    intro created location result made iff
    rw [iff, ← (FileSystem.createNew_eq made).1.location_eq, made]
    simp
  have done := creation files path dataSize disk
  generalize create files path dataSize disk = result at done
  cases done with
  | refused refused => exact ⟨fun _ => .inr ⟨_, refused⟩, fun _ => .failed⟩
  | unsized made failed =>
      refine decided made ⟨fun sound => absurd sound.eq_of_error (createNew_ne made).1, ?_⟩
      intro granted
      rw [granted.resize_eq_ok] at failed
      cases failed
  | unsynced made _ refused =>
      refine decided made ⟨fun sound => absurd sound.eq_of_error ((createNew_ne made).2 _), ?_⟩
      intro granted
      rw [granted.synced] at refused
      cases refused
  | filled made sized synced =>
      refine decided made ⟨fun sound => ?_, sound_of_granted made⟩
      have length : (dataSize + slotsLength).toNat = dataSize.toNat + 1024 := sound.length_of_ok
      rw [resize_eq_ok, length] at sized
      exact ⟨sized.1, sized.2, synced⟩

/-- What comes out otherwise: an empty file that was not given its length, a file of zeros that was
not written out, or a volume whose file is as long as what is left of a sum that does not fit its
word. -/
inductive Unsound (files : FileSystem) (path : Path) (dataSize : UInt64) (disk : Disk) :
    FileSystem × Except Error FileVolume → Prop
  | unsized {after : FileSystem} {fault : FileFault}
      (failed : resize disk (path.location files.working) (dataSize + slotsLength).toNat =
        .error fault) (content : after.read path = .ok []) :
      Unsound files path dataSize disk
        (after, .error (.file s!"cannot size volume {path.text}" fault))
  | unsynced {after : FileSystem} {fault : FileFault}
      (refused : disk.refuses (.sync (path.location files.working)) = some fault)
      (content : after.read path = .ok (List.replicate (dataSize + slotsLength).toNat 0)) :
      Unsound files path dataSize disk
        (after, .error (.file s!"cannot sync volume {path.text}" fault))
  | tooShort {after : FileSystem} {volume : FileVolume}
      (content : after.read path = .ok (List.replicate volume.length.toNat 0))
      (length : volume.length.toNat + UInt64.size = dataSize.toNat + 1024)
      (short : volume.length.toNat < 1024) :
      Unsound files path dataSize disk (after, .ok volume)

theorem unsound_of_not_sound
    (unsound : ¬Sound files path dataSize (create files path dataSize disk)) :
    Unsound files path dataSize disk (create files path dataSize disk) := by
  have done := creation files path dataSize disk
  generalize create files path dataSize disk = result at done unsound
  cases done with
  | refused => exact absurd .failed unsound
  | unsized made failed =>
      obtain ⟨names, -, rfl⟩ := FileSystem.createNew_eq made
      rw [names.location_eq] at failed made ⊢
      have read := FileSystem.read_of_createNew made []
      rw [FileSystem.put_put] at read
      exact .unsized failed read
  | unsynced made _ refused =>
      have names := (FileSystem.createNew_eq made).1
      exact .unsynced (names.location_eq ▸ refused) (FileSystem.read_of_createNew made _)
  | filled made sized synced =>
      -- a sum that fits its word is the length of a sound volume
      have overflow : UInt64.size ≤ dataSize.toNat + 1024 := by
        refine Nat.le_of_not_lt fun fits => ?_
        rw [resize_eq_ok, toNat_length fits] at sized
        have granted : Granted disk _ dataSize := ⟨sized.1, sized.2, synced⟩
        exact unsound (sound_of_granted made granted)
      have length := toNat_length_of_overflow overflow
      have small := dataSize.toNat_lt_size
      refine .tooShort (FileSystem.read_of_createNew made _) ?_ ?_
      · dsimp only
        omega
      · dsimp only
        omega

/-- All that was there is still there after a volume was created, whatever its size and whatever the
disk refuses. It is what was asked for, or nothing has changed, exactly when no file can be created at
its path, or the size with the slots is a length that files can have and the disk refuses neither to
give it to the file nor to write the file out. Otherwise the file is left behind with an error, or the
volume has a file without room for its slots. -/
theorem create_sound_iff (files : FileSystem) (path : Path) (dataSize : UInt64) (disk : Disk) :
    files.Keeps (create files path dataSize disk).1 ∧
      (Sound files path dataSize (create files path dataSize disk) ↔
        Granted disk (path.location files.working) dataSize ∨
          ∃ fault, files.createNew path = .error fault) ∧
      (¬Sound files path dataSize (create files path dataSize disk) →
        Unsound files path dataSize disk (create files path dataSize disk)) :=
  ⟨(creation files path dataSize disk).keeps, sound_iff, unsound_of_not_sound⟩

/-- A disk need not give a file a length that files can have. -/
example : create ⟨[], []⟩ ⟨"v.img"⟩ 4611686018427387904 ⟨fun _ => some .tooLarge, fun _ _ => 0⟩ =
    (⟨[(["v.img"], .file [])], []⟩, .error (.file "cannot size volume v.img" .tooLarge)) := rfl

/-- On a disk that refuses nothing, a size that files cannot have leaves an empty file behind, and the
largest size of all makes a volume of 1023 bytes, whose slots overlap. -/
theorem create_unsound :
    create ⟨[], []⟩ ⟨"v.img"⟩ 9223372036854775808 .reliable =
        (⟨[(["v.img"], .file [])], []⟩, .error (.file "cannot size volume v.img" .sizeRange)) ∧
      ¬Sound ⟨[], []⟩ ⟨"v.img"⟩ 9223372036854775808
        (create ⟨[], []⟩ ⟨"v.img"⟩ 9223372036854775808 .reliable) ∧
      create ⟨[], []⟩ ⟨"v.img"⟩ 18446744073709551615 .reliable =
        (⟨[(["v.img"], .file (List.replicate 1023 0))], []⟩, .ok ⟨⟨"v.img"⟩, 1023⟩) ∧
      ¬Sound ⟨[], []⟩ ⟨"v.img"⟩ 18446744073709551615
        (create ⟨[], []⟩ ⟨"v.img"⟩ 18446744073709551615 .reliable) := by
  have unsized : create ⟨[], []⟩ ⟨"v.img"⟩ 9223372036854775808 .reliable =
      (⟨[(["v.img"], .file [])], []⟩, .error (.file "cannot size volume v.img" .sizeRange)) := rfl
  have short : create ⟨[], []⟩ ⟨"v.img"⟩ 18446744073709551615 .reliable =
      (⟨[(["v.img"], .file (List.replicate 1023 0))], []⟩, .ok ⟨⟨"v.img"⟩, 1023⟩) := rfl
  refine ⟨unsized, ?_, short, ?_⟩
  · rw [unsized]
    intro sound
    cases sound.eq_of_error
  · rw [short]
    intro sound
    exact absurd sound.length_of_ok (by decide)

/-! ### Volumes that are not created -/

/-- What is in the file of a volume that the disk did not take. -/
inductive Uncreated (disk : Disk) (file : Location) (dataSize : UInt64) : Bytes → Prop
  | unsized {fault : FileFault}
      (refused : disk.refuses (.resize file (dataSize.toNat + 1024)) = some fault) :
      Uncreated disk file dataSize []
  | unsynced {fault : FileFault} (refused : disk.refuses (.sync file) = some fault) :
      Uncreated disk file dataSize (List.replicate (dataSize.toNat + 1024) 0)

/-- Where a volume of a possible length is not created nothing has changed, or its file is there, as
far as the disk took it. -/
theorem create_eq_error {after : FileSystem} {error : Error}
    (possible : dataSize.toNat + 1024 ≤ maxFileLength)
    (failed : create files path dataSize disk = (after, .error error)) :
    after = files ∨ ∃ content, Uncreated disk (path.location files.working) dataSize content ∧
      files.AddsFile (path.location files.working) content after := by
  have length := toNat_length (Nat.lt_of_le_of_lt possible (by decide))
  have done := creation files path dataSize disk
  rw [failed] at done
  cases done with
  | refused => exact .inl rfl
  | unsized made unsized =>
      obtain ⟨names, free, rfl⟩ := FileSystem.createNew_eq made
      have adds := (FileSystem.AddsDirectories.refl files).addsFile free names.ne_nil []
      rw [names.location_eq] at unsized adds ⊢
      unfold resize at unsized
      rw [length, if_neg (Nat.not_lt.mpr possible)] at unsized
      exact .inr ⟨[], .unsized (Disk.perform_eq_error.mp unsized), adds⟩
  | unsynced made _ refused =>
      obtain ⟨names, free, rfl⟩ := FileSystem.createNew_eq made
      have adds := (FileSystem.AddsDirectories.refl files).addsFile free names.ne_nil
        (List.replicate (dataSize.toNat + 1024) 0)
      rw [names.location_eq] at refused adds ⊢
      rw [length, FileSystem.put_put]
      exact .inr ⟨_, .unsynced refused, adds⟩

end HeaderVault.FileVolume
