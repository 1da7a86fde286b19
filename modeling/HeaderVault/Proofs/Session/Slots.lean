import HeaderVault.Proofs.FileVolume.Access
import HeaderVault.Session.World

/-!
The header slots as a pair of cells.

A slot that can be read can be stored to; it then holds what was stored, the other slot is as it was
and so is every file but the one of the volume (`exists_store`). The two slots of a volume in a file
are taken to be apart (`World.SlotsApart`).

`World.Elsewhere` says that nothing but the contents of header slots has changed.
-/

namespace HeaderVault

namespace World

/-- The file that holds the volume, if it is in one. -/
def place (world : World) : Option FileVolume :=
  match world.volume with
  | .memory _ _ => none
  | .file volume => some volume

/-- The slots do not overlap: a volume in a file has room for both. -/
def SlotsApart (world : World) : Prop :=
  ∀ volume ∈ world.place, FileVolume.slotsLength ≤ volume.length

/-- A place in the files that is not the volume itself. -/
def Outside (world : World) (location : Location) : Prop :=
  ∀ volume ∈ world.place, location ≠ volume.path.location world.files.working

/-- Nothing but the contents of header slots has changed. -/
structure Elsewhere (world after : World) : Prop where
  place : after.place = world.place
  backupSlot : after.hasBackupSlot = world.hasBackupSlot
  grows : FileSystem.Grows world.files after.files
  get? : ∀ location, world.Outside location → after.files.get? location = world.files.get? location

theorem Elsewhere.of_eq {world after : World} (volume : after.volume = world.volume)
    (files : after.files = world.files) : Elsewhere world after := by
  constructor
  · rw [World.place, World.place, volume]
  · rw [hasBackupSlot, hasBackupSlot, volume]
  · rw [files]
    exact (FileSystem.Keeps.refl world.files).grows
  · intro location _
    rw [files]

theorem Elsewhere.refl (world : World) : Elsewhere world world := .of_eq rfl rfl

theorem Elsewhere.outside {world after : World} (elsewhere : Elsewhere world after)
    {location : Location} (outside : world.Outside location) : after.Outside location := by
  unfold Outside at outside ⊢
  rwa [elsewhere.place, elsewhere.grows.working]

theorem Elsewhere.trans {world middle after : World} (first : Elsewhere world middle)
    (second : Elsewhere middle after) : Elsewhere world after where
  place := second.place.trans first.place
  backupSlot := second.backupSlot.trans first.backupSlot
  grows := first.grows.trans second.grows
  get? location outside :=
    (second.get? location (first.outside outside)).trans (first.get? location outside)

theorem Elsewhere.slotsApart {world after : World} (elsewhere : Elsewhere world after)
    (apart : world.SlotsApart) : after.SlotsApart := by
  unfold SlotsApart
  rwa [elsewhere.place]

/-- All slots hold what they held, and so does everything else. -/
structure Unharmed (world after : World) : Prop where
  stored : ∀ slot, after.stored slot = world.stored slot
  elsewhere : Elsewhere world after

theorem Unharmed.trans {world middle after : World} (first : Unharmed world middle)
    (second : Unharmed middle after) : Unharmed world after :=
  ⟨fun slot => (second.stored slot).trans (first.stored slot),
    first.elsewhere.trans second.elsewhere⟩

theorem Unharmed.of_eq {world after : World} (volume : after.volume = world.volume)
    (files : after.files = world.files) : Unharmed world after := by
  constructor
  · intro slot
    unfold World.stored
    rw [volume, files]
  · exact .of_eq volume files

/-- A slot has taken new bytes; the other one, and everything else, is as it was. -/
structure Stores (slot : HeaderSlot) (bytes : HeaderBytes) (world after : World) : Prop where
  stored : after.stored slot = .ok bytes
  other : ∀ other ≠ slot, after.stored other = world.stored other
  elsewhere : Elsewhere world after

namespace Stores

variable {slot : HeaderSlot} {bytes former : HeaderBytes} {world middle after : World}

theorem refl (held : world.stored slot = .ok bytes) : Stores slot bytes world world :=
  ⟨held, fun _ _ => rfl, .refl world⟩

theorem trans (first : Stores slot former world middle) (second : Stores slot bytes middle after) :
    Stores slot bytes world after where
  stored := second.stored
  other other different := (second.other other different).trans (first.other other different)
  elsewhere := first.elsewhere.trans second.elsewhere

/-- What is recorded of a run does not matter to the slots. -/
theorem of_eq (stores : Stores slot bytes world middle) (volume : after.volume = middle.volume)
    (files : after.files = middle.files) : Stores slot bytes world after := by
  have same := Unharmed.of_eq volume files
  constructor
  · exact (same.stored slot).trans stores.stored
  · intro other different
    exact (same.stored other).trans (stores.other other different)
  · exact stores.elsewhere.trans same.elsewhere

theorem of_unharmed (unharmed : Unharmed world middle) (stores : Stores slot bytes middle after) :
    Stores slot bytes world after where
  stored := stores.stored
  other other different := (stores.other other different).trans (unharmed.stored other)
  elsewhere := unharmed.elsewhere.trans stores.elsewhere

/-- With its former bytes back a slot is as it was, like the other one. -/
theorem unharmed (stores : Stores slot bytes world after) (held : world.stored slot = .ok bytes) :
    Unharmed world after := by
  constructor
  · intro other
    by_cases same : other = slot
    · rw [same, stores.stored, held]
    · exact stores.other other same
  · exact stores.elsewhere

end Stores

theorem stored_file {world : World} {volume : FileVolume} (inFile : world.volume = .file volume)
    (slot : HeaderSlot) : world.stored slot = volume.read world.files slot := by
  unfold stored
  rw [inFile]

theorem store_file {world : World} {volume : FileVolume} (inFile : world.volume = .file volume)
    (slot : HeaderSlot) (bytes : HeaderBytes) :
    world.store slot bytes = (volume.write world.files slot bytes).map
      fun files => { world with files := files } := by
  simp only [store, inFile]
  cases volume.write world.files slot bytes <;> rfl

/-- Whatever is stored, nothing but the contents of the slots changes. -/
theorem store_elsewhere {world after : World} {slot : HeaderSlot} {bytes : HeaderBytes}
    (ok : world.store slot bytes = .ok after) :
    Elsewhere world after ∧ after.history = world.history := by
  cases kind : world.volume with
  | memory primary backup =>
      unfold store at ok
      rw [kind] at ok
      have memory : ∀ primary' backup', backup'.isSome = backup.isSome →
          Elsewhere world { world with volume := .memory primary' backup' } := by
        intro primary' backup' same
        refine ⟨?_, ?_, (FileSystem.Keeps.refl world.files).grows, fun _ _ => rfl⟩
        · simp [place, kind]
        · simpa [hasBackupSlot, kind] using same
      cases slot <;> cases backup <;> cases ok
      · exact ⟨memory _ _ rfl, rfl⟩
      · exact ⟨memory _ _ rfl, rfl⟩
      · exact ⟨memory _ _ rfl, rfl⟩
  | file volume =>
      rw [store_file kind] at ok
      cases written : volume.write world.files slot bytes with
      | error error => rw [written] at ok; cases ok
      | ok files =>
          rw [written] at ok
          cases ok
          obtain ⟨content, found, rfl⟩ := FileVolume.write_eq_ok written
          have here : world.place = some volume := by rw [place, kind]
          refine ⟨⟨rfl, rfl, (FileVolume.written_replaces found slot bytes).grows, ?_⟩, rfl⟩
          intro other outside
          exact FileSystem.get?_put _ (outside volume here) _

/-- A slot that can be read takes new bytes. -/
theorem exists_store {world : World} {slot : HeaderSlot} {old : HeaderBytes}
    (apart : world.SlotsApart) (held : world.stored slot = .ok old) (bytes : HeaderBytes) :
    ∃ after, world.store slot bytes = .ok after ∧ Stores slot bytes world after := by
  cases kind : world.volume with
  | memory primary backup =>
      have done : ∀ after, world.store slot bytes = .ok after → after.stored slot = .ok bytes →
          (∀ other ≠ slot, after.stored other = world.stored other) →
          ∃ after, world.store slot bytes = .ok after ∧ Stores slot bytes world after :=
        fun after ok stored other =>
          ⟨after, ok, stored, other, (store_elsewhere ok).1⟩
      cases slot with
      | primary =>
          refine done { world with volume := .memory bytes backup } ?_ rfl ?_
          · simp only [store, kind]
          · intro other different
            cases other with
            | primary => exact absurd rfl different
            | backup => cases backup <;> simp [stored, kind]
      | backup =>
          cases backup with
          | none => simp [stored, kind] at held
          | some backup =>
              refine done { world with volume := .memory primary (some bytes) } ?_ rfl ?_
              · simp only [store, kind]
              · intro other different
                cases other with
                | primary => simp [stored, kind]
                | backup => exact absurd rfl different
  | file volume =>
      rw [stored_file kind] at held
      obtain ⟨content, holds⟩ := FileVolume.read_eq_ok.mp held
      have ok : world.store slot bytes =
          .ok { world with files := volume.written world.files slot content bytes } := by
        rw [store_file kind, FileVolume.write_of_holds holds bytes]
        rfl
      have room := apart volume (by rw [place, kind]; rfl)
      refine ⟨_, ok, ?_, ?_, (store_elsewhere ok).1⟩
      · rw [stored_file (by exact kind)]
        exact FileVolume.read_written holds bytes
      · intro other different
        rw [stored_file kind, stored_file (by exact kind)]
        exact FileVolume.read_written_other room different holds bytes

end World

end HeaderVault
