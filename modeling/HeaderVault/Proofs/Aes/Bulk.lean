import HeaderVault.Proofs.Aes.Buffers

/-!
Buffers that are passed through the block cipher in place.

`AesBackend.bulk` checks the schedule, then the length, and then overwrites one block after another.
What it leaves is what the cipher gives for the buffer as a whole (`runOn_bulk_eq_inPlace`), so that
it changes nothing when it refuses, and treats every block on its own. As each round can be undone
whatever the round keys are (`encryptBlock_injective`, `decryptBlock_injective`), no schedule maps
two buffers to the same result (`bulk_exact`).
-/

namespace HeaderVault

/-- Work on a buffer in place. What it has done before it stops with an error stays done. -/
abbrev BufferWork := ExceptT Error (StateM Bytes)

/-- How work on a buffer ends, and what the buffer holds then. -/
def BufferWork.runOn (work : BufferWork Unit) (buffer : Bytes) : Except Error Unit × Bytes :=
  work.run.run buffer

namespace Aes

/-- Overwrites the block at a place. -/
def Block.overwrite (f : Block → Block) (buffer : Bytes) (place : Nat) : Bytes :=
  buffer.take (16 * place) ++ (f (blockAt buffer place)).toBytes ++ buffer.drop (16 * (place + 1))

end Aes

/-- Overwrites a number of blocks in their order. -/
def BufferWork.overwriteBlocks (f : Aes.Block → Aes.Block) (count : Nat) : BufferWork Unit :=
  (List.range count).forM fun place => modify (Aes.Block.overwrite f · place)

namespace AesBackend

open Aes (Schedule Block)

/-- What an implementation does to one block. -/
def block : AesBackend → Direction → Schedule → Block → Block
  | .software, .encrypt => Schedule.encryptBlock
  | .software, .decrypt => Schedule.decryptBlock
  | .instructions, .encrypt => Aes.Instructions.encryptBlock
  | .instructions, .decrypt => Aes.Instructions.decryptBlock

/-- What an implementation makes of a whole buffer. -/
def bytes (backend : AesBackend) : Direction → Schedule → Bytes → Except Error Bytes
  | .encrypt => backend.encryptBytes
  | .decrypt => backend.decryptBytes

/-- Passes a buffer through the cipher, one block after another. -/
def bulk (backend : AesBackend) (wanted : Direction) (schedule : Schedule) : BufferWork Unit := do
  let buffer ← get
  MonadExcept.ofExcept (schedule.require wanted buffer.length)
  BufferWork.overwriteBlocks (backend.block wanted schedule) (buffer.length / 16)

end AesBackend

namespace Aes

/-! ### Block after block -/

namespace Block

theorem join_append (front back : List Block) : join (front ++ back) = join front ++ join back :=
  List.flatMap_append

theorem drop_join (blocks : List Block) (count : Nat) :
    (join blocks).drop (16 * count) = join (blocks.drop count) := by
  have whole : join (blocks.take count) ++ (join blocks).drop (16 * count) =
      join (blocks.take count) ++ join (blocks.drop count) := by
    rw [← join_append, List.take_append_drop, ← take_join, List.take_append_drop]
  exact List.append_cancel_left whole

theorem overwrite_join (f : Block → Block) (front : List Block) (block : Block)
    (back : List Block) {place : Nat} (here : front.length = place) :
    overwrite f (join (front ++ block :: back)) place = join (front ++ f block :: back) := by
  have found : (front ++ block :: back)[place]? = some block := by simp [← here]
  have front' : (front ++ block :: back).take place = front := List.take_left' here
  have back' : (front ++ block :: back).drop (place + 1) = back := by simp [← here]
  rw [overwrite, blockAt_join found, take_join, drop_join, front', back', join_append, join_cons,
    List.append_assoc]

/-- The blocks behind those that are done are overwritten in a row. -/
theorem foldl_overwrite_range' (f : Block → Block) (done blocks : List Block) :
    (List.range' done.length blocks.length).foldl (overwrite f) (join (done ++ blocks)) =
      join (done ++ blocks.map f) := by
  induction blocks generalizing done with
  | nil => rfl
  | cons block rest ih =>
      have next := ih (done ++ [f block])
      rw [List.length_append, List.append_assoc, List.append_assoc] at next
      rw [List.length_cons, List.range'_succ, List.foldl_cons, overwrite_join f done block rest rfl]
      exact next

theorem foldl_overwrite (f : Block → Block) (blocks : List Block) :
    (List.range blocks.length).foldl (overwrite f) (join blocks) = join (blocks.map f) := by
  rw [List.range_eq_range']
  exact foldl_overwrite_range' f [] blocks

end Block

end Aes

theorem BufferWork.runOn_overwriteBlocks (f : Aes.Block → Aes.Block) (count : Nat)
    (buffer : Bytes) :
    (overwriteBlocks f count).runOn buffer =
      (.ok (), (List.range count).foldl (Aes.Block.overwrite f) buffer) := by
  unfold overwriteBlocks
  generalize List.range count = places
  induction places generalizing buffer with
  | nil => rfl
  | cons place rest ih => exact ih (Aes.Block.overwrite f buffer place)

namespace Aes

/-! ### Rounds can be undone -/

namespace Block

theorem xor_injective (key : Block) : Function.Injective (xor · key) :=
  Function.LeftInverse.injective (g := (xor · key)) fun s => xor_cancel s key

theorem substituteBytes_injective : Function.Injective substituteBytes :=
  Function.LeftInverse.injective unsubstituteBytes_substituteBytes

theorem unsubstituteBytes_injective : Function.Injective unsubstituteBytes :=
  Function.LeftInverse.injective substituteBytes_unsubstituteBytes

theorem shiftRows_injective : Function.Injective shiftRows :=
  Function.LeftInverse.injective unshiftRows_shiftRows

theorem unshiftRows_injective : Function.Injective unshiftRows :=
  Function.LeftInverse.injective shiftRows_unshiftRows

theorem mixColumns_injective : Function.Injective mixColumns :=
  Function.LeftInverse.injective unmixColumns_mixColumns

theorem unmixColumns_injective : Function.Injective unmixColumns :=
  Function.LeftInverse.injective mixColumns_unmixColumns

theorem join_injective : Function.Injective join := Function.LeftInverse.injective split_join

end Block

namespace Schedule

theorem require_eq_ok_iff {schedule : Schedule} {wanted : Direction} {length : Nat} :
    schedule.require wanted length = .ok () ↔ schedule.direction = wanted ∧ length % 16 = 0 := by
  unfold require
  split
  · next other => simp [other]
  · next fits => split <;> simp_all

/-- The direction is checked before the length. -/
theorem eq_of_require_eq_error {schedule : Schedule} {wanted : Direction} {length : Nat}
    {error : Error} (refused : schedule.require wanted length = .error error) :
    error = if schedule.direction = wanted then .invalidLength length
      else .corruptSchedule (.direction schedule.direction wanted) := by
  unfold require at refused
  split at refused
  · next other => rw [if_neg other, ← Except.error.inj refused]
  · next fits =>
    rw [if_pos (Decidable.of_not_not fits)]
    split at refused
    · exact (Except.error.inj refused).symm
    · cases refused

theorem encryptRound_injective (key : Block) : Function.Injective (encryptRound · key) :=
  (Block.xor_injective key).comp (Block.mixColumns_injective.comp
    (Block.shiftRows_injective.comp Block.substituteBytes_injective))

theorem decryptRound_injective (key : Block) : Function.Injective (decryptRound · key) :=
  (Block.xor_injective key).comp (Block.unmixColumns_injective.comp
    (Block.unsubstituteBytes_injective.comp Block.unshiftRows_injective))

/-- Rounds in a row lose nothing if no round does. -/
theorem foldl_injective {round : Block → Block → Block}
    (each : ∀ key, Function.Injective (round · key)) (keys : List Block) :
    Function.Injective (keys.foldl round) := by
  induction keys with
  | nil => exact Function.injective_id
  | cons key rest ih => exact ih.comp (each key)

theorem encryptBlock_injective (schedule : Schedule) : Function.Injective schedule.encryptBlock :=
  (Block.xor_injective _).comp (Block.shiftRows_injective.comp (Block.substituteBytes_injective.comp
    ((foldl_injective encryptRound_injective _).comp (Block.xor_injective _))))

theorem decryptBlock_injective (schedule : Schedule) : Function.Injective schedule.decryptBlock :=
  (Block.xor_injective _).comp (Block.unsubstituteBytes_injective.comp
    (Block.unshiftRows_injective.comp
      ((foldl_injective decryptRound_injective _).comp (Block.xor_injective _))))

end Schedule

end Aes

namespace AesBackend

open Aes (Schedule Block)

variable {backend : AesBackend} {wanted : Direction} {schedule : Schedule}

theorem block_eq (backend : AesBackend) (wanted : Direction) (schedule : Schedule) :
    backend.block wanted schedule = software.block wanted schedule := by
  cases backend <;> cases wanted
  · rfl
  · rfl
  · exact Aes.Instructions.encryptBlock_eq schedule
  · exact Aes.Instructions.decryptBlock_eq schedule

theorem block_injective (backend : AesBackend) (wanted : Direction) (schedule : Schedule) :
    Function.Injective (backend.block wanted schedule) := by
  rw [block_eq]
  cases wanted with
  | encrypt => exact schedule.encryptBlock_injective
  | decrypt => exact schedule.decryptBlock_injective

/-! ### Buffers -/

theorem bytes_of_error {buffer : Bytes} {error : Error}
    (refused : schedule.require wanted buffer.length = .error error) :
    backend.bytes wanted schedule buffer = .error error := by
  cases wanted with
  | encrypt =>
      rw [bytes, encryptBytes_eq, Schedule.encryptBytes, refused]
      rfl
  | decrypt =>
      rw [bytes, decryptBytes_eq, Schedule.decryptBytes, refused]
      rfl

theorem bytes_join (fits : schedule.direction = wanted) (blocks : List Block) :
    backend.bytes wanted schedule (Block.join blocks) =
      .ok (Block.join (blocks.map (backend.block wanted schedule))) := by
  rw [block_eq]
  cases wanted with
  | encrypt => exact (encryptBytes_eq _ _ _).trans (Schedule.encryptBytes_join fits blocks)
  | decrypt => exact (decryptBytes_eq _ _ _).trans (Schedule.decryptBytes_join fits blocks)

theorem runOn_bulk (buffer : Bytes) :
    (backend.bulk wanted schedule).runOn buffer = BufferWork.runOn (do
      MonadExcept.ofExcept (schedule.require wanted buffer.length)
      BufferWork.overwriteBlocks (backend.block wanted schedule) (buffer.length / 16)) buffer := rfl

/-- Refused work leaves the buffer as it was. -/
theorem runOn_bulk_of_error {buffer : Bytes} {error : Error}
    (refused : schedule.require wanted buffer.length = .error error) :
    (backend.bulk wanted schedule).runOn buffer = (.error error, buffer) := by
  rw [runOn_bulk, refused]
  rfl

/-- Every block becomes what the cipher makes of it. -/
theorem runOn_bulk_join (fits : schedule.direction = wanted) (blocks : List Block) :
    (backend.bulk wanted schedule).runOn (Block.join blocks) =
      (.ok (), Block.join (blocks.map (backend.block wanted schedule))) := by
  have count : (Block.join blocks).length / 16 = blocks.length := by
    rw [Block.length_join]
    omega
  rw [runOn_bulk, Schedule.require_join fits, count, ← Block.foldl_overwrite]
  exact BufferWork.runOn_overwriteBlocks _ _ _

/-- Work that is not refused was done on whole blocks. -/
theorem blocks_of_runOn_bulk {buffer after : Bytes}
    (done : (backend.bulk wanted schedule).runOn buffer = (.ok (), after)) :
    schedule.direction = wanted ∧ ∃ blocks, Block.join blocks = buffer ∧
      Block.join (blocks.map (backend.block wanted schedule)) = after := by
  cases required : schedule.require wanted buffer.length with
  | error error =>
      rw [runOn_bulk_of_error required] at done
      cases done
  | ok _ =>
      obtain ⟨fits, whole⟩ := Schedule.require_eq_ok_iff.mp required
      obtain ⟨blocks, rfl⟩ := Block.exists_join whole
      rw [runOn_bulk_join fits] at done
      exact ⟨fits, blocks, rfl, congrArg Prod.snd done⟩

/-- What a buffer holds after work in place is what the cipher makes of it as a whole. -/
theorem runOn_bulk_eq_inPlace (buffer : Bytes) :
    (backend.bulk wanted schedule).runOn buffer =
      (inPlace (backend.bytes wanted schedule) buffer).swap := by
  cases required : schedule.require wanted buffer.length with
  | error error =>
      rw [runOn_bulk_of_error required, inPlace_of_error (bytes_of_error required)]
      rfl
  | ok _ =>
      obtain ⟨fits, whole⟩ := Schedule.require_eq_ok_iff.mp required
      obtain ⟨blocks, rfl⟩ := Block.exists_join whole
      rw [runOn_bulk_join fits, inPlace_of_ok (bytes_join fits blocks)]
      rfl

theorem exists_runOn_bulk_iff (buffer : Bytes) :
    (∃ after, (backend.bulk wanted schedule).runOn buffer = (.ok (), after)) ↔
      schedule.direction = wanted ∧ buffer.length % 16 = 0 := by
  constructor
  · rintro ⟨after, done⟩
    obtain ⟨fits, blocks, rfl, -⟩ := blocks_of_runOn_bulk done
    exact ⟨fits, by rw [Block.length_join, Nat.mul_mod_right]⟩
  · rintro ⟨fits, whole⟩
    obtain ⟨blocks, rfl⟩ := Block.exists_join whole
    exact ⟨_, runOn_bulk_join fits blocks⟩

theorem eq_of_runOn_bulk_error {buffer after : Bytes} {error : Error}
    (stopped : (backend.bulk wanted schedule).runOn buffer = (.error error, after)) :
    after = buffer ∧ error = if schedule.direction = wanted then .invalidLength buffer.length
      else .corruptSchedule (.direction schedule.direction wanted) := by
  cases required : schedule.require wanted buffer.length with
  | error found =>
      rw [runOn_bulk_of_error required] at stopped
      cases stopped
      exact ⟨rfl, Schedule.eq_of_require_eq_error required⟩
  | ok _ =>
      have succeeds : ∃ after, (backend.bulk wanted schedule).runOn buffer = (.ok (), after) :=
        (exists_runOn_bulk_iff buffer).mpr (Schedule.require_eq_ok_iff.mp required)
      obtain ⟨after, done⟩ := succeeds
      rw [done] at stopped
      cases stopped

theorem runOn_bulk_append {left right left' right' : Bytes}
    (done : (backend.bulk wanted schedule).runOn left = (.ok (), left'))
    (done' : (backend.bulk wanted schedule).runOn right = (.ok (), right')) :
    (backend.bulk wanted schedule).runOn (left ++ right) = (.ok (), left' ++ right') := by
  obtain ⟨fits, front, rfl, rfl⟩ := blocks_of_runOn_bulk done
  obtain ⟨-, back, rfl, rfl⟩ := blocks_of_runOn_bulk done'
  rw [← Block.join_append, runOn_bulk_join fits, List.map_append, Block.join_append]

/-- A block becomes what it becomes on its own. -/
theorem runOn_bulk_slice {buffer after : Bytes} {place : Nat}
    (done : (backend.bulk wanted schedule).runOn buffer = (.ok (), after))
    (inside : 16 * place < buffer.length) :
    (backend.bulk wanted schedule).runOn (buffer.slice (16 * place) 16) =
        (.ok (), after.slice (16 * place) 16) ∧
      Block.blockAt after place = backend.block wanted schedule (Block.blockAt buffer place) := by
  obtain ⟨fits, blocks, rfl, rfl⟩ := blocks_of_runOn_bulk done
  have inside : place < blocks.length := by
    rw [Block.length_join] at inside
    omega
  obtain ⟨block, found⟩ : ∃ block, blocks[place]? = some block :=
    ⟨_, List.getElem?_eq_getElem inside⟩
  have found' : (blocks.map (backend.block wanted schedule))[place]? =
      some (backend.block wanted schedule block) := by
    rw [List.getElem?_map, found]
    rfl
  have single : ∀ s : Block, s.toBytes = Block.join [s] := fun _ => (List.append_nil _).symm
  constructor
  · rw [Block.slice_join found, Block.slice_join found', single, single]
    exact runOn_bulk_join fits [block]
  · rw [Block.blockAt_join found, Block.blockAt_join found']

/-- Different buffers become different ones. -/
theorem eq_of_runOn_bulk_eq {buffer other after : Bytes}
    (done : (backend.bulk wanted schedule).runOn buffer = (.ok (), after))
    (done' : (backend.bulk wanted schedule).runOn other = (.ok (), after)) : buffer = other := by
  obtain ⟨-, blocks, rfl, rfl⟩ := blocks_of_runOn_bulk done
  obtain ⟨-, blocks', rfl, same⟩ := blocks_of_runOn_bulk done'
  have kept : ∀ s t, backend.block wanted schedule s = backend.block wanted schedule t → s = t :=
    fun _ _ same => block_injective backend wanted schedule same
  rw [(List.map_inj_right kept).mp (Block.join_injective same)]

/-- A buffer is passed through the cipher when the schedule is for the direction and there are whole
blocks only. Else it stays as it is, and a schedule for the other direction is reported before the
length is. Buffers in a row become what each of them becomes, a block what it becomes alone, which
is what the block cipher makes of it, and different buffers become different ones. So it is for
every schedule, whatever its round keys are. -/
theorem bulk_exact (backend : AesBackend) (wanted : Direction) (schedule : Schedule) :
    (∀ buffer, (∃ after, (backend.bulk wanted schedule).runOn buffer = (.ok (), after)) ↔
      schedule.direction = wanted ∧ buffer.length % 16 = 0) ∧
    (∀ buffer error after, (backend.bulk wanted schedule).runOn buffer = (.error error, after) →
      after = buffer ∧ error = if schedule.direction = wanted then .invalidLength buffer.length
        else .corruptSchedule (.direction schedule.direction wanted)) ∧
    (∀ left right left' right',
      (backend.bulk wanted schedule).runOn left = (.ok (), left') →
        (backend.bulk wanted schedule).runOn right = (.ok (), right') →
          (backend.bulk wanted schedule).runOn (left ++ right) = (.ok (), left' ++ right')) ∧
    (∀ buffer after place, (backend.bulk wanted schedule).runOn buffer = (.ok (), after) →
      16 * place < buffer.length →
        (backend.bulk wanted schedule).runOn (buffer.slice (16 * place) 16) =
            (.ok (), after.slice (16 * place) 16) ∧
          Block.blockAt after place = backend.block wanted schedule (Block.blockAt buffer place)) ∧
    (∀ buffer other after, (backend.bulk wanted schedule).runOn buffer = (.ok (), after) →
      (backend.bulk wanted schedule).runOn other = (.ok (), after) → buffer = other) ∧
    ∀ buffer, (backend.bulk wanted schedule).runOn buffer =
      (inPlace (backend.bytes wanted schedule) buffer).swap :=
  ⟨exists_runOn_bulk_iff, fun _ _ _ => eq_of_runOn_bulk_error, fun _ _ _ _ => runOn_bulk_append,
    fun _ _ _ => runOn_bulk_slice, fun _ _ _ => eq_of_runOn_bulk_eq, runOn_bulk_eq_inPlace⟩

end AesBackend

end HeaderVault
