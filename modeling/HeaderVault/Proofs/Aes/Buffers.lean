import HeaderVault.Aes.Backend
import HeaderVault.Proofs.Aes.Cipher

/-!
The block cipher on buffers.

A byte string of whole blocks is the same as a list of blocks (`join_split`, `split_join`), and
`Block.blockAt` finds a block by its place. Both implementations of the cipher compute the same bytes
(`AesBackend.encryptBytes_eq`, `AesBackend.decryptBytes_eq`), so what one of them has encrypted in
place, either of them decrypts, and the other way round (`buffer_restored`).
-/

namespace HeaderVault

/-- What a buffer holds after work in place, and how the work went. Work that is refused leaves the
buffer as it was. -/
def inPlace (work : Bytes → Except Error Bytes) (buffer : Bytes) : Bytes × Except Error Unit :=
  match work buffer with
  | .ok result => (result, .ok ())
  | .error error => (buffer, .error error)

theorem inPlace_of_ok {work : Bytes → Except Error Bytes} {buffer result : Bytes}
    (ok : work buffer = .ok result) : inPlace work buffer = (result, .ok ()) := by
  rw [inPlace, ok]

theorem inPlace_of_error {work : Bytes → Except Error Bytes} {buffer : Bytes} {error : Error}
    (refused : work buffer = .error error) : inPlace work buffer = (buffer, .error error) := by
  rw [inPlace, refused]

namespace Aes

/-! ### Whole blocks -/

namespace Block

/-- Whole blocks survive being split and joined. -/
theorem join_split {bytes : Bytes} (whole : bytes.length % 16 = 0) :
    join (split bytes) = bytes := by
  fun_induction split bytes with
  | case1 a0 a1 a2 a3 b0 b1 b2 b3 c0 c1 c2 c3 d0 d1 d2 d3 rest ih =>
      have shorter : rest.length % 16 = 0 := by
        simp only [List.length_cons] at whole
        omega
      rw [join_cons, ih shorter]
      rfl
  | case2 bytes short =>
      -- fewer than sixteen bytes are whole blocks only when there is none
      rcases bytes with _ | ⟨a0, _ | ⟨a1, _ | ⟨a2, _ | ⟨a3, _ | ⟨b0, _ | ⟨b1, _ | ⟨b2, _ | ⟨b3,
        _ | ⟨c0, _ | ⟨c1, _ | ⟨c2, _ | ⟨c3, _ | ⟨d0, _ | ⟨d1, _ | ⟨d2, _ | ⟨d3,
        rest⟩⟩⟩⟩⟩⟩⟩⟩⟩⟩⟩⟩⟩⟩⟩⟩
      · rfl
      iterate 15 (· simp at whole)
      · exact (short _ _ _ _ _ _ _ _ _ _ _ _ _ _ _ _ _ rfl).elim

theorem exists_join {bytes : Bytes} (whole : bytes.length % 16 = 0) :
    ∃ blocks, join blocks = bytes := ⟨_, join_split whole⟩

theorem length_split {bytes : Bytes} (whole : bytes.length % 16 = 0) :
    16 * (split bytes).length = bytes.length := by
  rw [← length_join, join_split whole]

/-- The block with the given bytes. -/
theorem ofBytes_toBytes (s : Block) : ofBytes s.toBytes = s := by
  have one : split s.toBytes = [s] := by simpa [join] using split_join [s]
  rw [ofBytes, Octets.toList_ofBytes (length_toBytes s), one]
  rfl

theorem toBytes_ofBytes {bytes : Bytes} (size : bytes.length = 16) :
    (ofBytes bytes).toBytes = bytes := by
  have whole : bytes.length % 16 = 0 := by rw [size]
  have joined : join (split bytes) = bytes := join_split whole
  have single : (split bytes).length = 1 := by
    have length := length_split whole
    omega
  obtain ⟨s, one⟩ := List.length_eq_one_iff.mp single
  rw [ofBytes, Octets.toList_ofBytes size, one]
  rw [one] at joined
  simpa [join] using joined

/-- The block at a place of a byte string. -/
def blockAt (bytes : Bytes) (place : Nat) : Block := ofBytes (bytes.slice (16 * place) 16)

theorem slice_join {blocks : List Block} {place : Nat} {block : Block}
    (found : blocks[place]? = some block) :
    (join blocks).slice (16 * place) 16 = block.toBytes := by
  induction blocks generalizing place with
  | nil => simp at found
  | cons s rest ih =>
      cases place with
      | zero =>
          obtain rfl : s = block := by simpa using found
          simp [Bytes.slice, List.take_left' (length_toBytes s)]
      | succ place =>
          have before : (16 * (place + 1) : Nat) = s.toBytes.length + 16 * place := by
            rw [length_toBytes]
            omega
          rw [join_cons, Bytes.slice, before, List.drop_length_add_append]
          exact ih (by simpa using found)

theorem blockAt_join {blocks : List Block} {place : Nat} {block : Block}
    (found : blocks[place]? = some block) : blockAt (join blocks) place = block := by
  rw [blockAt, slice_join found, ofBytes_toBytes]

theorem take_join (blocks : List Block) (count : Nat) :
    (join blocks).take (16 * count) = join (blocks.take count) := by
  induction blocks generalizing count with
  | nil => simp [join]
  | cons s rest ih =>
      cases count with
      | zero => simp [join]
      | succ count =>
          have before : (16 * (count + 1) : Nat) = s.toBytes.length + 16 * count := by
            rw [length_toBytes]
            omega
          rw [join_cons, before, List.take_length_add_append, ih, List.take_succ_cons, join_cons]

end Block

/-! ### Implementations -/

namespace Instructions

/-- Rows can be shifted before the bytes are substituted. -/
theorem encryptRound_eq : encryptRound = Schedule.encryptRound := rfl

theorem decryptRound_eq : decryptRound = Schedule.decryptRound := rfl

theorem encryptBlock_eq (schedule : Schedule) : encryptBlock schedule = schedule.encryptBlock := by
  funext block
  rw [encryptBlock, Schedule.encryptBlock, encryptRound_eq]
  rfl

theorem decryptBlock_eq (schedule : Schedule) : decryptBlock schedule = schedule.decryptBlock := by
  funext block
  rw [decryptBlock, Schedule.decryptBlock, decryptRound_eq]
  rfl

end Instructions

end Aes

namespace AesBackend

open HeaderVault.Aes

/-- Which implementation is used cannot be seen from the result. -/
theorem encryptBytes_eq (backend : AesBackend) (schedule : Schedule) (bytes : Bytes) :
    backend.encryptBytes schedule bytes = schedule.encryptBytes bytes := by
  cases backend with
  | software => rfl
  | instructions =>
      rw [encryptBytes, Instructions.encryptBytes, Instructions.encryptBlock_eq]
      rfl

theorem decryptBytes_eq (backend : AesBackend) (schedule : Schedule) (bytes : Bytes) :
    backend.decryptBytes schedule bytes = schedule.decryptBytes bytes := by
  cases backend with
  | software => rfl
  | instructions =>
      rw [decryptBytes, Instructions.decryptBytes, Instructions.decryptBlock_eq]
      rfl

end AesBackend

namespace Aes

/-! ### Buffers -/

namespace Schedule

theorem require_join {schedule : Schedule} {wanted : Direction} (fits : schedule.direction = wanted)
    (blocks : List Block) : schedule.require wanted (Block.join blocks).length = .ok () := by
  have whole : ¬(Block.join blocks).length % 16 ≠ 0 := by
    rw [Block.length_join]
    omega
  rw [require, if_neg (not_not_intro fits), if_neg whole]

theorem encryptBytes_join {schedule : Schedule} (encrypts : schedule.direction = .encrypt)
    (blocks : List Block) :
    schedule.encryptBytes (Block.join blocks) =
      .ok (Block.join (blocks.map schedule.encryptBlock)) := by
  rw [encryptBytes, require_join encrypts, Block.split_join]
  rfl

theorem decryptBytes_join {schedule : Schedule} (decrypts : schedule.direction = .decrypt)
    (blocks : List Block) :
    schedule.decryptBytes (Block.join blocks) =
      .ok (Block.join (blocks.map schedule.decryptBlock)) := by
  rw [decryptBytes, require_join decrypts, Block.split_join]
  rfl

/-- The schedule for decryption takes back what the one for encryption did to a buffer. -/
theorem decryptBytes_encryptBytes (key : Key) {buffer : Bytes} (whole : buffer.length % 16 = 0) :
    ∃ sealed, (encrypting key).encryptBytes buffer = .ok sealed ∧
      (decrypting key).decryptBytes sealed = .ok buffer := by
  obtain ⟨blocks, rfl⟩ := Block.exists_join whole
  refine ⟨_, encryptBytes_join rfl blocks, ?_⟩
  rw [decryptBytes_join rfl, List.map_map]
  have same : (decrypting key).decryptBlock ∘ (encrypting key).encryptBlock = id := by
    funext block
    exact decryptBlock_encryptBlock key block
  rw [same, List.map_id]

/-- The schedule for encryption takes back what the one for decryption did to a buffer. -/
theorem encryptBytes_decryptBytes (key : Key) {buffer : Bytes} (whole : buffer.length % 16 = 0) :
    ∃ opened, (decrypting key).decryptBytes buffer = .ok opened ∧
      (encrypting key).encryptBytes opened = .ok buffer := by
  obtain ⟨blocks, rfl⟩ := Block.exists_join whole
  refine ⟨_, decryptBytes_join rfl blocks, ?_⟩
  rw [encryptBytes_join rfl, List.map_map]
  have same : (encrypting key).encryptBlock ∘ (decrypting key).decryptBlock = id := by
    funext block
    exact encryptBlock_decryptBlock key block
  rw [same, List.map_id]

end Schedule

theorem Key.exists_ofBytes {bytes : Bytes}
    (size : bytes.length = 16 ∨ bytes.length = 24 ∨ bytes.length = 32) :
    ∃ key, Key.ofBytes bytes = .ok key := by
  unfold Key.ofBytes
  rcases size with size | size | size <;> rw [size] <;> exact ⟨_, rfl⟩

/-- The two schedules of a key undo each other on every buffer of whole blocks, whichever way they
are used first, and whichever implementations are used. -/
theorem buffer_restored (bytes : Bytes)
    (size : bytes.length = 16 ∨ bytes.length = 24 ∨ bytes.length = 32) (backend other : AesBackend)
    (buffer : Bytes) (whole : buffer.length % 16 = 0) :
    ∃ key, Key.ofBytes bytes = .ok key ∧
      (∃ sealed, inPlace (backend.encryptBytes (.encrypting key)) buffer = (sealed, .ok ()) ∧
        inPlace (other.decryptBytes (.decrypting key)) sealed = (buffer, .ok ())) ∧
      ∃ opened, inPlace (backend.decryptBytes (.decrypting key)) buffer = (opened, .ok ()) ∧
        inPlace (other.encryptBytes (.encrypting key)) opened = (buffer, .ok ()) := by
  obtain ⟨key, known⟩ := Key.exists_ofBytes size
  obtain ⟨sealed, encrypted, back⟩ := Schedule.decryptBytes_encryptBytes key whole
  obtain ⟨opened, decrypted, forth⟩ := Schedule.encryptBytes_decryptBytes key whole
  refine ⟨key, known, ⟨sealed, ?_, ?_⟩, opened, ?_, ?_⟩
  · exact inPlace_of_ok ((backend.encryptBytes_eq _ _).trans encrypted)
  · exact inPlace_of_ok ((other.decryptBytes_eq _ _).trans back)
  · exact inPlace_of_ok ((backend.decryptBytes_eq _ _).trans decrypted)
  · exact inPlace_of_ok ((other.encryptBytes_eq _ _).trans forth)

theorem buffer_restored_counting :
    ((List.range 32).map UInt8.ofNat).length = 32 ∧
    (List.replicate 48 (165 : UInt8)).length % 16 = 0 ∧
    ∃ key, Key.ofBytes ((List.range 32).map UInt8.ofNat) = .ok key ∧
      (∃ sealed,
        inPlace (AesBackend.instructions.encryptBytes (.encrypting key)) (List.replicate 48 165) =
          (sealed, .ok ()) ∧
        inPlace (AesBackend.software.decryptBytes (.decrypting key)) sealed =
          (List.replicate 48 165, .ok ())) ∧
      ∃ opened,
        inPlace (AesBackend.instructions.decryptBytes (.decrypting key)) (List.replicate 48 165) =
          (opened, .ok ()) ∧
        inPlace (AesBackend.software.encryptBytes (.encrypting key)) opened =
          (List.replicate 48 165, .ok ()) :=
  ⟨by decide, by decide,
    buffer_restored ((List.range 32).map UInt8.ofNat) (by decide) .instructions .software
      (List.replicate 48 165) (by decide)⟩

end Aes

end HeaderVault
