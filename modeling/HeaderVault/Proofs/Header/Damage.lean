import HeaderVault.Proofs.Checksum
import HeaderVault.Proofs.Header.RoundTrip

/-!
Damage to the decrypted part of a header.

A body whose first check is right leaves a known register after its 176 bytes, the check value
itself among them (`register_start_of_ofBody`). So damage that stays within four neighbouring bytes
cannot lie there unnoticed, whether it strikes the fields, the check value or both. What is left is
damage to the key area, whose own check value then still stands where it did (`eq_of_burst`).
-/

namespace HeaderVault

/-! ### Bursts -/

namespace Bytes

/-- Strings of one length that differ in four neighbouring bytes at most. -/
structure Burst (first : Nat) (bytes damaged : Bytes) : Prop where
  length_eq : damaged.length = bytes.length
  within : ∀ place, damaged[place]? ≠ bytes[place]? → first ≤ place ∧ place < first + 4

namespace Burst

variable {first : Nat} {bytes damaged : Bytes}

theorem take (burst : Burst first bytes damaged) (count : Nat) :
    Burst first (bytes.take count) (damaged.take count) where
  length_eq := by rw [List.length_take, List.length_take, burst.length_eq]
  within place differs := by
    apply burst.within place
    intro same
    rw [List.getElem?_take, List.getElem?_take, same] at differs
    exact differs rfl

theorem drop (burst : Burst first bytes damaged) (count : Nat) :
    Burst (first - count) (bytes.drop count) (damaged.drop count) where
  length_eq := by rw [List.length_drop, List.length_drop, burst.length_eq]
  within place differs := by
    rw [List.getElem?_drop, List.getElem?_drop] at differs
    have inside := burst.within _ differs
    omega

theorem agrees (burst : Burst first bytes damaged) {place : Nat}
    (outside : place < first ∨ first + 4 ≤ place) : damaged[place]? = bytes[place]? := by
  apply Decidable.byContradiction
  intro differs
  have inside := burst.within place differs
  omega

theorem front_eq (burst : Burst first bytes damaged) : damaged.take first = bytes.take first := by
  apply List.ext_getElem?
  intro place
  rw [List.getElem?_take, List.getElem?_take]
  split
  · next before => exact burst.agrees (.inl before)
  · rfl

theorem back_eq (burst : Burst first bytes damaged) :
    damaged.drop (first + 4) = bytes.drop (first + 4) := by
  apply List.ext_getElem?
  intro place
  rw [List.getElem?_drop, List.getElem?_drop]
  exact burst.agrees (.inr (Nat.le_add_right _ _))

theorem split (bytes : Bytes) (first : Nat) :
    bytes = bytes.take first ++ (bytes.slice first 4 ++ bytes.drop (first + 4)) := by
  rw [slice_append_drop bytes rfl, List.take_append_drop]

/-- A register tells a string from what a burst makes of it. -/
theorem eq_of_register (burst : Burst first bytes damaged) {initial : UInt32}
    (same : Checksum.register initial damaged = Checksum.register initial bytes) :
    damaged = bytes := by
  have size : (damaged.slice first 4).length = (bytes.slice first 4).length := by
    rw [length_slice, length_slice, burst.length_eq]
  have short : (damaged.slice first 4).length ≤ 4 := by
    rw [length_slice]
    omega
  rw [split damaged first, split bytes first, burst.front_eq, burst.back_eq] at same ⊢
  rw [Checksum.register_burst size short same]

end Burst

/-- Four neighbouring bytes with all their bits turned over. -/
def flip (first : Nat) (bytes : Bytes) : Bytes :=
  bytes.mapIdx fun place byte => if first ≤ place ∧ place < first + 4 then ~~~byte else byte

theorem getElem?_flip (first : Nat) (bytes : Bytes) (place : Nat) :
    (flip first bytes)[place]? = bytes[place]?.map fun byte =>
      if first ≤ place ∧ place < first + 4 then ~~~byte else byte :=
  List.getElem?_mapIdx

theorem burst_flip (first : Nat) (bytes : Bytes) : Burst first bytes (flip first bytes) where
  length_eq := List.length_mapIdx
  within place differs := by
    apply Decidable.byContradiction
    intro outside
    rw [getElem?_flip] at differs
    simp only [if_neg outside, Option.map_id_fun'] at differs
    exact differs rfl

theorem flip_ne {first : Nat} {bytes : Bytes} (inside : first < bytes.length) :
    flip first bytes ≠ bytes := by
  intro same
  have entry := getElem?_flip first bytes first
  rw [same, List.getElem?_eq_getElem inside] at entry
  simp at entry

end Bytes

/-! ### Bodies -/

namespace VolumeHeader

variable {cleartext : Cleartext} {body damaged : Bytes} {header found : VolumeHeader}

theorem register_start_of_ofBody (size : body.length = 432)
    (read : ofBody cleartext body = .ok header) :
    Checksum.register Checksum.start (body.take 176) = Checksum.bitSteps 32 0xffffffff := by
  obtain ⟨-, -, -, startCheck, -⟩ := fields_of_ofBody read
  have check : body.slice 172 4 = Bytes.ofUInt32 (Checksum.checksum (body.take 172)) := by
    rw [← startCheck]
    exact (Bytes.ofUInt32_toUInt32 (by rw [Bytes.length_slice, size]; rfl)).symm
  have parts : body.take 176 = body.take 172 ++ body.slice 172 4 := by
    rw [Bytes.slice, ← List.take_add]
  rw [parts, check, Checksum.register_checked]

/-- Of two bodies that a burst tells apart at most one can be read. -/
theorem eq_of_burst {first : Nat} (burst : Bytes.Burst first body damaged)
    (size : body.length = 432) (read : ofBody cleartext body = .ok header)
    (accepted : ofBody cleartext damaged = .ok found) : damaged = body := by
  have start : damaged.take 176 = body.take 176 := by
    apply (burst.take 176).eq_of_register
    rw [register_start_of_ofBody (burst.length_eq.trans size) accepted,
      register_start_of_ofBody size read]
  have check : damaged.slice 16 4 = body.slice 16 4 := by
    have inside : ∀ bytes : Bytes, bytes.slice 16 4 = Bytes.slice (bytes.take 176) 16 4 := by
      intro bytes
      simp [Bytes.slice, List.drop_take, List.take_take]
    rw [inside, start, ← inside]
  have keyArea : damaged.drop 176 = body.drop 176 := by
    obtain ⟨-, -, -, -, areaCheck, -⟩ := fields_of_ofBody read
    obtain ⟨-, -, -, -, damagedCheck, -⟩ := fields_of_ofBody accepted
    rw [check, areaCheck] at damagedCheck
    have registers : Checksum.register Checksum.start (damaged.drop 176) =
        Checksum.register Checksum.start (body.drop 176) := (UInt32.not_inj.mp damagedCheck).symm
    exact (burst.drop 176).eq_of_register registers
  rw [← List.take_append_drop 176 damaged, start, keyArea, List.take_append_drop]

/-- Why a body cannot be read. -/
theorem refusal_of_ofBody {error : Error} (refused : ofBody cleartext body = .error error) :
    error = .wrongCredential ∨ ∃ version, error = .malformedHeader (.version version) := by
  unfold ofBody at refused
  dsimp only at refused
  split at refused
  · exact .inl (Except.error.inj refused).symm
  split at refused
  · exact .inr ⟨_, (Except.error.inj refused).symm⟩
  split at refused
  · exact .inl (Except.error.inj refused).symm
  split at refused
  · exact .inl (Except.error.inj refused).symm
  · cases refused

/-! ### Sealed headers -/

/-- Where a burst has struck the decrypted part of a header, opening refuses what its encryption
gives, although salt and parameters are those of the header and the key is the right one. -/
theorem openWith_burst (header : VolumeHeader) (key : HeaderKey) {first : Nat} {damaged : Bytes}
    (burst : Bytes.Burst first header.body damaged) (changed : damaged ≠ header.body) :
    ∃ keys encrypted, Xts.Keys.ofBytes key.bytes.toList = .ok keys ∧
      Xts.encrypt keys 0 damaged = .ok encrypted ∧
      (header.salt.toList ++ header.kdf.toBlock ++ encrypted).length = 512 ∧
      ∃ error, openWith key (header.salt.toList ++ header.kdf.toBlock ++ encrypted) =
        .error error ∧
          (error = .wrongCredential ∨ ∃ version, error = .malformedHeader (.version version)) := by
  have size : damaged.length = 432 := burst.length_eq.trans header.length_body
  have whole : damaged.length % 16 = 0 := by rw [size]
  have length : (encryptBody key damaged).length = 432 := by
    rw [length_encryptBody key whole, size]
  refine ⟨keys key, encryptBody key damaged, ofBytes_keys key, encrypt_body key size, ?_, ?_⟩
  · change (header.cleartext.toBytes ++ encryptBody key damaged).length = 512
    rw [List.length_append, Cleartext.length_toBytes, length]
  · change ∃ error, openWith key (header.cleartext.toBytes ++ encryptBody key damaged) = _ ∧ _
    rw [openWith_of_parse (header.cleartext.parse_toBytes_append length),
      List.drop_left' header.cleartext.length_toBytes, decryptBody_encryptBody key whole]
    cases read : ofBody header.cleartext damaged with
    | error fault => exact ⟨fault, rfl, refusal_of_ofBody read⟩
    | ok found => exact absurd (eq_of_burst burst header.length_body header.ofBody_body read) changed

/-- A header with nothing but zeros to keep. -/
def zeroed : VolumeHeader := ⟨.standard, .zero 64, 4096, .zero 256⟩

/-- Two bytes of the first check value and two of the key area behind it. -/
theorem openWith_burst_astride :
    Bytes.Burst 174 zeroed.body (Bytes.flip 174 zeroed.body) ∧
      Bytes.flip 174 zeroed.body ≠ zeroed.body ∧
      ∃ keys encrypted, Xts.Keys.ofBytes (Octets.zero 64).toList = .ok keys ∧
        Xts.encrypt keys 0 (Bytes.flip 174 zeroed.body) = .ok encrypted ∧
        (zeroed.salt.toList ++ zeroed.kdf.toBlock ++ encrypted).length = 512 ∧
        ∃ error, openWith ⟨.zero 64⟩ (zeroed.salt.toList ++ zeroed.kdf.toBlock ++ encrypted) =
          .error error ∧
            (error = .wrongCredential ∨
              ∃ version, error = .malformedHeader (.version version)) := by
  have burst := Bytes.burst_flip 174 zeroed.body
  have changed : Bytes.flip 174 zeroed.body ≠ zeroed.body :=
    Bytes.flip_ne (by rw [length_body]; decide)
  exact ⟨burst, changed, openWith_burst zeroed ⟨.zero 64⟩ burst changed⟩

end VolumeHeader

end HeaderVault
