import HeaderVault.Proofs.Aes.Bulk
import HeaderVault.Proofs.Aes.Conformance

/-!
Key schedules as they are stored.

A byte string is a stored schedule when it has the right length and the field behind the round keys
names a key size (`ofBytes_eq_ok_iff`); what the reader finds is then everything but the last three
bytes. The key is still in its schedule: the words that the expansion begins with are the first two
round keys for encryption, and those are at the end of a schedule for decryption, the second of them
with unmixed columns (`keyBytes_expanding`). So two keys never share a stored schedule
(`stored_exact`).
-/

namespace HeaderVault.Aes

/-! ### Columns of a byte string -/

theorem Column.join_split : ∀ {bytes : Bytes}, bytes.length % 4 = 0 →
    (Column.split bytes).flatMap Column.toBytes = bytes
  | _ :: _ :: _ :: _ :: rest, whole => by
      have shorter : rest.length % 4 = 0 := by
        simp only [List.length_cons] at whole
        omega
      rw [Column.split, List.flatMap_cons, join_split shorter]
      rfl
  | [], _ => rfl
  | [_], whole | [_, _], whole | [_, _, _], whole => by simp at whole

/-! ### The words of a key -/

namespace Key

/-- The expansion begins with the columns of the key. -/
theorem map_expand (key : Key) :
    (List.range key.size.words).map (key.expand.getD · .zero) =
      Column.split key.octets.toList := by
  apply List.ext_getElem
  · rw [List.length_map, List.length_range, key.length_split]
  · intro i left right
    have begun : i < (Column.split key.octets.toList).toArray.size := right
    rw [List.getElem_map, List.getElem_range, expand, getD_appendWords_of_lt begun]
    simp [Array.getD_eq_getD_getElem?, right]

/-- The bytes of a key are the first ones of its first two round keys. -/
theorem take_roundKeys (key : Key) :
    (Block.join [roundKey key.expand 0, roundKey key.expand 1]).take key.size.bytes =
      key.octets.toList := by
  have words : ∀ (words : Array Column) (size : KeySize),
      (Block.join [roundKey words 0, roundKey words 1]).take size.bytes =
        ((List.range size.words).map (words.getD · .zero)).flatMap Column.toBytes := by
    intro words size
    cases size <;> rfl
  have whole : key.octets.toList.length % 4 = 0 := by
    rw [Vector.length_toList, KeySize.bytes, Nat.mul_mod_right]
  rw [words, map_expand, Column.join_split whole]

theorem toList_of_ofBytes {bytes : Bytes} {key : Key} (known : ofBytes bytes = .ok key) :
    key.octets.toList = bytes := by
  unfold ofBytes at known
  split at known
  · next size fits =>
    cases known
    exact Octets.toList_ofBytes (KeySize.bytes_of_ofLength? fits).symm
  · cases known

end Key

namespace Schedule

/-! ### The key of a schedule -/

/-- The schedule of a key for a direction. -/
def expanding : Direction → Key → Schedule
  | .encrypt => encrypting
  | .decrypt => decrypting

/-- The schedule of a key of 16, 24 or 32 bytes. -/
def ofKey (direction : Direction) (bytes : Bytes) : Except Error Schedule :=
  (Key.ofBytes bytes).map (expanding direction)

/-- What the first two round keys for encryption are according to a schedule. -/
def firstKeys (schedule : Schedule) : List Block :=
  match schedule.direction with
  | .encrypt => [schedule.key 0, schedule.key 1]
  | .decrypt =>
      [schedule.key schedule.rounds, (schedule.key (schedule.rounds - 1)).mixColumns]

/-- The key that a schedule was expanded from. -/
def keyBytes (schedule : Schedule) : Bytes :=
  (Block.join schedule.firstKeys).take schedule.size.bytes

theorem size_expanding (direction : Direction) (key : Key) :
    (expanding direction key).size = key.size := by
  cases direction <;> rfl

theorem firstKeys_expanding (direction : Direction) (key : Key) :
    (expanding direction key).firstKeys =
      [Key.roundKey key.expand 0, Key.roundKey key.expand 1] := by
  have rounds : 6 ≤ key.size.rounds := Nat.le_add_left _ _
  cases direction with
  | encrypt =>
      change [(encrypting key).key 0, (encrypting key).key 1] = _
      rw [key_encrypting key (Nat.zero_le _), key_encrypting key (by omega)]
  | decrypt =>
      change [(decrypting key).key key.size.rounds,
        ((decrypting key).key (key.size.rounds - 1)).mixColumns] = _
      have second : key.size.rounds - (key.size.rounds - 1) = 1 := by omega
      rw [key_decrypting_outer key (.inr rfl), key_decrypting_inner key (by omega) (by omega),
        Nat.sub_self, second, Block.mixColumns_unmixColumns]

theorem keyBytes_expanding (direction : Direction) (key : Key) :
    (expanding direction key).keyBytes = key.octets.toList := by
  rw [keyBytes, firstKeys_expanding, size_expanding, key.take_roundKeys]

/-- The bytes that a schedule is made from can be read off it. -/
theorem keyBytes_ofKey {direction : Direction} {bytes : Bytes} {schedule : Schedule}
    (made : ofKey direction bytes = .ok schedule) :
    schedule.direction = direction ∧ schedule.keyBytes = bytes := by
  cases known : Key.ofBytes bytes with
  | error error =>
      rw [ofKey, known] at made
      cases made
  | ok key =>
      rw [ofKey, known] at made
      cases made
      refine ⟨by cases direction <;> rfl, ?_⟩
      rw [keyBytes_expanding, Key.toList_of_ofBytes known]

/-! ### Reading -/

/-- Fifteen blocks as the round keys of a schedule. -/
def keysOf (blocks : List Block) : Vector Block 15 :=
  Vector.ofFn fun i => blocks.toArray.getD i .zero

theorem keysOf_toList (keys : Vector Block 15) : keysOf keys.toList = keys := by
  apply Vector.ext
  intro i inside
  simp [keysOf]

theorem toList_keysOf {blocks : List Block} (length : blocks.length = 15) :
    (keysOf blocks).toList = blocks := by
  apply List.ext_getElem
  · rw [Vector.length_toList, length]
  · intro i left right
    simp [keysOf, right]

/-- A field that names a key size is all that is needed besides the length. -/
theorem ofBytes_of_field (direction : Direction) {bytes : Bytes} {size : KeySize}
    (length : bytes.length = storedLength)
    (field : bytes.getD 240 0 = UInt8.ofNat (16 * size.rounds)) :
    ofBytes direction bytes = .ok ⟨direction, size, keysOf (Block.split (bytes.take 240))⟩ := by
  rw [ofBytes, if_neg (not_not_intro length), field]
  cases size <;> rfl

theorem exists_field_of_ofBytes {direction : Direction} {bytes : Bytes} {schedule : Schedule}
    (read : ofBytes direction bytes = .ok schedule) :
    bytes.length = storedLength ∧
      ∃ size : KeySize, bytes.getD 240 0 = UInt8.ofNat (16 * size.rounds) := by
  by_cases length : bytes.length = storedLength
  · refine ⟨length, ?_⟩
    rw [ofBytes, if_neg (not_not_intro length)] at read
    split at read
    · next field => exact ⟨.aes128, field⟩
    · next field => exact ⟨.aes192, field⟩
    · next field => exact ⟨.aes256, field⟩
    · cases read
    · cases read
  · rw [ofBytes, if_pos length] at read
    cases read

/-- A schedule is read from exactly the byte strings that begin with its round keys and go on with
the field for its key size. -/
theorem ofBytes_eq_ok_iff {direction : Direction} {bytes : Bytes} {schedule : Schedule} :
    ofBytes direction bytes = .ok schedule ↔
      bytes.length = storedLength ∧ schedule.direction = direction ∧
        Block.join schedule.keys.toList = bytes.take 240 ∧
          bytes.getD 240 0 = UInt8.ofNat (16 * schedule.rounds) := by
  constructor
  · intro read
    obtain ⟨length, size, field⟩ := exists_field_of_ofBytes read
    rw [ofBytes_of_field direction length field] at read
    cases read
    have front : (bytes.take 240).length = 240 := by
      rw [List.length_take, length]
      rfl
    have whole : (bytes.take 240).length % 16 = 0 := by rw [front]
    have blocks : (Block.split (bytes.take 240)).length = 15 := by
      have length := Block.length_split whole
      omega
    exact ⟨length, rfl, by rw [toList_keysOf blocks, Block.join_split whole], field⟩
  · rintro ⟨length, rfl, keys, field⟩
    rw [ofBytes_of_field schedule.direction length field, ← keys, Block.split_join, keysOf_toList]

/-- What is read is written again, up to the last three bytes. -/
theorem toBytes_of_ofBytes {direction : Direction} {bytes : Bytes} {schedule : Schedule}
    (read : ofBytes direction bytes = .ok schedule) :
    schedule.direction = direction ∧
      schedule.toBytes = bytes.take 241 ++ List.replicate 3 0 := by
  obtain ⟨length, fits, keys, field⟩ := ofBytes_eq_ok_iff.mp read
  have inside : 240 < bytes.length := Nat.lt_of_lt_of_eq (by decide) length.symm
  have front : bytes.take 241 = bytes.take 240 ++ [bytes.getD 240 0] := by
    rw [List.take_add_one, List.getD_eq_getElem?_getD, List.getElem?_eq_getElem inside]
    rfl
  rw [toBytes, keys, ← field, front, List.append_assoc]
  exact ⟨fits, rfl⟩

theorem ofBytes_toBytes (schedule : Schedule) :
    ofBytes schedule.direction schedule.toBytes = .ok schedule := by
  have front : (Block.join schedule.keys.toList).length = 240 := by
    rw [Block.length_join, Vector.length_toList]
  refine ofBytes_eq_ok_iff.mpr ⟨?_, rfl, ?_, ?_⟩
  · rw [toBytes, List.length_append, front]
    rfl
  · rw [toBytes, List.take_left' front]
  · rw [toBytes, List.getD_eq_getElem?_getD, List.getElem?_append_right (Nat.le_of_eq front), front]
    rfl

theorem exists_ofBytes_iff (direction : Direction) (bytes : Bytes) :
    (∃ schedule, ofBytes direction bytes = .ok schedule) ↔
      bytes.length = storedLength ∧ (bytes.getD 240 0).toNat ∈ [160, 192, 224] := by
  constructor
  · rintro ⟨schedule, read⟩
    obtain ⟨length, size, field⟩ := exists_field_of_ofBytes read
    refine ⟨length, ?_⟩
    rw [field]
    cases size <;> decide
  · rintro ⟨length, field⟩
    have named : ∃ size : KeySize, bytes.getD 240 0 = UInt8.ofNat (16 * size.rounds) := by
      simp only [List.mem_cons, List.not_mem_nil, or_false] at field
      rcases field with field | field | field
      · exact ⟨.aes128, UInt8.toNat_inj.mp field⟩
      · exact ⟨.aes192, UInt8.toNat_inj.mp field⟩
      · exact ⟨.aes256, UInt8.toNat_inj.mp field⟩
    obtain ⟨size, field⟩ := named
    exact ⟨_, ofBytes_of_field direction length field⟩

/-- No two keys share a stored schedule for the same direction. -/
theorem eq_of_toBytes_eq {direction : Direction} {key other : Bytes} {schedule schedule' : Schedule}
    (made : ofKey direction key = .ok schedule) (made' : ofKey direction other = .ok schedule')
    (same : schedule.toBytes = schedule'.toBytes) : key = other := by
  obtain ⟨fits, bytes⟩ := keyBytes_ofKey made
  obtain ⟨fits', bytes'⟩ := keyBytes_ofKey made'
  have read := ofBytes_toBytes schedule
  rw [same, fits, ← fits', ofBytes_toBytes] at read
  rw [← bytes, ← bytes', Except.ok.inj read]

/-- A stored schedule is read back as it was, so that it does the same to every buffer. What is read
are the byte strings of the right length with a field for one of the three key sizes, and writing
the result gives all of it back but the last three bytes, which become zero. Schedules of different
keys are stored differently. -/
theorem stored_exact (direction : Direction) :
    (∀ schedule : Schedule, ∃ stored,
      ofBytes schedule.direction schedule.toBytes = .ok stored ∧ stored = schedule ∧
        ∀ (backend : AesBackend) (wanted : Direction) (buffer : Bytes),
          (backend.bulk wanted stored).runOn buffer =
            (backend.bulk wanted schedule).runOn buffer) ∧
    (∀ bytes, (∃ schedule, ofBytes direction bytes = .ok schedule) ↔
      bytes.length = storedLength ∧ (bytes.getD 240 0).toNat ∈ [160, 192, 224]) ∧
    (∀ bytes schedule, ofBytes direction bytes = .ok schedule →
      schedule.direction = direction ∧
        schedule.toBytes = bytes.take 241 ++ List.replicate 3 0) ∧
    ∀ key other schedule schedule', ofKey direction key = .ok schedule →
      ofKey direction other = .ok schedule' → schedule.toBytes = schedule'.toBytes →
        key = other :=
  ⟨fun schedule => ⟨schedule, ofBytes_toBytes schedule, rfl, fun _ _ _ => rfl⟩,
    exists_ofBytes_iff direction, fun _ _ => toBytes_of_ofBytes, fun _ _ _ _ => eq_of_toBytes_eq⟩

end Schedule

end HeaderVault.Aes
