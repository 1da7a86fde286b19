import HeaderVault.Proofs.Header.Sealing

/-!
Sealing what was opened.

Every layer of a header has one written form: the parameter block (`toBlock_of_ofBlock`), the salt
with it (`toBytes_of_parse`), the body when its reserved bytes are zero (`body_of_ofBody`) and the
encryption of the body (`encryptBody_decryptBody`). With the other direction, `sealWith_eq_iff` says
that a sealed header is exactly a byte string that opens to it and keeps nothing where nothing is
written.
-/

namespace HeaderVault

/-! ### Pieces of byte strings -/

namespace Bytes

theorem ofUInt32_toUInt32 {bytes : Bytes} (size : bytes.length = 4) :
    ofUInt32 (toUInt32 bytes) = bytes := by
  have fits : toNatLE bytes < UInt32.size := by
    have := toNatLE_lt bytes
    rwa [size] at this
  rw [ofUInt32, toUInt32, UInt32.toNat_ofNat_of_lt' fits, ← size, ofNatLE_toNatLE]

theorem ofUInt64_toUInt64 {bytes : Bytes} (size : bytes.length = 8) :
    ofUInt64 (toUInt64 bytes) = bytes := by
  have fits : toNatLE bytes < UInt64.size := by
    have := toNatLE_lt bytes
    rwa [size] at this
  rw [ofUInt64, toUInt64, UInt64.toNat_ofNat_of_lt' fits, ← size, ofNatLE_toNatLE]

/-- A piece and what follows it. -/
theorem slice_append_drop (bytes : Bytes) {offset count stop : Nat} (next : offset + count = stop) :
    bytes.slice offset count ++ bytes.drop stop = bytes.drop offset := by
  rw [slice, ← next, ← List.drop_drop, List.take_append_drop]

end Bytes

/-! ### The parameter block -/

namespace KdfParams

/-- Costs are kept as they are. -/
theorem eq_of_new {algorithm : KdfAlgorithm} {memory time lanes : UInt32} {params : KdfParams}
    (usable : new algorithm memory time lanes = .ok params) :
    params.algorithm = algorithm ∧ params.memory = memory ∧ params.time = time ∧
      params.lanes = lanes := by
  unfold new at usable
  split at usable
  · split at usable
    · split at usable
      · cases usable
        exact ⟨rfl, rfl, rfl, rfl⟩
      · cases usable
    · cases usable
  · cases usable

/-- What a block has to hold for parameters to be read from it. -/
theorem fields_of_ofBlock {block : Bytes} {params : KdfParams} (read : ofBlock block = .ok params) :
    block.length = 16 ∧ params.algorithm.id = block.getD 0 0 ∧ block.slice 1 3 = [0, 0, 0] ∧
      params.memory = Bytes.toUInt32 (block.slice 4 4) ∧
      params.time = Bytes.toUInt32 (block.slice 8 4) ∧
      params.lanes = Bytes.toUInt32 (block.slice 12 4) := by
  unfold ofBlock at read
  split at read
  · cases read
  next size =>
  dsimp only at read
  split at read
  · cases read
  next algorithm known =>
  split at read
  · cases read
  next reserved =>
  cases usable : new algorithm (Bytes.toUInt32 (block.slice 4 4)) (Bytes.toUInt32 (block.slice 8 4))
      (Bytes.toUInt32 (block.slice 12 4)) with
  | error fault =>
      rw [usable] at read
      cases read
  | ok found =>
      rw [usable] at read
      cases read
      obtain ⟨algorithmEq, costs⟩ := eq_of_new usable
      rw [algorithmEq]
      exact ⟨Decidable.not_not.mp size, KdfAlgorithm.id_of_ofId? known,
        Decidable.not_not.mp reserved, costs⟩

/-- A block says exactly one thing: the parameters that are read from it are written as this block.
-/
theorem toBlock_of_ofBlock {block : Bytes} {params : KdfParams}
    (read : ofBlock block = .ok params) : params.toBlock = block := by
  obtain ⟨size, id, reserved, memory, time, lanes⟩ := fields_of_ofBlock read
  have word : ∀ offset, offset + 4 ≤ 16 →
      Bytes.ofUInt32 (Bytes.toUInt32 (block.slice offset 4)) = block.slice offset 4 := by
    intro offset within
    apply Bytes.ofUInt32_toUInt32
    rw [Bytes.length_slice, size]
    omega
  have first : [params.algorithm.id] = block.take 1 := by
    rw [id]
    cases block with
    | nil => cases size
    | cons byte rest => rfl
  have last : block.slice 12 4 = block.drop 12 := List.take_of_length_le (by simp [size])
  calc params.toBlock
    _ = [params.algorithm.id] ++ ([0, 0, 0] ++ (block.slice 4 4 ++ (block.slice 8 4 ++
          block.slice 12 4))) := by
        rw [toBlock, memory, time, lanes, word 4 (by decide), word 8 (by decide),
          word 12 (by decide), List.append_assoc, List.append_assoc]
        rfl
    _ = block := by
        rw [first, ← reserved, last, Bytes.slice_append_drop block rfl,
          Bytes.slice_append_drop block rfl, Bytes.slice_append_drop block rfl,
          List.take_append_drop]

end KdfParams

/-- The front of a header is written as it was read. -/
theorem Cleartext.toBytes_of_parse {bytes : Bytes} {cleartext : Cleartext}
    (parsed : parse bytes = .ok cleartext) :
    bytes.length = 512 ∧ cleartext.toBytes ++ bytes.drop 80 = bytes := by
  unfold parse at parsed
  split at parsed
  · cases parsed
  next whole =>
  have whole : bytes.length = 512 := Decidable.not_not.mp whole
  split at parsed
  · next kdf read =>
    obtain rfl := Except.ok.inj parsed
    refine ⟨whole, ?_⟩
    have salt : (Octets.ofBytes 64 (bytes.take 64)).toList = bytes.take 64 :=
      Octets.toList_ofBytes (by simp [whole])
    rw [toBytes, salt, KdfParams.toBlock_of_ofBlock read, List.append_assoc,
      Bytes.slice_append_drop bytes rfl, List.take_append_drop]
  · cases parsed

/-- The four bytes of a header in which the time cost stands. -/
def Cleartext.timeBytes (bytes : HeaderBytes) : Bytes := [bytes[72], bytes[73], bytes[74], bytes[75]]

theorem Cleartext.timeBytes_of_parse {bytes : HeaderBytes} {cleartext : Cleartext}
    (parsed : parse bytes.toList = .ok cleartext) :
    timeBytes bytes = Bytes.ofUInt32 cleartext.kdf.time := by
  obtain ⟨-, front⟩ := toBytes_of_parse parsed
  have fields : cleartext.toBytes ++ bytes.toList.drop 80 =
      (cleartext.salt.toList ++ ([cleartext.kdf.algorithm.id, 0, 0, 0] ++
        Bytes.ofUInt32 cleartext.kdf.memory)) ++ (Bytes.ofUInt32 cleartext.kdf.time ++
          (Bytes.ofUInt32 cleartext.kdf.lanes ++ bytes.toList.drop 80)) := by
    simp only [toBytes, KdfParams.toBlock, List.append_assoc]
  have found : Bytes.slice bytes.toList 72 4 = Bytes.ofUInt32 cleartext.kdf.time := by
    rw [← front, fields]
    exact Bytes.slice_middle (by simp [Bytes.length_ofUInt32]) (Bytes.length_ofUInt32 _)
  rw [← found, Bytes.slice, List.drop_eq_getElem_cons (by simp), List.drop_eq_getElem_cons (by simp),
    List.drop_eq_getElem_cons (by simp), List.drop_eq_getElem_cons (by simp)]
  simp [timeBytes]

/-- A header with a time cost of zero cannot be read. -/
theorem Cleartext.parse_ne_ok_of_time {bytes : HeaderBytes} (zero : timeBytes bytes = [0, 0, 0, 0])
    (cleartext : Cleartext) : parse bytes.toList ≠ .ok cleartext := by
  intro parsed
  have none : cleartext.kdf.time = 0 := by
    rw [← Bytes.toUInt32_ofUInt32 cleartext.kdf.time, ← timeBytes_of_parse parsed, zero]
    rfl
  have some := cleartext.kdf.one_le_time
  rw [none] at some
  exact absurd some (by decide)

/-! ### The body -/

namespace VolumeHeader

/-- Whether the bytes of a body that nothing reads are zero, as they are written. -/
def ReservedZero (body : Bytes) : Prop :=
  body.slice 6 2 = [0, 0] ∧ body.slice 20 152 = List.replicate 152 0

theorem reservedZero_body (header : VolumeHeader) : ReservedZero header.body := by
  constructor
  · rw [body_eq, ← List.append_assoc]
    exact Bytes.slice_middle (by simp [length_magic]) rfl
  · rw [body_eq, ← List.append_assoc, ← List.append_assoc, ← List.append_assoc, ← List.append_assoc]
    exact Bytes.slice_middle (by simp [length_magic, Bytes.length_ofUInt64, Bytes.length_ofUInt32])
      (List.length_replicate)

/-- What a body has to hold for a header to be read from it. -/
theorem fields_of_ofBody {cleartext : Cleartext} {body : Bytes} {header : VolumeHeader}
    (read : ofBody cleartext body = .ok header) :
    header.cleartext = cleartext ∧ body.take 4 = magic ∧ Bytes.toNatLE (body.slice 4 2) = version ∧
      Bytes.toUInt32 (body.slice 172 4) = Checksum.checksum (body.take 172) ∧
      Bytes.toUInt32 (body.slice 16 4) = Checksum.checksum (body.drop 176) ∧
      header.dataSize = Bytes.toUInt64 (body.slice 8 8) ∧
      header.keyArea = Octets.ofBytes 256 (body.drop 176) := by
  unfold ofBody at read
  dsimp only at read
  split at read
  · cases read
  next mark =>
  split at read
  · cases read
  next found =>
  split at read
  · cases read
  next startCheck =>
  split at read
  · cases read
  next areaCheck =>
  cases read
  exact ⟨rfl, Decidable.not_not.mp mark, Decidable.not_not.mp found,
    Decidable.not_not.mp startCheck, Decidable.not_not.mp areaCheck, rfl, rfl⟩

/-- A body from which a header is read is the one of this header, but for its reserved bytes. -/
theorem body_of_ofBody {cleartext : Cleartext} {body : Bytes} {header : VolumeHeader}
    (size : body.length = 432) (read : ofBody cleartext body = .ok header)
    (reserved : ReservedZero body) : header.body = body := by
  obtain ⟨-, mark, found, startCheck, areaCheck, dataSize, keyArea⟩ := fields_of_ofBody read
  have keyArea : header.keyArea.toList = body.drop 176 := by
    rw [keyArea]
    exact Octets.toList_ofBytes (by simp [size])
  have versionBytes : Bytes.ofNatLE 2 version = body.slice 4 2 := by
    have two : (body.slice 4 2).length = 2 := by rw [Bytes.length_slice, size]; rfl
    have back := Bytes.ofNatLE_toNatLE (body.slice 4 2)
    rwa [found, two] at back
  have sizeBytes : Bytes.ofUInt64 header.dataSize = body.slice 8 8 := by
    rw [dataSize]
    exact Bytes.ofUInt64_toUInt64 (by rw [Bytes.length_slice, size]; rfl)
  have areaBytes : Bytes.ofUInt32 (Checksum.checksum header.keyArea.toList) = body.slice 16 4 := by
    rw [keyArea, ← areaCheck]
    exact Bytes.ofUInt32_toUInt32 (by rw [Bytes.length_slice, size]; rfl)
  have start : header.bodyStart ++ body.drop 172 = body := by
    rw [bodyStart, ← mark, versionBytes, ← reserved.1, sizeBytes, areaBytes, ← reserved.2]
    simp only [List.append_assoc]
    rw [Bytes.slice_append_drop body rfl, Bytes.slice_append_drop body rfl,
      Bytes.slice_append_drop body rfl, Bytes.slice_append_drop body rfl,
      Bytes.slice_append_drop body rfl, List.take_append_drop]
  have startBytes : Bytes.ofUInt32 (Checksum.checksum header.bodyStart) = body.slice 172 4 := by
    have front : body.take 172 = header.bodyStart := by
      rw [← start, List.take_left' header.length_bodyStart]
    rw [← front, ← startCheck]
    exact Bytes.ofUInt32_toUInt32 (by rw [Bytes.length_slice, size]; rfl)
  rw [VolumeHeader.body, startBytes, keyArea, List.append_assoc, Bytes.slice_append_drop body rfl,
    start]

end VolumeHeader

/-! ### Encryption -/

namespace VolumeHeader

/-- A header key is the keys of a data unit, whatever its bytes. -/
theorem ofBytes_keys (key : HeaderKey) : Xts.Keys.ofBytes key.bytes.toList = .ok (keys key) := by
  have length : key.bytes.toList.length = 64 := key.bytes.length_toList
  have half : ∀ bytes : Bytes, bytes.length = 32 →
      Aes.Key.ofBytes bytes = .ok ⟨.aes256, Octets.ofBytes 32 bytes⟩ := by
    intro bytes size
    rw [Aes.Key.ofBytes, size]
    rfl
  have data := half (key.bytes.toList.take 32) (by simp)
  have tweak := half (key.bytes.toList.drop 32) (by simp)
  simp only [Xts.Keys.ofBytes, length, data, tweak, bind, Except.bind]
  rfl

/-- The encryption of a body is that of one data unit, and it is not refused. -/
theorem encrypt_body (key : HeaderKey) {body : Bytes} (size : body.length = 432) :
    Xts.encrypt (keys key) 0 body = .ok (encryptBody key body) := by
  simp only [Xts.encrypt, Xts.checkLength, size, bind, Except.bind]
  rfl

theorem encryptBody_decryptBody (key : HeaderKey) {body : Bytes} (whole : body.length % 16 = 0) :
    encryptBody key (decryptBody key body) = body := by
  rw [decryptBody, encryptBody, Aes.Block.split_join, keys, Xts.encryptBlocks_decryptBlocks,
    Aes.Block.join_split whole]

theorem length_decryptBody (key : HeaderKey) {body : Bytes} (whole : body.length % 16 = 0) :
    (decryptBody key body).length = body.length := by
  rw [decryptBody, Aes.Block.length_join, Xts.decryptBlocks, Xts.length_mask,
    Aes.Block.length_split whole]

/-! ### Sealed headers -/

/-- A header that opens has the salt and the parameters that can be read without a key. -/
theorem parse_of_openWith {key : HeaderKey} {bytes : Bytes} {header : VolumeHeader}
    (opened : openWith key bytes = .ok header) :
    Cleartext.parse bytes = .ok header.cleartext ∧
      ofBody header.cleartext (decryptBody key (bytes.drop 80)) = .ok header := by
  cases parsed : Cleartext.parse bytes with
  | error fault =>
      rw [openWith, parsed] at opened
      cases opened
  | ok cleartext =>
      rw [openWith_of_parse parsed] at opened
      obtain rfl := (fields_of_ofBody opened).1
      exact ⟨rfl, opened⟩

/-- What opens with a key is sealed with it to the same bytes. -/
theorem toList_sealWith_of_openWith {key : HeaderKey} {bytes : Bytes} {header : VolumeHeader}
    (opened : openWith key bytes = .ok header)
    (reserved : ReservedZero (decryptBody key (bytes.drop 80))) :
    (header.sealWith key).toList = bytes := by
  obtain ⟨parsed, read⟩ := parse_of_openWith opened
  obtain ⟨length, front⟩ := Cleartext.toBytes_of_parse parsed
  have rest : (bytes.drop 80).length = 432 := by rw [List.length_drop, length]
  have whole : (bytes.drop 80).length % 16 = 0 := by rw [rest]
  have body := body_of_ofBody (by rw [length_decryptBody key whole, rest]) read reserved
  rw [toList_sealWith, body, encryptBody_decryptBody key whole, front]

/-- Sealing a header gives exactly the bytes that open to it and are zero in their reserved places:
what was sealed opens to the same header, and what opens is sealed to the same bytes. -/
theorem sealWith_eq_iff (key : HeaderKey) (header : VolumeHeader) (bytes : Bytes) :
    (header.sealWith key).toList = bytes ↔
      openWith key bytes = .ok header ∧ ReservedZero (decryptBody key (bytes.drop 80)) := by
  constructor
  · rintro rfl
    refine ⟨header.openWith_sealWith key, ?_⟩
    rw [toList_sealWith, List.drop_left' header.cleartext.length_toBytes,
      decryptBody_encryptBody key (by rw [length_body])]
    exact header.reservedZero_body
  · rintro ⟨opened, reserved⟩
    exact toList_sealWith_of_openWith opened reserved

end VolumeHeader

end HeaderVault
