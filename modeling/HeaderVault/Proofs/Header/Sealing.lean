import HeaderVault.Header.Volume
import HeaderVault.Proofs.Xts.Masking

/-!
Opening what was sealed.

Every layer of a header has its own round trip: the parameter block (`ofBlock_toBlock`), the salt
with it (`parse_toBytes_append`), the body with its two check values (`ofBody_body`) and the
encryption of the body (`decryptBody_encryptBody`). `openWith_sealWith` puts them together.
-/

namespace HeaderVault

/-! ### Pieces of byte strings -/

namespace Bytes

theorem slice_middle {before piece after : Bytes} {offset count : Nat}
    (start : before.length = offset) (size : piece.length = count) :
    slice (before ++ (piece ++ after)) offset count = piece := by
  subst start size
  simp [slice]

theorem length_ofUInt32 (word : UInt32) : (ofUInt32 word).length = 4 := length_ofNatLE 4 _

theorem length_ofUInt64 (word : UInt64) : (ofUInt64 word).length = 8 := length_ofNatLE 8 _

end Bytes

/-! ### The parameter block -/

namespace KdfParams

theorem new_self (params : KdfParams) :
    new params.algorithm params.memory params.time params.lanes = .ok params := by
  unfold new
  rw [dif_pos params.one_le_time, dif_pos params.lanes_ok, dif_pos params.memory_ok]

theorem ofBlock_toBlock (params : KdfParams) : ofBlock params.toBlock = .ok params := by
  have size := params.length_toBlock
  have known : KdfAlgorithm.ofId? (params.toBlock.getD 0 0) = some params.algorithm :=
    KdfAlgorithm.ofId?_id params.algorithm
  have reserved : params.toBlock.slice 1 3 = [0, 0, 0] := rfl
  have memory : params.toBlock.slice 4 4 = Bytes.ofUInt32 params.memory := by
    rw [toBlock, List.append_assoc, List.append_assoc]
    exact Bytes.slice_middle rfl (Bytes.length_ofUInt32 _)
  have time : params.toBlock.slice 8 4 = Bytes.ofUInt32 params.time := by
    rw [toBlock, List.append_assoc]
    exact Bytes.slice_middle (by simp [Bytes.length_ofUInt32]) (Bytes.length_ofUInt32 _)
  have lanes : params.toBlock.slice 12 4 = Bytes.ofUInt32 params.lanes := by
    rw [toBlock, ← List.append_nil (Bytes.ofUInt32 params.lanes)]
    exact Bytes.slice_middle (by simp [Bytes.length_ofUInt32]) (Bytes.length_ofUInt32 _)
  simp only [ofBlock, size, known, reserved, memory, time, lanes, Bytes.toUInt32_ofUInt32, new_self,
    ne_eq, not_true_eq_false, if_false]
  rfl

end KdfParams

/-- The front of a header reads back, whatever follows it. -/
theorem Cleartext.parse_toBytes_append (cleartext : Cleartext) {rest : Bytes}
    (size : rest.length = 432) : parse (cleartext.toBytes ++ rest) = .ok cleartext := by
  have whole : (cleartext.toBytes ++ rest).length = headerLength := by
    rw [List.length_append, length_toBytes, size, headerLength]
  have block : (cleartext.toBytes ++ rest).slice 64 16 = cleartext.kdf.toBlock := by
    rw [toBytes, List.append_assoc]
    exact Bytes.slice_middle (by simp) cleartext.kdf.length_toBlock
  have salt : (cleartext.toBytes ++ rest).take 64 = cleartext.salt.toList := by
    rw [toBytes, List.append_assoc, List.take_left' (by simp)]
  simp [parse, whole, block, salt, KdfParams.ofBlock_toBlock]

/-! ### The body -/

namespace VolumeHeader

theorem length_magic : magic.length = 4 := by with_unfolding_all rfl

theorem length_bodyStart (header : VolumeHeader) : header.bodyStart.length = 172 := by
  simp [bodyStart, length_magic, Bytes.length_ofUInt64, Bytes.length_ofUInt32]

theorem length_body (header : VolumeHeader) : header.body.length = 432 := by
  simp [body, length_bodyStart, Bytes.length_ofUInt32]

/-- The fields of a body, one after the other. -/
theorem body_eq (header : VolumeHeader) :
    header.body =
      magic ++ (Bytes.ofNatLE 2 version ++ ([0, 0] ++ (Bytes.ofUInt64 header.dataSize ++
        (Bytes.ofUInt32 (Checksum.checksum header.keyArea.toList) ++ (List.replicate 152 0 ++
          (Bytes.ofUInt32 (Checksum.checksum header.bodyStart) ++ header.keyArea.toList)))))) := by
  simp only [body, bodyStart, List.append_assoc]

theorem ofBody_body (header : VolumeHeader) :
    ofBody header.cleartext header.body = .ok header := by
  have mark := length_magic
  have front : header.body.take 4 = magic := by rw [body_eq, List.take_left' mark]
  have found : header.body.slice 4 2 = Bytes.ofNatLE 2 version := by
    rw [body_eq]
    exact Bytes.slice_middle mark (Bytes.length_ofNatLE 2 _)
  have dataSize : header.body.slice 8 8 = Bytes.ofUInt64 header.dataSize := by
    rw [body_eq, ← List.append_assoc, ← List.append_assoc]
    exact Bytes.slice_middle (by simp [mark]) (Bytes.length_ofUInt64 _)
  have areaCheck : header.body.slice 16 4 =
      Bytes.ofUInt32 (Checksum.checksum header.keyArea.toList) := by
    rw [body_eq, ← List.append_assoc, ← List.append_assoc, ← List.append_assoc]
    exact Bytes.slice_middle (by simp [mark, Bytes.length_ofUInt64]) (Bytes.length_ofUInt32 _)
  have start : header.body.take 172 = header.bodyStart := by
    rw [body, List.append_assoc, List.take_left' header.length_bodyStart]
  have startCheck : header.body.slice 172 4 =
      Bytes.ofUInt32 (Checksum.checksum header.bodyStart) := by
    rw [body, List.append_assoc]
    exact Bytes.slice_middle header.length_bodyStart (Bytes.length_ofUInt32 _)
  have keyArea : header.body.drop 176 = header.keyArea.toList := by
    rw [body, List.drop_left' (by simp [length_bodyStart, Bytes.length_ofUInt32])]
  have versionRead : Bytes.toNatLE (Bytes.ofNatLE 2 version) = version := by decide
  simp [ofBody, front, found, versionRead, dataSize, areaCheck, start, startCheck, keyArea,
    cleartext]

end VolumeHeader

/-! ### Encryption -/

namespace VolumeHeader

theorem decryptBody_encryptBody (key : HeaderKey) {body : Bytes} (whole : body.length % 16 = 0) :
    decryptBody key (encryptBody key body) = body := by
  rw [decryptBody, encryptBody, Aes.Block.split_join, keys, Xts.decryptBlocks_encryptBlocks,
    Aes.Block.join_split whole]

theorem length_encryptBody (key : HeaderKey) {body : Bytes} (whole : body.length % 16 = 0) :
    (encryptBody key body).length = body.length := by
  rw [encryptBody, Aes.Block.length_join, Xts.encryptBlocks, Xts.length_mask,
    Aes.Block.length_split whole]

theorem length_encryptBody_body (key : HeaderKey) (header : VolumeHeader) :
    (encryptBody key header.body).length = 432 := by
  rw [length_encryptBody key (by rw [length_body]), length_body]

theorem toList_sealWith (header : VolumeHeader) (key : HeaderKey) :
    (header.sealWith key).toList = header.cleartext.toBytes ++ encryptBody key header.body := by
  apply Octets.toList_ofBytes
  rw [List.length_append, Cleartext.length_toBytes, length_encryptBody_body]

theorem parse_sealWith (header : VolumeHeader) (key : HeaderKey) :
    Cleartext.parse (header.sealWith key).toList = .ok header.cleartext := by
  rw [toList_sealWith]
  exact header.cleartext.parse_toBytes_append (length_encryptBody_body key header)

theorem openWith_of_parse {key : HeaderKey} {bytes : Bytes} {cleartext : Cleartext}
    (parsed : Cleartext.parse bytes = .ok cleartext) :
    openWith key bytes = ofBody cleartext (decryptBody key (bytes.drop 80)) := by
  rw [openWith, parsed]
  rfl

/-- What was sealed with a key opens with it to the same header. -/
theorem openWith_sealWith (header : VolumeHeader) (key : HeaderKey) :
    openWith key (header.sealWith key).toList = .ok header := by
  have body : (header.sealWith key).toList.drop 80 = encryptBody key header.body := by
    rw [toList_sealWith, List.drop_left' header.cleartext.length_toBytes]
  rw [openWith_of_parse (header.parse_sealWith key), body,
    decryptBody_encryptBody key (by rw [length_body]), ofBody_body]

end VolumeHeader

end HeaderVault
