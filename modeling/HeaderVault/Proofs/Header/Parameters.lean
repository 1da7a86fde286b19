import HeaderVault.Proofs.Header.RoundTrip

/-!
The parameter block as a canonical code.

`KdfAlgorithm.Allows` says in numbers which costs an algorithm can have, and `KdfParams.new` takes
exactly these (`exists_new_iff`). A block is read when it has the right form and holds such costs
(`exists_ofBlock_iff`), and then it is the one way of writing what was read from it
(`ofBlock_eq_ok`). So blocks and usable parameters stand for each other one to one
(`ofBlock_exact`), and the front of a sealed header says what the header was sealed with.
-/

namespace HeaderVault

/-- The costs an algorithm can have: some time, and where memory counts, up to 2^24 - 1 lanes of at
least 8 KiB. -/
def KdfAlgorithm.Allows (algorithm : KdfAlgorithm) (memory time lanes : UInt32) : Prop :=
  1 ≤ time.toNat ∧
    (algorithm ≠ .pbkdf2 →
      1 ≤ lanes.toNat ∧ lanes.toNat ≤ 16777215 ∧ 8 * lanes.toNat ≤ memory.toNat)

theorem KdfAlgorithm.usesMemory_iff {algorithm : KdfAlgorithm} :
    algorithm.usesMemory = true ↔ algorithm ≠ .pbkdf2 := by
  cases algorithm <;> simp [usesMemory]

namespace KdfParams

variable {algorithm : KdfAlgorithm} {memory time lanes : UInt32} {block : Bytes} {params : KdfParams}

theorem allows (params : KdfParams) :
    params.algorithm.Allows params.memory params.time params.lanes := by
  refine ⟨params.one_le_time, fun uses => ?_⟩
  have uses := KdfAlgorithm.usesMemory_iff.mpr uses
  obtain ⟨pos, le⟩ := params.lanes_ok uses
  exact ⟨pos, le, params.memory_ok uses⟩

theorem exists_new_iff :
    (∃ params, new algorithm memory time lanes = .ok params) ↔
      algorithm.Allows memory time lanes := by
  constructor
  · rintro ⟨params, usable⟩
    obtain ⟨rfl, rfl, rfl, rfl⟩ := eq_of_new usable
    exact params.allows
  · rintro ⟨timeOk, costs⟩
    have lanesOk : algorithm.usesMemory → 0 < lanes.toNat ∧ lanes.toNat ≤ Argon2.maxLanes := by
      intro uses
      obtain ⟨pos, le, -⟩ := costs (KdfAlgorithm.usesMemory_iff.mp uses)
      exact ⟨pos, le⟩
    have memoryOk : algorithm.usesMemory → 8 * lanes.toNat ≤ memory.toNat := fun uses =>
      (costs (KdfAlgorithm.usesMemory_iff.mp uses)).2.2
    exact ⟨_, (KdfParams.mk algorithm memory time lanes timeOk lanesOk memoryOk).new_self⟩

/-- What is read from a block is written as this block, and a block that parameters are written as
is read to them. -/
theorem ofBlock_eq_ok : ofBlock block = .ok params ↔ params.toBlock = block := by
  constructor
  · exact toBlock_of_ofBlock
  · rintro rfl
    exact ofBlock_toBlock params

theorem toBlock_injective {params other : KdfParams} (same : params.toBlock = other.toBlock) :
    params = other := by
  have read := ofBlock_toBlock params
  rw [same, ofBlock_toBlock] at read
  cases read
  rfl

/-- A block of the right length, with the number of an algorithm and zeros behind it, is read as far
as its costs can be used. -/
theorem ofBlock_of_new (size : block.length = 16) (known : algorithm.id = block.getD 0 0)
    (reserved : block.slice 1 3 = [0, 0, 0])
    (usable : new algorithm (Bytes.toUInt32 (block.slice 4 4)) (Bytes.toUInt32 (block.slice 8 4))
      (Bytes.toUInt32 (block.slice 12 4)) = .ok params) :
    ofBlock block = .ok params := by
  have found : KdfAlgorithm.ofId? (block.getD 0 0) = some algorithm := by
    rw [← known]
    exact KdfAlgorithm.ofId?_id algorithm
  simp only [ofBlock, size, found, reserved, usable, ne_eq, not_true_eq_false, if_false]
  rfl

theorem exists_ofBlock_iff :
    (∃ params, ofBlock block = .ok params) ↔
      block.length = 16 ∧ block.slice 1 3 = [0, 0, 0] ∧ ∃ algorithm : KdfAlgorithm,
        algorithm.id = block.getD 0 0 ∧ ∃ params,
          new algorithm (Bytes.toUInt32 (block.slice 4 4)) (Bytes.toUInt32 (block.slice 8 4))
            (Bytes.toUInt32 (block.slice 12 4)) = .ok params := by
  constructor
  · rintro ⟨params, read⟩
    obtain ⟨size, id, reserved, memory, time, lanes⟩ := fields_of_ofBlock read
    refine ⟨size, reserved, params.algorithm, id, params, ?_⟩
    rw [← memory, ← time, ← lanes]
    exact params.new_self
  · rintro ⟨size, reserved, algorithm, known, params, usable⟩
    exact ⟨params, ofBlock_of_new size known reserved usable⟩

/-- A block is a canonical code of exactly the usable parameters. It is read when it has 16 bytes,
the number of an algorithm, three zero bytes and costs that can be used, and it is then what the
parameters that are read are written as. All parameters there are can be made of their costs, are
read back from their block, and share it with no others. So the front of a sealed header gives the
salt and the parameters it was sealed with. -/
theorem ofBlock_exact (block : Bytes) (params : KdfParams) :
    ((∃ read, ofBlock block = .ok read) ↔
      block.length = 16 ∧ block.slice 1 3 = [0, 0, 0] ∧ ∃ algorithm : KdfAlgorithm,
        algorithm.id = block.getD 0 0 ∧ ∃ read,
          new algorithm (Bytes.toUInt32 (block.slice 4 4)) (Bytes.toUInt32 (block.slice 8 4))
            (Bytes.toUInt32 (block.slice 12 4)) = .ok read) ∧
      (∀ algorithm memory time lanes,
        (∃ made, new algorithm memory time lanes = .ok made) ↔
          algorithm.Allows memory time lanes) ∧
      (ofBlock block = .ok params ↔ params.toBlock = block) ∧
      new params.algorithm params.memory params.time params.lanes = .ok params ∧
      ofBlock params.toBlock = .ok params ∧
      (∀ other : KdfParams, params.toBlock = other.toBlock ↔ params = other) ∧
      ∀ (header : VolumeHeader) (key : HeaderKey),
        Cleartext.parse (header.sealWith key).toList = .ok ⟨header.salt, header.kdf⟩ := by
  refine ⟨exists_ofBlock_iff, fun _ _ _ _ => exists_new_iff, ofBlock_eq_ok, params.new_self,
    ofBlock_toBlock params, fun other => ⟨toBlock_injective, ?_⟩, VolumeHeader.parse_sealWith⟩
  rintro rfl
  rfl

end KdfParams

end HeaderVault
