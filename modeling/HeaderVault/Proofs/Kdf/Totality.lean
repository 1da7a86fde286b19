import HeaderVault.Proofs.Argon2.Derivation
import HeaderVault.Proofs.Credential
import HeaderVault.Proofs.Header.Parameters
import HeaderVault.Proofs.Kdf.Derivation

/-!
A key can be derived for every header that can be read.

`checkedKey` goes from the bytes of a header to its key with every operation checked: the costs are
looked at once by the header and once by Argon2, the keyfiles are mixed with their look-ups, and a
derivation runs as in `Argon2.Checked`. All of it has the value of the derivation without the checks
(`checkedDeriveKeyWith_eq`), for which there is a key (`deriveKeyWith_total`). Where a credential
has no secret, that is what is said, and no digest has been asked for (`checkedDeriveKeyWith_refuses`).
-/

namespace HeaderVault

open Argon2 (Checked)
open Argon2.Checked (PartialDigest limited refusing ok_bind follows_refusing)

/-- The functions that derivations are built from, where each of them may refuse or stop. -/
structure CheckedPrimitives where
  digest : PartialDigest
  legacy : (password salt : Bytes) → (iterations : UInt32) → Checked (Octets 64)

/-- A digest of up to 64 bytes, and a legacy derivation as it is. -/
def Primitives.checked (primitives : Primitives) : CheckedPrimitives where
  digest := limited primitives.digest
  legacy := fun password salt iterations => refusing (primitives.legacy password salt iterations)

/-- The costs are looked at once more before a credential is mixed. -/
def KdfParams.recheck (params : KdfParams) : Checked KdfParams :=
  refusing ((new params.algorithm params.memory params.time params.lanes).mapError .invalidParams)

def checkedDeriveKeyWith (primitives : CheckedPrimitives) (threads : UInt32)
    (credential : Credential) (salt : Bytes) (params : KdfParams) : Checked HeaderKey := do
  let params ← params.recheck
  let secret ← credential.checkedSecret
  match params.algorithm with
  | .argon2 variant =>
      let costs ← refusing (Argon2.Params.new variant params.memory params.time params.lanes)
      return ⟨← Argon2.Checked.hash primitives.digest (costs.withThreads threads)
        ⟨secret, salt, [], []⟩ 64⟩
  | .pbkdf2 => return ⟨← primitives.legacy secret salt params.time⟩

/-- Reads the front of a header and derives the key for it. -/
def checkedKey (primitives : CheckedPrimitives) (threads : UInt32) (credential : Credential)
    (header : Bytes) : Checked HeaderKey := do
  let cleartext ← refusing (Cleartext.parse header)
  checkedDeriveKeyWith primitives threads credential cleartext.salt.toList cleartext.kdf

/-! ### Costs -/

/-- Argon2 takes the costs that headers can name, and no others. -/
theorem Argon2.Params.exists_new_iff {variant : Variant} {memory passes lanes : UInt32} :
    (∃ costs, new variant memory passes lanes = .ok costs) ↔
      (KdfAlgorithm.argon2 variant).Allows memory passes lanes := by
  constructor
  · rintro ⟨costs, allowed⟩
    obtain ⟨rfl, rfl, rfl, rfl⟩ := eq_of_new allowed
    exact ⟨costs.passes_pos, fun _ => ⟨costs.lanes_pos, costs.lanes_le, costs.memory_le⟩⟩
  · rintro ⟨passesOk, costs⟩
    obtain ⟨pos, le, memoryOk⟩ := costs nofun
    have lanesOk : 0 < lanes.toNat ∧ lanes.toNat ≤ maxLanes := ⟨pos, le⟩
    have passesOk : 0 < passes.toNat := passesOk
    rw [new, dif_pos lanesOk, dif_pos passesOk, dif_pos memoryOk]
    exact ⟨_, rfl⟩

theorem Argon2.Params.two_le_share (costs : Params) :
    2 ≤ costs.memory.toNat / (4 * costs.lanes.toNat) := by
  have pos := costs.lanes_pos
  have enough := costs.memory_le
  rw [Nat.le_div_iff_mul_le (by omega)]
  omega

theorem KdfParams.recheck_eq (params : KdfParams) : params.recheck = .ok params := by
  rw [recheck, params.new_self]
  rfl

/-! ### Keys -/

theorem checkedDeriveKeyWith_eq (primitives : Primitives) (threads : UInt32)
    (credential : Credential) (salt : Bytes) (params : KdfParams) :
    checkedDeriveKeyWith primitives.checked threads credential salt params =
      refusing (deriveKeyWith primitives threads credential salt params) := by
  rw [checkedDeriveKeyWith, params.recheck_eq, ok_bind, credential.checkedSecret_eq, deriveKeyWith,
    KdfTask.new]
  cases credential.secret with
  | error error => rfl
  | ok secret =>
      cases algorithm : params.algorithm with
      | pbkdf2 =>
          exact (follows_refusing.bind (primitives.legacy secret salt params.time) fun key =>
            pure (HeaderKey.mk key)).symm
      | argon2 variant =>
          dsimp only
          cases Argon2.Params.new variant params.memory params.time params.lanes with
          | error error => rfl
          | ok costs =>
              have run := follows_refusing.bind (Argon2.hash primitives.digest
                (costs.withThreads threads) ⟨secret, salt, [], []⟩ 64) fun tag =>
                  pure (HeaderKey.mk tag)
              rw [← Argon2.Checked.hash_eq] at run
              exact run.symm

theorem checkedDeriveKeyWith_refuses (primitives : CheckedPrimitives) (threads : UInt32)
    {credential : Credential} {error : Error} (refused : credential.secret = .error error)
    (salt : Bytes) (params : KdfParams) :
    checkedDeriveKeyWith primitives threads credential salt params = .error (.refused error) := by
  rw [checkedDeriveKeyWith, params.recheck_eq, ok_bind, credential.checkedSecret_eq, refused]
  rfl

theorem deriveKeyWith_refuses (primitives : Primitives) (threads : UInt32)
    {credential : Credential} {error : Error} (refused : credential.secret = .error error)
    (salt : Bytes) (params : KdfParams) :
    deriveKeyWith primitives threads credential salt params = .error error := by
  rw [deriveKeyWith, KdfTask.new, refused]
  rfl

/-- Every header that can be read can be derived for, by every number of workers and with every
credential that has a secret: nothing on the way from the bytes of the header to the 64 bytes of its
key refuses or stops. A credential without a secret is refused for what it has none, before any
digest or legacy derivation. That is so because headers and Argon2 allow the same costs, and allowed
costs make segments of two blocks or more, in a memory that can be filled. -/
theorem parsed_header_derives {header : Bytes} {cleartext : Cleartext}
    (parsed : Cleartext.parse header = .ok cleartext) {primitives : Primitives}
    (legacy : primitives.LegacyTotal) (threads : UInt32) (credential : Credential) :
    (∀ secret, credential.secret = .ok secret → ∃ key : HeaderKey,
      deriveKeyWith primitives threads credential cleartext.salt.toList cleartext.kdf = .ok key ∧
        checkedKey primitives.checked threads credential header = .ok key ∧
        key.bytes.toList.length = 64) ∧
      (∀ error, credential.secret = .error error →
        deriveKeyWith primitives threads credential cleartext.salt.toList cleartext.kdf =
            .error error ∧
          ∀ others : CheckedPrimitives,
            checkedKey others threads credential header = .error (.refused error)) ∧
      (∀ variant memory passes lanes,
        (∃ params, KdfParams.new (.argon2 variant) memory passes lanes = .ok params) ↔
          ∃ costs, Argon2.Params.new variant memory passes lanes = .ok costs) ∧
      ∀ costs : Argon2.Params, 2 ≤ costs.memory.toNat / (4 * costs.lanes.toNat) ∧
        Argon2.Checked.geometry costs = .ok (.ofParams costs) := by
  have front : ∀ others : CheckedPrimitives, checkedKey others threads credential header =
      checkedDeriveKeyWith others threads credential cleartext.salt.toList cleartext.kdf :=
    fun others => by
      rw [checkedKey, parsed]
      rfl
  refine ⟨fun secret known => ?_, fun error refused => ⟨?_, fun others => ?_⟩, ?_, fun costs => ?_⟩
  · obtain ⟨key, derived⟩ := deriveKeyWith_total legacy threads known cleartext.salt cleartext.kdf
    refine ⟨key, derived, ?_, Vector.length_toList⟩
    rw [front, checkedDeriveKeyWith_eq, derived]
    rfl
  · exact deriveKeyWith_refuses primitives threads refused _ _
  · rw [front]
    exact checkedDeriveKeyWith_refuses others threads refused _ _
  · intro variant memory passes lanes
    rw [KdfParams.exists_new_iff, Argon2.Params.exists_new_iff]
  · exact ⟨costs.two_le_share, Argon2.Checked.geometry_eq costs⟩

/-- The usual costs with a salt of zeros. -/
def Cleartext.standard : Cleartext := ⟨Octets.zero 64, .standard⟩

/-- A header with this front. -/
def standardHeader : Bytes := Cleartext.standard.toBytes ++ List.replicate 432 0

def Credential.letter : Credential := ⟨[112], []⟩

/-- The same password with an empty keyfile. -/
def Credential.letterEmpty : Credential := ⟨[112], [⟨"a", []⟩]⟩

/-- Three workers derive the key for the header from the password alone; with the empty keyfile
nothing is derived by any means. -/
theorem parsed_header_derives_standard :
    Cleartext.parse standardHeader = .ok .standard ∧
      (∃ key, checkedKey Primitives.standard.checked 3 .letter standardHeader = .ok key) ∧
      ∀ others : CheckedPrimitives, checkedKey others 3 .letterEmpty standardHeader =
        .error (.refused (.keyfile (.empty "a"))) := by
  have parsed : Cleartext.parse standardHeader = .ok .standard :=
    Cleartext.standard.parse_toBytes_append List.length_replicate
  have legacy := Primitives.legacyTotal_standard
  refine ⟨parsed, ?_, ?_⟩
  · obtain ⟨key, -, derived, -⟩ :=
      (parsed_header_derives parsed legacy 3 .letter).1 [112] rfl
    exact ⟨key, derived⟩
  · exact ((parsed_header_derives parsed legacy 3 .letterEmpty).2.1 _ rfl).2

end HeaderVault
