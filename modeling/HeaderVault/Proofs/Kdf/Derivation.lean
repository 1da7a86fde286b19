import HeaderVault.Kdf.Derivation
import HeaderVault.Proofs.Argon2.Fill

/-!
When keys can be derived.

The costs that a header can name are costs that Argon2 takes, its matrix is always filled, and the
salt of a header is long enough. So a credential that gives a secret gives a key for every salt and
all parameters (`deriveKeyWith_total`), provided that the legacy derivation gives one.
-/

namespace HeaderVault

/-- The legacy derivation refuses nothing. -/
def Primitives.LegacyTotal (primitives : Primitives) : Prop :=
  ∀ password salt iterations, ∃ key, primitives.legacy password salt iterations = .ok key

theorem Primitives.legacyTotal_standard : standard.LegacyTotal := fun _ _ _ => ⟨_, rfl⟩

/-- The costs of a header are costs of a derivation. -/
theorem KdfParams.exists_costs (params : KdfParams) {variant : Argon2.Variant}
    (algorithm : params.algorithm = .argon2 variant) :
    ∃ costs, Argon2.Params.new variant params.memory params.time params.lanes = .ok costs := by
  have uses : params.algorithm.usesMemory := by rw [algorithm]; rfl
  have passes : 0 < params.time.toNat := params.one_le_time
  unfold Argon2.Params.new
  rw [dif_pos (params.lanes_ok uses), dif_pos passes, dif_pos (params.memory_ok uses)]
  exact ⟨_, rfl⟩

/-- Argon2 gives a tag of every length it allows. -/
theorem Argon2.hash_total (digest : Digest) (params : Params) (inputs : Inputs) {n : Nat}
    (length : 4 ≤ n ∧ n < UInt32.size) (salt : 8 ≤ inputs.salt.length) :
    ∃ tag, hash digest params inputs n = .ok tag := by
  obtain ⟨matrix, begun⟩ := Instance.exists_new digest params inputs length salt
  obtain ⟨filled, done, -⟩ := Instance.fillMemory_leads params.threads matrix
  simp only [hash, begun, bind, Except.bind, done]
  exact ⟨_, rfl⟩

theorem deriveKeyWith_total {primitives : Primitives} (legacy : primitives.LegacyTotal)
    (threads : UInt32) {credential : Credential} {secret : Bytes}
    (known : credential.secret = .ok secret) (salt : Octets 64) (params : KdfParams) :
    ∃ key, deriveKeyWith primitives threads credential salt.toList params = .ok key := by
  unfold deriveKeyWith KdfTask.new
  rw [known]
  cases algorithm : params.algorithm with
  | pbkdf2 =>
      obtain ⟨key, derived⟩ := legacy secret salt.toList params.time
      simp only [bind, Except.bind, pure, Except.pure, KdfTask.run, derived]
      exact ⟨_, rfl⟩
  | argon2 variant =>
      obtain ⟨costs, allowed⟩ := params.exists_costs algorithm
      obtain ⟨tag, hashed⟩ := Argon2.hash_total primitives.digest (costs.withThreads threads)
        ⟨secret, salt.toList, [], []⟩ (n := 64) (by decide) (by simp)
      simp only [bind, Except.bind, pure, Except.pure, allowed, KdfTask.run, hashed]
      exact ⟨_, rfl⟩

theorem deriveKey_total {primitives : Primitives} (legacy : primitives.LegacyTotal)
    {credential : Credential} {secret : Bytes} (known : credential.secret = .ok secret)
    (salt : Octets 64) (params : KdfParams) :
    ∃ key, deriveKey primitives credential salt.toList params = .ok key :=
  deriveKeyWith_total legacy 1 known salt params

/-- What a key was derived from has a secret. -/
theorem exists_secret_of_deriveKey {primitives : Primitives} {credential : Credential} {salt : Bytes}
    {params : KdfParams} {key : HeaderKey}
    (derived : deriveKey primitives credential salt params = .ok key) :
    ∃ secret, credential.secret = .ok secret := by
  cases known : credential.secret with
  | ok secret => exact ⟨secret, rfl⟩
  | error error =>
      unfold deriveKey deriveKeyWith KdfTask.new at derived
      rw [known] at derived
      cases derived

end HeaderVault
