import HeaderVault.Argon2.Instance
import HeaderVault.Digest.Blake2b
import Mathlib.Data.List.Nodup

/-!
What is hashed for a derivation tells everything that the derivation is asked for.

A number of four bytes and a byte string after its length can be told from what follows them
(`number_append_inj`, `lengthPrefixed_append_inj`), so the initial message is read in one way only
(`initialMessage_inj`), and so is the message for a cell. `Request` is all that a derivation is
asked for, and `messages_separate` says that two requests that are begun have the same message only
if they are the same.
-/

namespace HeaderVault

namespace Bytes

theorem ofNatLE_inj (width : Nat) {n m : Nat} (fits : n < capacity width)
    (fits' : m < capacity width) (same : ofNatLE width n = ofNatLE width m) : n = m := by
  have numbers := congrArg toNatLE same
  rwa [toNatLE_ofNatLE, toNatLE_ofNatLE, Nat.mod_eq_of_lt fits, Nat.mod_eq_of_lt fits'] at numbers

end Bytes

namespace Argon2

/-! ### Fields of a message -/

section

variable {n m : Nat} {rest rest' : Bytes}

theorem number_append_inj (fits : n < UInt32.size) (fits' : m < UInt32.size)
    (same : Bytes.ofNatLE 4 n ++ rest = Bytes.ofNatLE 4 m ++ rest') : n = m ∧ rest = rest' := by
  obtain ⟨numbers, behind⟩ := List.append_inj same (by simp)
  exact ⟨Bytes.ofNatLE_inj 4 fits fits' numbers, behind⟩

theorem word_append_inj {a b : UInt32}
    (same : Bytes.ofUInt32 a ++ rest = Bytes.ofUInt32 b ++ rest') : a = b ∧ rest = rest' := by
  obtain ⟨numbers, behind⟩ := number_append_inj a.toNat_lt b.toNat_lt same
  exact ⟨UInt32.toNat_inj.mp numbers, behind⟩

/-- The length in front says where a byte string ends. -/
theorem lengthPrefixed_append_inj {a b : Bytes} (short : a.length < UInt32.size)
    (short' : b.length < UInt32.size)
    (same : lengthPrefixed a ++ rest = lengthPrefixed b ++ rest') : a = b ∧ rest = rest' := by
  rw [lengthPrefixed, lengthPrefixed, List.append_assoc, List.append_assoc] at same
  obtain ⟨lengths, behind⟩ := number_append_inj short short' same
  exact List.append_inj behind lengths

end

/-! ### The initial message -/

/-- Every byte string has a length of 32 bits. -/
structure Inputs.Short (inputs : Inputs) : Prop where
  password : inputs.password.length < UInt32.size
  salt : inputs.salt.length < UInt32.size
  secret : inputs.secret.length < UInt32.size
  associated : inputs.associated.length < UInt32.size

theorem Variant.code_lt (variant : Variant) : variant.code < UInt32.size := by
  cases variant <;> decide

theorem Variant.code_inj {variant other : Variant} (same : variant.code = other.code) :
    variant = other := by
  cases variant <;> cases other <;> first | rfl | exact absurd same (by decide)

/-- The initial message can be read in one way only. -/
theorem initialMessage_inj {params params' : Params} {inputs inputs' : Inputs} {n n' : Nat}
    (short : inputs.Short) (short' : inputs'.Short) (fits : n < UInt32.size)
    (fits' : n' < UInt32.size)
    (same : initialMessage params inputs n = initialMessage params' inputs' n') :
    params.lanes = params'.lanes ∧ n = n' ∧ params.memory = params'.memory ∧
      params.passes = params'.passes ∧ params.variant = params'.variant ∧ inputs = inputs' := by
  simp only [initialMessage, List.append_assoc] at same
  obtain ⟨lanes, same⟩ := word_append_inj same
  obtain ⟨length, same⟩ := number_append_inj fits fits' same
  obtain ⟨memory, same⟩ := word_append_inj same
  obtain ⟨passes, same⟩ := word_append_inj same
  have same := List.append_cancel_left same
  obtain ⟨variant, same⟩ := number_append_inj params.variant.code_lt params'.variant.code_lt same
  obtain ⟨password, same⟩ := lengthPrefixed_append_inj short.password short'.password same
  obtain ⟨salt, same⟩ := lengthPrefixed_append_inj short.salt short'.salt same
  obtain ⟨secret, same⟩ := lengthPrefixed_append_inj short.secret short'.secret same
  -- the last string is followed by nothing
  obtain ⟨associated, -⟩ := lengthPrefixed_append_inj short.associated short'.associated
    (congrArg (· ++ []) same)
  refine ⟨lanes, length, memory, passes, Variant.code_inj variant, ?_⟩
  cases inputs
  cases inputs'
  simp only [Inputs.mk.injEq]
  exact ⟨password, salt, secret, associated⟩

/-! ### Messages for cells -/

theorem cellMessage_injective (initial : Octets 64) : Function.Injective (cellMessage initial) := by
  rintro ⟨lane, index⟩ ⟨lane', index'⟩ same
  simp only [cellMessage, List.append_assoc] at same
  obtain ⟨indices, same⟩ := word_append_inj (List.append_cancel_left same)
  obtain ⟨lanes, -⟩ := word_append_inj (congrArg (· ++ []) same)
  rw [lanes, indices]

/-- No cell occurs twice among the first ones. -/
theorem nodup_firstCells (g : Geometry) : (firstCells g).Nodup := by
  have number : ∀ lane ∈ List.range g.lanes.toNat, (UInt32.ofNat lane).toNat = lane := by
    intro lane within
    exact UInt32.toNat_ofNat_of_lt' (Nat.lt_trans (List.mem_range.mp within) g.lanes.toNat_lt)
  refine List.nodup_flatMap.mpr ⟨fun lane _ => ?_, ?_⟩
  · simp
  · refine List.nodup_range.imp_of_mem ?_
    intro lane other within within' different cell mem mem'
    have lanes : ∀ {lane}, cell ∈ [Cell.mk (.ofNat lane) 0, ⟨.ofNat lane, 1⟩] →
        cell.lane = UInt32.ofNat lane := by
      intro lane mem
      rcases List.mem_cons.mp mem with rfl | mem
      · rfl
      · rw [List.mem_singleton.mp mem]
    have same := congrArg UInt32.toNat ((lanes mem).symm.trans (lanes mem'))
    rw [number lane within, number other within'] at same
    exact different same

/-! ### Requests -/

/-- All that a derivation is asked for. -/
structure Request where
  variant : Variant
  memory : UInt32
  passes : UInt32
  lanes : UInt32
  length : Nat
  inputs : Inputs

/-- Makes the parameters, with a number of workers that counts for nothing else, and begins the
derivation. -/
def Request.begin (request : Request) (digest : Digest) (threads : UInt32) :
    Except Error (Params × Instance) := do
  let costs ← Params.new request.variant request.memory request.passes request.lanes
  let params := costs.withThreads threads
  return (params, ← Instance.new digest params request.inputs request.length)

section

variable {request request' : Request} {digest digest' : Digest} {threads threads' : UInt32}
variable {params params' : Params} {state state' : Instance}

theorem Instance.length_of_new {inputs : Inputs} {n : Nat}
    (made : Instance.new digest params inputs n = .ok state) : n < UInt32.size := by
  unfold Instance.new at made
  split at made
  · cases made
  · next inRange => omega

/-- A derivation that is begun has the costs and the length that it was asked for. -/
theorem Request.eq_of_begin (begun : request.begin digest threads = .ok (params, state)) :
    params.variant = request.variant ∧ params.memory = request.memory ∧
      params.passes = request.passes ∧ params.lanes = request.lanes ∧
      request.length < UInt32.size := by
  obtain ⟨costs, usable, begun⟩ := exists_of_bind begun
  obtain ⟨begunState, made, begun⟩ := exists_of_bind begun
  cases begun
  obtain ⟨variant, memory, passes, lanes⟩ := Params.eq_of_new usable
  exact ⟨variant, memory, passes, lanes, Instance.length_of_new made⟩

/-- Derivations that are begun, with whatever numbers of workers, hash the same initial message only
if they are asked for the same. Whatever the initial hash is, the messages for different cells are
different, and no two of the first blocks of a matrix are made from the same message. -/
theorem messages_separate (begun : request.begin digest threads = .ok (params, state))
    (begun' : request'.begin digest' threads' = .ok (params', state'))
    (short : request.inputs.Short) (short' : request'.inputs.Short) :
    (initialMessage params request.inputs request.length =
        initialMessage params' request'.inputs request'.length ↔ request = request') ∧
      ∀ initial : Octets 64, Function.Injective (cellMessage initial) ∧
        ((firstCells state.geometry).map (cellMessage initial)).Nodup := by
  obtain ⟨variant, memory, passes, lanes, fits⟩ := Request.eq_of_begin begun
  obtain ⟨variant', memory', passes', lanes', fits'⟩ := Request.eq_of_begin begun'
  refine ⟨⟨fun same => ?_, ?_⟩, fun initial => ⟨cellMessage_injective initial, ?_⟩⟩
  · obtain ⟨sameLanes, sameLength, sameMemory, samePasses, sameVariant, sameInputs⟩ :=
      initialMessage_inj short short' fits fits' same
    rw [lanes, lanes'] at sameLanes
    rw [memory, memory'] at sameMemory
    rw [passes, passes'] at samePasses
    rw [variant, variant'] at sameVariant
    cases request
    cases request'
    simp only [Request.mk.injEq]
    exact ⟨sameVariant, sameMemory, samePasses, sameLanes, sameLength, sameInputs⟩
  · rintro rfl
    simp only [initialMessage, variant, variant', memory, memory', passes, passes', lanes, lanes']
  · exact (nodup_firstCells _).map (cellMessage_injective initial)

end

/-! ### A byte that changes sides -/

namespace Request

/-- Ten bytes, the first of which are the password and the others the salt. -/
def divided (password : Nat) : Request :=
  let bytes := (List.range 10).map UInt8.ofNat
  ⟨.hybrid, 16, 1, 2, 32, ⟨bytes.take password, bytes.drop password, [], []⟩⟩

theorem divided_short (password : Nat) : (divided password).inputs.Short := by
  have large : 10 < UInt32.size := by decide
  constructor
  · simp only [divided, List.length_take, List.length_map, List.length_range]
    omega
  · simp only [divided, List.length_drop, List.length_map, List.length_range]
    omega
  · exact Nat.zero_lt_of_lt large
  · exact Nat.zero_lt_of_lt large

end Request

/-- It can be seen whether a byte belongs to the password or to the salt. -/
theorem messages_separate_divided :
    ∃ params state params' state',
      (Request.divided 2).begin Digest.Blake2b.digest 1 = .ok (params, state) ∧
      (Request.divided 1).begin Digest.Blake2b.digest 2 = .ok (params', state') ∧
      initialMessage params (Request.divided 2).inputs 32 ≠
        initialMessage params' (Request.divided 1).inputs 32 ∧
      ((firstCells state.geometry).map (cellMessage (Octets.zero 64))).Nodup := by
  have two : ∃ params state,
      (Request.divided 2).begin Digest.Blake2b.digest 1 = .ok (params, state) := ⟨_, _, rfl⟩
  have one : ∃ params state,
      (Request.divided 1).begin Digest.Blake2b.digest 2 = .ok (params, state) := ⟨_, _, rfl⟩
  obtain ⟨params, state, begun⟩ := two
  obtain ⟨params', state', begun'⟩ := one
  obtain ⟨separate, cells⟩ :=
    messages_separate begun begun' (Request.divided_short 2) (Request.divided_short 1)
  refine ⟨params, state, params', state', begun, begun', fun same => ?_, (cells _).2⟩
  have passwords := congrArg (·.inputs.password) (separate.mp same)
  exact absurd passwords (by decide)

end Argon2

end HeaderVault
