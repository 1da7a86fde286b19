import HeaderVault.Bytes

/-!
The hash of any length that Argon2 builds from a digest of at most 64 bytes.

Up to 64 bytes it is the digest itself. A longer one is a chain of 64-byte digests, each of which
gives its first half, and a last digest of the 33 to 64 bytes that are then still missing.
-/

namespace HeaderVault.Argon2

/-- A digest of any length of a message. -/
abbrev Digest := (n : Nat) → Bytes → Octets n

namespace LongHash

/-- The last `n` bytes, from the link of the chain before them. -/
def rest (digest : Digest) (n : Nat) (link : Octets 64) : Bytes :=
  if n ≤ 64 then
    (digest n link.toList).toList
  else
    let next := digest 64 link.toList
    next.toList.take 32 ++ rest digest (n - 32) next

theorem length_rest (digest : Digest) (n : Nat) (link : Octets 64) :
    (rest digest n link).length = n := by
  fun_induction rest digest n link with
  | case1 => simp
  | case2 n link large next ih =>
      simp only [List.length_append, List.length_take, Vector.length_toList, ih]
      omega

/-- The bytes of the hash: the length that is asked for goes before the message. -/
def bytes (digest : Digest) (n : Nat) (message : Bytes) : Bytes :=
  let message := Bytes.ofNatLE 4 n ++ message
  if n ≤ 64 then
    (digest n message).toList
  else
    let first := digest 64 message
    first.toList.take 32 ++ rest digest (n - 32) first

theorem length_bytes (digest : Digest) (n : Nat) (message : Bytes) :
    (bytes digest n message).length = n := by
  unfold bytes
  dsimp only
  split
  · simp
  · simp only [List.length_append, List.length_take, Vector.length_toList, length_rest]
    omega

/-- The hash of `n` bytes. -/
def hash (digest : Digest) (n : Nat) (message : Bytes) : Octets n :=
  ⟨(bytes digest n message).toArray, by simp [length_bytes]⟩

end LongHash

end HeaderVault.Argon2
