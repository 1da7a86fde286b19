import HeaderVault.Digest.Blake2b
import HeaderVault.Proofs.Argon2.Derivation

/-!
The hash of any length in closed form, and how its bytes get into a buffer.

A hash of more than 64 bytes is the first halves of the links of a chain of digests, followed by one
more digest that is at least half a link long (`LongHash.closed`, `LongHash.last_bounds`). How many
links there are is a quotient that is rounded up, less two (`LongHash.links`): a hash that is 32
bytes longer has one link more.

The bytes are written into a buffer of their number, from front to back. A `Buffer` counts for each
of its bytes how often it was written; the place of the next write only ever moves on by what was
written last, so that in the end every byte was written once (`Buffer.fillFrom_eq`).
-/

namespace HeaderVault.Argon2

open Checked (PartialDigest limited limited_eq ok_bind)

namespace LongHash

/-! ### The chain -/

/-- The links of a chain, each of them the digest of the one before. -/
def link (digest : Digest) (first : Octets 64) : Nat → Octets 64
  | 0 => first
  | i + 1 => digest 64 (link digest first i).toList

/-- How many links give their first half to a hash of `n` bytes. -/
def links (n : Nat) : Nat := (n + 31) / 32 - 2

/-- The first halves of the first links. -/
def halves (digest : Digest) (first : Octets 64) (count : Nat) : Bytes :=
  (List.range count).flatMap fun i => (link digest first i).toList.take 32

/-- The hash as it is defined in RFC 9106: up to 64 bytes are one digest, and of a longer hash the
last digest has what the first halves of the links before it leave. -/
def closed (digest : Digest) (n : Nat) (message : Bytes) : Bytes :=
  let message := Bytes.ofNatLE 4 n ++ message
  if n ≤ 64 then
    (digest n message).toList
  else
    let first := digest 64 message
    halves digest first (links n) ++
      (digest (n - 32 * links n) (link digest first (links n - 1)).toList).toList

variable (digest : Digest)

/-- A chain without its first link is the chain of the second one. -/
theorem link_digest (first : Octets 64) (i : Nat) :
    link digest (digest 64 first.toList) i = link digest first (i + 1) := by
  induction i with
  | zero => rfl
  | succ i ih => exact congrArg (fun link : Octets 64 => digest 64 link.toList) ih

theorem halves_succ (first : Octets 64) (count : Nat) :
    halves digest first (count + 1) =
      first.toList.take 32 ++ halves digest (digest 64 first.toList) count := by
  simp [halves, List.range_succ_eq_map, List.flatMap_map, link, link_digest]

theorem links_of_le {n : Nat} (short : n ≤ 64) : links n = 0 := by
  rw [links]
  omega

/-- Half a link more is one link more. -/
theorem links_of_lt {n : Nat} (long : 64 < n) : links n = links (n - 32) + 1 := by
  rw [links, links]
  omega

/-- The last digest is more than half a link and at most a whole one. -/
theorem last_bounds {n : Nat} (long : 64 < n) :
    33 ≤ n - 32 * links n ∧ n - 32 * links n ≤ 64 := by
  rw [links]
  omega

/-- From any link on, the last bytes are first halves and a digest of what is then missing. -/
theorem rest_eq (n : Nat) (first : Octets 64) :
    rest digest n first =
      halves digest (digest 64 first.toList) (links n) ++
        (digest (n - 32 * links n) (link digest first (links n)).toList).toList := by
  fun_induction rest digest n first with
  | case1 n first short =>
      rw [links_of_le short]
      rfl
  | case2 n first long next ih =>
      have long : 64 < n := Nat.lt_of_not_le long
      have missing : n - 32 - 32 * links (n - 32) = n - 32 * links n := by
        rw [links_of_lt long]
        omega
      rw [ih, missing, links_of_lt long, halves_succ, List.append_assoc, link_digest]

theorem bytes_eq_closed (n : Nat) (message : Bytes) :
    bytes digest n message = closed digest n message := by
  unfold bytes closed
  dsimp only
  split
  · rfl
  · next long =>
    have long : 64 < n := Nat.lt_of_not_le long
    have missing : n - 32 - 32 * links (n - 32) = n - 32 * links n := by
      rw [links_of_lt long]
      omega
    rw [rest_eq, missing, links_of_lt long, halves_succ, List.append_assoc, Nat.add_sub_cancel]

end LongHash

/-! ### Buffers -/

/-- A byte of a buffer, with how often it was written. -/
structure Buffered where
  byte : UInt8
  writes : Nat
  deriving DecidableEq, Repr

def Buffered.overwrite (old : Buffered) (byte : UInt8) : Buffered := ⟨byte, old.writes + 1⟩

abbrev Buffer := List Buffered

namespace Buffer

/-- Bytes that were not written yet. -/
def former (bytes : Bytes) : Buffer := bytes.map fun byte => ⟨byte, 0⟩

/-- Bytes that were written once. -/
def once (bytes : Bytes) : Buffer := bytes.map fun byte => ⟨byte, 1⟩

/-- Writes bytes from a place on, which must have room for them. -/
def write (buffer : Buffer) (place : Nat) (bytes : Bytes) : Checked Buffer :=
  if place + bytes.length ≤ buffer.length then
    .ok (buffer.take place ++
      (List.zipWith Buffered.overwrite (buffer.drop place) bytes ++
        buffer.drop (place + bytes.length)))
  else
    .error .aborted

/-- Writes the rest of a buffer of `n` bytes from a place on, which must not lie behind its end. -/
def fillFrom (digest : PartialDigest) (n place : Nat) (link : Octets 64) (buffer : Buffer) :
    Checked Buffer :=
  if n < place then
    .error .aborted
  else if 64 < n - place then do
    let next ← digest 64 link.toList
    let buffer ← buffer.write place (next.toList.take 32)
    fillFrom digest n (place + 32) next buffer
  else do
    let last ← digest (n - place) link.toList
    buffer.write place last.toList
termination_by n - place

/-- Writes the hash of a message that is as long as the buffer. -/
def fill (digest : PartialDigest) (message : Bytes) (buffer : Buffer) : Checked Buffer :=
  let n := buffer.length
  let message := Bytes.ofNatLE 4 n ++ message
  if n ≤ 64 then do
    let all ← digest n message
    buffer.write 0 all.toList
  else do
    let first ← digest 64 message
    let buffer ← buffer.write 0 (first.toList.take 32)
    fillFrom digest n 32 first buffer

@[simp]
theorem length_former (bytes : Bytes) : (former bytes).length = bytes.length := List.length_map _

@[simp]
theorem length_once (bytes : Bytes) : (once bytes).length = bytes.length := List.length_map _

@[simp]
theorem once_append (first second : Bytes) : once (first ++ second) = once first ++ once second :=
  List.map_append

theorem zipWith_overwrite {old bytes : Bytes} (fits : bytes.length ≤ old.length) :
    List.zipWith Buffered.overwrite (former old) bytes = once bytes := by
  induction bytes generalizing old with
  | nil => simp [once]
  | cons byte rest ih =>
      cases old with
      | nil => simp at fits
      | cons first old =>
          have fits : rest.length ≤ old.length := Nat.le_of_succ_le_succ fits
          exact congrArg _ (ih fits)

/-- What is written behind a part of a buffer stands there once, and what is behind it is as it
was. -/
theorem write_eq {before : Buffer} {place : Nat} (here : before.length = place) {old bytes : Bytes}
    (fits : bytes.length ≤ old.length) :
    write (before ++ former old) place bytes =
      .ok (before ++ once bytes ++ former (old.drop bytes.length)) := by
  have room : place + bytes.length ≤ (before ++ former old).length := by
    simp only [List.length_append, length_former]
    omega
  have behind : (before ++ former old).drop (place + bytes.length) =
      former (old.drop bytes.length) := by
    rw [← here, List.drop_length_add_append, former, former, List.map_drop]
  rw [write, if_pos room, List.take_left' here, List.drop_left' here, zipWith_overwrite fits, behind,
    List.append_assoc]

/-- Nothing is left of what was there when as many bytes are written. -/
theorem write_all {before : Buffer} {place : Nat} (here : before.length = place) {old bytes : Bytes}
    (same : old.length = bytes.length) :
    write (before ++ former old) place bytes = .ok (before ++ once bytes) := by
  have none : old.drop bytes.length = [] := List.drop_eq_nil_of_le (Nat.le_of_eq same)
  rw [write_eq here (Nat.le_of_eq same.symm), none, former, List.map_nil, List.append_nil]

/-- The last bytes of a hash, written behind the others. -/
theorem fillFrom_eq (digest : Digest) {n m : Nat} (some : 1 ≤ m) (link : Octets 64)
    {before : Buffer} {place : Nat} (here : before.length = place) (room : place + m = n)
    {old : Bytes} (same : old.length = m) :
    fillFrom (limited digest) n place link (before ++ former old) =
      .ok (before ++ once (LongHash.rest digest m link)) := by
  have inside : ¬n < place := by omega
  have missing : n - place = m := by omega
  fun_induction LongHash.rest digest m link generalizing place before old with
  | case1 m link short =>
      rw [fillFrom, if_neg inside, missing, if_neg (Nat.not_lt.mpr short),
        limited_eq digest some short, ok_bind]
      exact write_all here (by simpa using same)
  | case2 m link long next ih =>
      have long : 64 < m := Nat.lt_of_not_le long
      have half : (next.toList.take 32).length = 32 := by simp
      have written : write (before ++ former old) place (next.toList.take 32) =
          .ok (before ++ once (next.toList.take 32) ++
            former (old.drop (next.toList.take 32).length)) :=
        write_eq here (by omega)
      have behind : (before ++ once (next.toList.take 32)).length = place + 32 := by simp [here]
      have left : (old.drop 32).length = m - 32 := by simp [same]
      rw [half] at written
      rw [fillFrom, if_neg inside, missing, if_pos long, limited_eq digest (by decide) (by decide),
        ok_bind, written, ok_bind, ih (by omega) behind (by omega) left (by omega) (by omega),
        once_append, List.append_assoc]

/-- The bytes of a hash, each of them written once over what was there. -/
theorem fill_eq (digest : Digest) (message old : Bytes) (some : 1 ≤ old.length) :
    fill (limited digest) message (former old) =
      .ok (once (LongHash.bytes digest old.length message)) := by
  unfold fill LongHash.bytes
  dsimp only
  rw [length_former]
  split
  · next short =>
    rw [limited_eq digest some short, ok_bind]
    exact write_all List.length_nil (by simp)
  · next long =>
    have long : 64 < old.length := Nat.lt_of_not_le long
    rw [limited_eq digest (by decide) (by decide), ok_bind]
    generalize digest 64 (Bytes.ofNatLE 4 old.length ++ message) = first
    have half : (first.toList.take 32).length = 32 := by simp
    have written : write (former old) 0 (first.toList.take 32) =
        .ok (once (first.toList.take 32) ++ former (old.drop (first.toList.take 32).length)) :=
      write_eq List.length_nil (by omega)
    rw [half] at written
    have behind : (once (first.toList.take 32)).length = 32 := by simp
    have left : (old.drop 32).length = old.length - 32 := by simp
    rw [written, ok_bind, fillFrom_eq digest (by omega) first behind (by omega) left, once_append]

end Buffer

namespace LongHash

/-- The hash of any length is the one that RFC 9106 defines, for every digest of up to 64 bytes, and
a buffer of that many bytes gets it without any digest, place or difference being out of range: each
of its bytes is written once. The length goes before the message as it is, and the last digest of a
longer hash has from 33 to 64 bytes. -/
theorem hash_exact (digest : Digest) (message : Bytes) {n : Nat} (some : 1 ≤ n)
    (countable : n < UInt32.size) :
    Bytes.toNatLE (Bytes.ofNatLE 4 n) = n ∧
      (hash digest n message).toList = closed digest n message ∧
      (64 < n → 33 ≤ n - 32 * links n ∧ n - 32 * links n ≤ 64) ∧
      ∀ old : Bytes, old.length = n →
        Buffer.fill (limited digest) message (Buffer.former old) =
          .ok (Buffer.once (hash digest n message).toList) := by
  have same : (hash digest n message).toList = bytes digest n message := rfl
  refine ⟨?_, ?_, last_bounds, ?_⟩
  · rw [Bytes.toNatLE_ofNatLE]
    exact Nat.mod_eq_of_lt countable
  · rw [same, bytes_eq_closed]
  · rintro old rfl
    rw [same]
    exact Buffer.fill_eq digest message old some

/-- A hash that takes three digests, the last of which is as short as it can be. -/
theorem hash_exact_threeDigests :
    1 ≤ 97 ∧ 97 < UInt32.size ∧ 64 < 97 ∧
      (hash Digest.Blake2b.digest 97 [1, 2, 3]).toList =
        closed Digest.Blake2b.digest 97 [1, 2, 3] ∧
      (33 ≤ 97 - 32 * links 97 ∧ 97 - 32 * links 97 ≤ 64) ∧
      Buffer.fill (limited Digest.Blake2b.digest) [1, 2, 3] (Buffer.former (List.replicate 97 255)) =
        .ok (Buffer.once (hash Digest.Blake2b.digest 97 [1, 2, 3]).toList) := by
  have countable : 97 < UInt32.size := by decide
  obtain ⟨-, value, last, written⟩ := hash_exact Digest.Blake2b.digest [1, 2, 3] (by decide) countable
  exact ⟨by decide, countable, by decide, value, last (by decide), written _ List.length_replicate⟩

end LongHash

end HeaderVault.Argon2
