import HeaderVault.Digest.Words

/-!
SHA-512, the message authentication code built on it, and the iterated derivation of keys from
passwords built on that.

`Hmac` keeps the two chained states that depend on the key alone, so that the iteration of
`Pbkdf2.derive` pays for two blocks a step.
-/

namespace HeaderVault.Digest

namespace Sha512

/-- The fractional parts of the cube roots of the first eighty primes. -/
def constants : Array UInt64 :=
  #[0x428a2f98d728ae22, 0x7137449123ef65cd, 0xb5c0fbcfec4d3b2f, 0xe9b5dba58189dbbc,
    0x3956c25bf348b538, 0x59f111f1b605d019, 0x923f82a4af194f9b, 0xab1c5ed5da6d8118,
    0xd807aa98a3030242, 0x12835b0145706fbe, 0x243185be4ee4b28c, 0x550c7dc3d5ffb4e2,
    0x72be5d74f27b896f, 0x80deb1fe3b1696b1, 0x9bdc06a725c71235, 0xc19bf174cf692694,
    0xe49b69c19ef14ad2, 0xefbe4786384f25e3, 0x0fc19dc68b8cd5b5, 0x240ca1cc77ac9c65,
    0x2de92c6f592b0275, 0x4a7484aa6ea6e483, 0x5cb0a9dcbd41fbd4, 0x76f988da831153b5,
    0x983e5152ee66dfab, 0xa831c66d2db43210, 0xb00327c898fb213f, 0xbf597fc7beef0ee4,
    0xc6e00bf33da88fc2, 0xd5a79147930aa725, 0x06ca6351e003826f, 0x142929670a0e6e70,
    0x27b70a8546d22ffc, 0x2e1b21385c26c926, 0x4d2c6dfc5ac42aed, 0x53380d139d95b3df,
    0x650a73548baf63de, 0x766a0abb3c77b2a8, 0x81c2c92e47edaee6, 0x92722c851482353b,
    0xa2bfe8a14cf10364, 0xa81a664bbc423001, 0xc24b8b70d0f89791, 0xc76c51a30654be30,
    0xd192e819d6ef5218, 0xd69906245565a910, 0xf40e35855771202a, 0x106aa07032bbd1b8,
    0x19a4c116b8d2d0c8, 0x1e376c085141ab53, 0x2748774cdf8eeb99, 0x34b0bcb5e19b48a8,
    0x391c0cb3c5c95a63, 0x4ed8aa4ae3418acb, 0x5b9cca4f7763e373, 0x682e6ff3d6b2b8a3,
    0x748f82ee5defb2fc, 0x78a5636f43172f60, 0x84c87814a1f0ab72, 0x8cc702081a6439ec,
    0x90befffa23631e28, 0xa4506cebde82bde9, 0xbef9a3f7b2c67915, 0xc67178f2e372532b,
    0xca273eceea26619c, 0xd186b8c721c0c207, 0xeada7dd6cde0eb1e, 0xf57d4f7fee6ed178,
    0x06f067aa72176fba, 0x0a637dc5a2c898a6, 0x113f9804bef90dae, 0x1b710b35131c471b,
    0x28db77f523047d84, 0x32caab7b40c72493, 0x3c9ebe0a15c9bebc, 0x431d67c49c100d4c,
    0x4cc5d4becb3e42b6, 0x597f299cfc657e2a, 0x5fcb6fab3ad6faec, 0x6c44198c4a475817]

/-- The chained words before the first block. -/
def start : Words8 where
  w0 := 0x6a09e667f3bcc908
  w1 := 0xbb67ae8584caa73b
  w2 := 0x3c6ef372fe94f82b
  w3 := 0xa54ff53a5f1d36f1
  w4 := 0x510e527fade682d1
  w5 := 0x9b05688c2b3e6c1f
  w6 := 0x1f83d9abfb41bd6b
  w7 := 0x5be0cd19137e2179

/-- Appends `count` words to the sixteen of a block. -/
def schedule : (count : Nat) → Array UInt64 → Array UInt64
  | 0, words => words
  | count + 1, words =>
      let t := words.size
      let old := words.getD (t - 15) 0
      let new := words.getD (t - 2) 0
      let s0 := rotateRight old 1 ^^^ rotateRight old 8 ^^^ (old >>> 7)
      let s1 := rotateRight new 19 ^^^ rotateRight new 61 ^^^ (new >>> 6)
      schedule count (words.push (words.getD (t - 16) 0 + s0 + words.getD (t - 7) 0 + s1))

/-- One step with the sum of its constant and its message word. -/
def step (v : Words8) (k : UInt64) : Words8 :=
  let s1 := rotateRight v.w4 14 ^^^ rotateRight v.w4 18 ^^^ rotateRight v.w4 41
  let choice := (v.w4 &&& v.w5) ^^^ (~~~ v.w4 &&& v.w6)
  let t1 := v.w7 + s1 + choice + k
  let s0 := rotateRight v.w0 28 ^^^ rotateRight v.w0 34 ^^^ rotateRight v.w0 39
  let majority := (v.w0 &&& v.w1) ^^^ (v.w0 &&& v.w2) ^^^ (v.w1 &&& v.w2)
  ⟨t1 + s0 + majority, v.w0, v.w1, v.w2, v.w3 + t1, v.w4, v.w5, v.w6⟩

/-- The steps from `t` on. -/
def steps (words : Array UInt64) : (count t : Nat) → Words8 → Words8
  | 0, _, v => v
  | count + 1, t, v => steps words count (t + 1) (step v (constants.getD t 0 + words.getD t 0))

/-- Works one block of 128 bytes into the chained words. -/
def compress (chain : Words8) (block : Bytes) : Words8 :=
  let words := schedule 64 (wordsBE block).toArray
  chain.zipWith (· + ·) (steps words 80 0 chain)

/-- Takes in the rest of a message of `length` bytes and closes it: a bit, zeros and the length. -/
def finish (chain : Words8) (length : Nat) (rest : Bytes) : Words8 :=
  if atEnd : rest.drop 127 = [] then
    let zeros := (239 - rest.length) % 128
    let ending := rest ++ 0x80 :: List.replicate zeros 0 ++ (Bytes.ofNatLE 16 (8 * length)).reverse
    if ending.length ≤ 128 then compress chain ending
    else compress (compress chain (ending.take 128)) (ending.drop 128)
  else
    finish (compress chain (rest.take 128)) length (rest.drop 128)
termination_by rest.length
decreasing_by
  have longer : 127 < rest.length := by simpa using atEnd
  simp only [List.length_drop]
  omega

def toBytes (chain : Words8) : Bytes := chain.toList.flatMap bytesBE

/-- The digest of a message. -/
def digest (message : Bytes) : Bytes := toBytes (finish start message.length message)

end Sha512

/-- A key of the message authentication code, as the two states it leads to. -/
structure Hmac where
  inner : Words8
  outer : Words8

namespace Hmac

def ofKey (key : Bytes) : Hmac :=
  let short := if key.length ≤ 128 then key else Sha512.digest key
  let block := (Octets.ofBytes 128 short).toList
  ⟨Sha512.compress Sha512.start (block.map (· ^^^ 0x36)),
    Sha512.compress Sha512.start (block.map (· ^^^ 0x5c))⟩

/-- The code of a message. -/
def code (hmac : Hmac) (message : Bytes) : Bytes :=
  let inner := Sha512.toBytes (Sha512.finish hmac.inner (128 + message.length) message)
  Sha512.toBytes (Sha512.finish hmac.outer (128 + inner.length) inner)

end Hmac

namespace Pbkdf2

/-- Codes the last code again and again and adds up all of them. -/
def iterate (hmac : Hmac) : (count : Nat) → (last sum : Bytes) → Bytes
  | 0, _, sum => sum
  | count + 1, last, sum =>
      let next := hmac.code last
      iterate hmac count next (List.zipWith (· ^^^ ·) sum next)

/-- Block `i` of the output, counted from one. -/
def block (hmac : Hmac) (salt : Bytes) (iterations i : Nat) : Bytes :=
  let first := hmac.code (salt ++ (Bytes.ofNatLE 4 i).reverse)
  iterate hmac (iterations - 1) first first

/-- Derives `n` bytes from a password. -/
def derive (password salt : Bytes) (iterations : UInt32) (n : Nat) : Octets n :=
  let hmac := Hmac.ofKey password
  Octets.ofBytes n
    ((List.range ((n + 63) / 64)).flatMap fun i => block hmac salt iterations.toNat (i + 1))

end Pbkdf2

end HeaderVault.Digest
