import HeaderVault.Digest.Words

/-!
BLAKE2b without a key, for digests of any length up to 64 bytes.

A message is taken in blocks of 128 bytes, the last one filled up with zeros. Each block is worked
into the chained words by twelve rounds, and a round mixes the columns and then the diagonals of a
square of sixteen words, two message words at a time in the order of that round.
-/

namespace HeaderVault.Digest.Blake2b

/-- The fractional parts of the square roots of the first eight primes. -/
def constants : Words8 where
  w0 := 0x6a09e667f3bcc908
  w1 := 0xbb67ae8584caa73b
  w2 := 0x3c6ef372fe94f82b
  w3 := 0xa54ff53a5f1d36f1
  w4 := 0x510e527fade682d1
  w5 := 0x9b05688c2b3e6c1f
  w6 := 0x1f83d9abfb41bd6b
  w7 := 0x5be0cd19137e2179

/-- The orders in which the rounds take the message words; the last two rounds begin again. -/
def orders : List (Words16 → Words16) :=
  [fun m => m,
   fun m => ⟨m.w14, m.w10, m.w4, m.w8, m.w9, m.w15, m.w13, m.w6, m.w1, m.w12, m.w0, m.w2,
      m.w11, m.w7, m.w5, m.w3⟩,
   fun m => ⟨m.w11, m.w8, m.w12, m.w0, m.w5, m.w2, m.w15, m.w13, m.w10, m.w14, m.w3, m.w6,
      m.w7, m.w1, m.w9, m.w4⟩,
   fun m => ⟨m.w7, m.w9, m.w3, m.w1, m.w13, m.w12, m.w11, m.w14, m.w2, m.w6, m.w5, m.w10,
      m.w4, m.w0, m.w15, m.w8⟩,
   fun m => ⟨m.w9, m.w0, m.w5, m.w7, m.w2, m.w4, m.w10, m.w15, m.w14, m.w1, m.w11, m.w12,
      m.w6, m.w8, m.w3, m.w13⟩,
   fun m => ⟨m.w2, m.w12, m.w6, m.w10, m.w0, m.w11, m.w8, m.w3, m.w4, m.w13, m.w7, m.w5,
      m.w15, m.w14, m.w1, m.w9⟩,
   fun m => ⟨m.w12, m.w5, m.w1, m.w15, m.w14, m.w13, m.w4, m.w10, m.w0, m.w7, m.w6, m.w3,
      m.w9, m.w2, m.w8, m.w11⟩,
   fun m => ⟨m.w13, m.w11, m.w7, m.w14, m.w12, m.w1, m.w3, m.w9, m.w5, m.w0, m.w15, m.w4,
      m.w8, m.w6, m.w2, m.w10⟩,
   fun m => ⟨m.w6, m.w15, m.w14, m.w9, m.w11, m.w3, m.w0, m.w8, m.w12, m.w2, m.w13, m.w7,
      m.w1, m.w4, m.w10, m.w5⟩,
   fun m => ⟨m.w10, m.w2, m.w8, m.w4, m.w7, m.w6, m.w1, m.w5, m.w15, m.w11, m.w9, m.w14,
      m.w3, m.w12, m.w13, m.w0⟩,
   fun m => m,
   fun m => ⟨m.w14, m.w10, m.w4, m.w8, m.w9, m.w15, m.w13, m.w6, m.w1, m.w12, m.w0, m.w2,
      m.w11, m.w7, m.w5, m.w3⟩]

/-- Mixes two message words into four words. -/
@[inline]
def mix (q : Quad) (x y : UInt64) : Quad :=
  let a := q.a + q.b + x
  let d := rotateRight (q.d ^^^ a) 32
  let c := q.c + d
  let b := rotateRight (q.b ^^^ c) 24
  let a := a + b + y
  let d := rotateRight (d ^^^ a) 16
  let c := c + d
  let b := rotateRight (b ^^^ c) 63
  ⟨a, b, c, d⟩

/-- One round, with the message words in its order. -/
def round (v m : Words16) : Words16 :=
  let p := mix ⟨v.w0, v.w4, v.w8, v.w12⟩ m.w0 m.w1
  let q := mix ⟨v.w1, v.w5, v.w9, v.w13⟩ m.w2 m.w3
  let r := mix ⟨v.w2, v.w6, v.w10, v.w14⟩ m.w4 m.w5
  let s := mix ⟨v.w3, v.w7, v.w11, v.w15⟩ m.w6 m.w7
  let e := mix ⟨p.a, q.b, r.c, s.d⟩ m.w8 m.w9
  let f := mix ⟨q.a, r.b, s.c, p.d⟩ m.w10 m.w11
  let g := mix ⟨r.a, s.b, p.c, q.d⟩ m.w12 m.w13
  let h := mix ⟨s.a, p.b, q.c, r.d⟩ m.w14 m.w15
  ⟨e.a, f.a, g.a, h.a, h.b, e.b, f.b, g.b, g.c, h.c, e.c, f.c, f.d, g.d, h.d, e.d⟩

/-- Works one block into the chained words; `count` bytes of the message have been taken with it. -/
def compress (chain : Words8) (block : Words16) (count : Nat) (last : Bool) : Words8 :=
  let v : Words16 :=
    ⟨chain.w0, chain.w1, chain.w2, chain.w3, chain.w4, chain.w5, chain.w6, chain.w7,
      constants.w0, constants.w1, constants.w2, constants.w3,
      constants.w4 ^^^ UInt64.ofNat count, constants.w5 ^^^ UInt64.ofNat (count >>> 64),
      if last then ~~~ constants.w6 else constants.w6, constants.w7⟩
  let v := orders.foldl (fun v order => round v (order block)) v
  chain.zipWith (· ^^^ ·) ⟨v.w0 ^^^ v.w8, v.w1 ^^^ v.w9, v.w2 ^^^ v.w10, v.w3 ^^^ v.w11,
    v.w4 ^^^ v.w12, v.w5 ^^^ v.w13, v.w6 ^^^ v.w14, v.w7 ^^^ v.w15⟩

/-- Takes in the rest of a message, of which `taken` bytes went before. -/
def absorb (chain : Words8) (taken : Nat) (rest : Bytes) : Words8 :=
  if atEnd : rest.drop 128 = [] then
    let filled := rest ++ List.replicate (128 - rest.length) 0
    compress chain (Words16.ofList (wordsLE filled)) (taken + rest.length) true
  else
    let block := Words16.ofList (wordsLE (rest.take 128))
    absorb (compress chain block (taken + 128) false) (taken + 128) (rest.drop 128)
termination_by rest.length
decreasing_by
  have longer : 128 < rest.length := by simpa using atEnd
  simp only [List.length_drop]
  omega

/-- The digest of `n` bytes. -/
def digest (n : Nat) (message : Bytes) : Octets n :=
  let start := { constants with w0 := constants.w0 ^^^ 0x01010000 ^^^ UInt64.ofNat n }
  Octets.ofBytes n ((absorb start 0 message).toList.flatMap bytesLE)

end HeaderVault.Digest.Blake2b
