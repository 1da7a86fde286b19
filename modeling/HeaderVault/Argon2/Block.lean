import HeaderVault.Digest.Words

/-!
Blocks of 1 KiB, the cells of the memory matrix, and the compression of two of them into one.

A block is a square of eight rows of eight word pairs. `permute` mixes every row and then every
column, the columns being the rows of the transposed square, and `compress` adds the sum of its
arguments before and after.
-/

namespace HeaderVault.Argon2

open HeaderVault.Digest

structure Block where
  r0 : Words16
  r1 : Words16
  r2 : Words16
  r3 : Words16
  r4 : Words16
  r5 : Words16
  r6 : Words16
  r7 : Words16

namespace Block

def ofRows (row : Nat → Words16) : Block :=
  ⟨row 0, row 1, row 2, row 3, row 4, row 5, row 6, row 7⟩

def zero : Block := ofRows fun _ => Words16.zero

def toRows (b : Block) : List Words16 := [b.r0, b.r1, b.r2, b.r3, b.r4, b.r5, b.r6, b.r7]

/-- Row `i`, counted modulo eight. -/
def row (b : Block) (i : Nat) : Words16 :=
  match i % 8 with
  | 0 => b.r0
  | 1 => b.r1
  | 2 => b.r2
  | 3 => b.r3
  | 4 => b.r4
  | 5 => b.r5
  | 6 => b.r6
  | _ => b.r7

/-- Word `i` of the 128, row by row. -/
def word (b : Block) (i : Nat) : UInt64 := (b.row (i / 16)).word i

/-! ### Bytes -/

def ofBytes (bytes : Octets 1024) : Block :=
  let words := (wordsLE bytes.toList).toArray
  ofRows fun i => Words16.ofFn fun j => words.getD (16 * i + j) 0

def toWords (b : Block) : List UInt64 := b.toRows.flatMap Words16.toList

def toBytes (b : Block) : Bytes := b.toWords.flatMap bytesLE

/-! ### Compression -/

@[inline]
def zipWith (f : UInt64 → UInt64 → UInt64) (a b : Block) : Block :=
  ⟨a.r0.zipWith f b.r0, a.r1.zipWith f b.r1, a.r2.zipWith f b.r2, a.r3.zipWith f b.r3,
    a.r4.zipWith f b.r4, a.r5.zipWith f b.r5, a.r6.zipWith f b.r6, a.r7.zipWith f b.r7⟩

def xor (a b : Block) : Block := a.zipWith (· ^^^ ·) b

/-- Makes columns of word pairs into rows. -/
def transpose (b : Block) : Block :=
  ⟨⟨b.r0.w0, b.r0.w1, b.r1.w0, b.r1.w1, b.r2.w0, b.r2.w1, b.r3.w0, b.r3.w1,
      b.r4.w0, b.r4.w1, b.r5.w0, b.r5.w1, b.r6.w0, b.r6.w1, b.r7.w0, b.r7.w1⟩,
    ⟨b.r0.w2, b.r0.w3, b.r1.w2, b.r1.w3, b.r2.w2, b.r2.w3, b.r3.w2, b.r3.w3,
      b.r4.w2, b.r4.w3, b.r5.w2, b.r5.w3, b.r6.w2, b.r6.w3, b.r7.w2, b.r7.w3⟩,
    ⟨b.r0.w4, b.r0.w5, b.r1.w4, b.r1.w5, b.r2.w4, b.r2.w5, b.r3.w4, b.r3.w5,
      b.r4.w4, b.r4.w5, b.r5.w4, b.r5.w5, b.r6.w4, b.r6.w5, b.r7.w4, b.r7.w5⟩,
    ⟨b.r0.w6, b.r0.w7, b.r1.w6, b.r1.w7, b.r2.w6, b.r2.w7, b.r3.w6, b.r3.w7,
      b.r4.w6, b.r4.w7, b.r5.w6, b.r5.w7, b.r6.w6, b.r6.w7, b.r7.w6, b.r7.w7⟩,
    ⟨b.r0.w8, b.r0.w9, b.r1.w8, b.r1.w9, b.r2.w8, b.r2.w9, b.r3.w8, b.r3.w9,
      b.r4.w8, b.r4.w9, b.r5.w8, b.r5.w9, b.r6.w8, b.r6.w9, b.r7.w8, b.r7.w9⟩,
    ⟨b.r0.w10, b.r0.w11, b.r1.w10, b.r1.w11, b.r2.w10, b.r2.w11, b.r3.w10, b.r3.w11,
      b.r4.w10, b.r4.w11, b.r5.w10, b.r5.w11, b.r6.w10, b.r6.w11, b.r7.w10, b.r7.w11⟩,
    ⟨b.r0.w12, b.r0.w13, b.r1.w12, b.r1.w13, b.r2.w12, b.r2.w13, b.r3.w12, b.r3.w13,
      b.r4.w12, b.r4.w13, b.r5.w12, b.r5.w13, b.r6.w12, b.r6.w13, b.r7.w12, b.r7.w13⟩,
    ⟨b.r0.w14, b.r0.w15, b.r1.w14, b.r1.w15, b.r2.w14, b.r2.w15, b.r3.w14, b.r3.w15,
      b.r4.w14, b.r4.w15, b.r5.w14, b.r5.w15, b.r6.w14, b.r6.w15, b.r7.w14, b.r7.w15⟩⟩

/-- Addition with twice the product of the lower halves. -/
@[inline]
def mulAdd (x y : UInt64) : UInt64 := x + y + 2 * ((x &&& 0xffffffff) * (y &&& 0xffffffff))

/-- Mixes four words. -/
@[inline]
def mix (q : Quad) : Quad :=
  let a := mulAdd q.a q.b
  let d := rotateRight (q.d ^^^ a) 32
  let c := mulAdd q.c d
  let b := rotateRight (q.b ^^^ c) 24
  let a := mulAdd a b
  let d := rotateRight (d ^^^ a) 16
  let c := mulAdd c d
  let b := rotateRight (b ^^^ c) 63
  ⟨a, b, c, d⟩

/-- Mixes the columns and then the diagonals of a square of sixteen words. -/
def round (v : Words16) : Words16 :=
  let p := mix ⟨v.w0, v.w4, v.w8, v.w12⟩
  let q := mix ⟨v.w1, v.w5, v.w9, v.w13⟩
  let r := mix ⟨v.w2, v.w6, v.w10, v.w14⟩
  let s := mix ⟨v.w3, v.w7, v.w11, v.w15⟩
  let e := mix ⟨p.a, q.b, r.c, s.d⟩
  let f := mix ⟨q.a, r.b, s.c, p.d⟩
  let g := mix ⟨r.a, s.b, p.c, q.d⟩
  let h := mix ⟨s.a, p.b, q.c, r.d⟩
  ⟨e.a, f.a, g.a, h.a, h.b, e.b, f.b, g.b, g.c, h.c, e.c, f.c, f.d, g.d, h.d, e.d⟩

def mapRows (f : Words16 → Words16) (b : Block) : Block :=
  ⟨f b.r0, f b.r1, f b.r2, f b.r3, f b.r4, f b.r5, f b.r6, f b.r7⟩

def permute (b : Block) : Block :=
  ((b.mapRows round).transpose.mapRows round).transpose

/-- One block from two; only the sum of the two enters. -/
def compress (x y : Block) : Block :=
  let sum := x.xor y
  sum.permute.xor sum

end Block

end HeaderVault.Argon2
