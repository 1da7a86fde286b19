import HeaderVault.Aes.Field

/-!
The AES state: sixteen bytes as four columns of four, filled column by column, and the steps that a
round is made of, each beside the step that undoes it.

`Block.split` and `Block.join` pass between byte strings and lists of blocks; `join_split` and
`split_join` say that whole blocks survive both ways.
-/

namespace HeaderVault.Aes

/-- Four bytes of a state, top to bottom. -/
structure Column where
  b0 : UInt8
  b1 : UInt8
  b2 : UInt8
  b3 : UInt8
  deriving DecidableEq, Repr

namespace Column

def zero : Column := ⟨0, 0, 0, 0⟩

def toBytes (a : Column) : Bytes := [a.b0, a.b1, a.b2, a.b3]

def map (f : UInt8 → UInt8) (a : Column) : Column := ⟨f a.b0, f a.b1, f a.b2, f a.b3⟩

def xor (a b : Column) : Column := ⟨a.b0 ^^^ b.b0, a.b1 ^^^ b.b1, a.b2 ^^^ b.b2, a.b3 ^^^ b.b3⟩

/-- Moves every byte up by one place, the first to the end. -/
def rotate (a : Column) : Column := ⟨a.b1, a.b2, a.b3, a.b0⟩

/-- Multiplies the column, read as a polynomial over the field, by `3x³ + x² + x + 2` modulo
`x⁴ + 1`. -/
def mix (a : Column) : Column where
  b0 := mul a.b0 2 ^^^ mul a.b1 3 ^^^ a.b2 ^^^ a.b3
  b1 := a.b0 ^^^ mul a.b1 2 ^^^ mul a.b2 3 ^^^ a.b3
  b2 := a.b0 ^^^ a.b1 ^^^ mul a.b2 2 ^^^ mul a.b3 3
  b3 := mul a.b0 3 ^^^ a.b1 ^^^ a.b2 ^^^ mul a.b3 2

/-- Multiplies by `11x³ + 13x² + 9x + 14`, the inverse of the polynomial of `mix`. -/
def unmix (a : Column) : Column where
  b0 := mul a.b0 14 ^^^ mul a.b1 11 ^^^ mul a.b2 13 ^^^ mul a.b3 9
  b1 := mul a.b0 9 ^^^ mul a.b1 14 ^^^ mul a.b2 11 ^^^ mul a.b3 13
  b2 := mul a.b0 13 ^^^ mul a.b1 9 ^^^ mul a.b2 14 ^^^ mul a.b3 11
  b3 := mul a.b0 11 ^^^ mul a.b1 13 ^^^ mul a.b2 9 ^^^ mul a.b3 14

/-- The columns of a byte string; up to three bytes at the end are left out. -/
def split : Bytes → List Column
  | b0 :: b1 :: b2 :: b3 :: rest => ⟨b0, b1, b2, b3⟩ :: split rest
  | _ => []

end Column

/-- Sixteen bytes as four columns. -/
structure Block where
  c0 : Column
  c1 : Column
  c2 : Column
  c3 : Column
  deriving DecidableEq, Repr

namespace Block

def zero : Block := ⟨.zero, .zero, .zero, .zero⟩

def toBytes (s : Block) : Bytes := s.c0.toBytes ++ s.c1.toBytes ++ s.c2.toBytes ++ s.c3.toBytes

@[simp]
theorem length_toBytes (s : Block) : s.toBytes.length = 16 := rfl

/-! ### Steps of a round -/

def mapColumns (f : Column → Column) (s : Block) : Block := ⟨f s.c0, f s.c1, f s.c2, f s.c3⟩

def xor (s t : Block) : Block :=
  ⟨s.c0.xor t.c0, s.c1.xor t.c1, s.c2.xor t.c2, s.c3.xor t.c3⟩

def substituteBytes (s : Block) : Block := s.mapColumns (.map substitute)

def unsubstituteBytes (s : Block) : Block := s.mapColumns (.map unsubstitute)

/-- Row `r` moves `r` places to the left. -/
def shiftRows (s : Block) : Block where
  c0 := ⟨s.c0.b0, s.c1.b1, s.c2.b2, s.c3.b3⟩
  c1 := ⟨s.c1.b0, s.c2.b1, s.c3.b2, s.c0.b3⟩
  c2 := ⟨s.c2.b0, s.c3.b1, s.c0.b2, s.c1.b3⟩
  c3 := ⟨s.c3.b0, s.c0.b1, s.c1.b2, s.c2.b3⟩

/-- Row `r` moves `r` places to the right. -/
def unshiftRows (s : Block) : Block where
  c0 := ⟨s.c0.b0, s.c3.b1, s.c2.b2, s.c1.b3⟩
  c1 := ⟨s.c1.b0, s.c0.b1, s.c3.b2, s.c2.b3⟩
  c2 := ⟨s.c2.b0, s.c1.b1, s.c0.b2, s.c3.b3⟩
  c3 := ⟨s.c3.b0, s.c2.b1, s.c1.b2, s.c0.b3⟩

@[simp]
theorem unshiftRows_shiftRows (s : Block) : s.shiftRows.unshiftRows = s := rfl

@[simp]
theorem shiftRows_unshiftRows (s : Block) : s.unshiftRows.shiftRows = s := rfl

def mixColumns (s : Block) : Block := s.mapColumns .mix

def unmixColumns (s : Block) : Block := s.mapColumns .unmix

/-! ### Byte strings -/

/-- The whole blocks of a byte string; up to fifteen bytes at the end are left out. -/
def split : Bytes → List Block
  | a0 :: a1 :: a2 :: a3 :: b0 :: b1 :: b2 :: b3 :: c0 :: c1 :: c2 :: c3 :: d0 :: d1 :: d2 :: d3 ::
      rest =>
      ⟨⟨a0, a1, a2, a3⟩, ⟨b0, b1, b2, b3⟩, ⟨c0, c1, c2, c3⟩, ⟨d0, d1, d2, d3⟩⟩ :: split rest
  | _ => []

def join (blocks : List Block) : Bytes := blocks.flatMap toBytes

@[simp]
theorem join_cons (s : Block) (rest : List Block) : join (s :: rest) = s.toBytes ++ join rest := rfl

@[simp]
theorem length_join (blocks : List Block) : (join blocks).length = 16 * blocks.length := by
  induction blocks with
  | nil => rfl
  | cons s rest ih => simp [ih]; omega

@[simp]
theorem split_join (blocks : List Block) : split (join blocks) = blocks := by
  induction blocks with
  | nil => rfl
  | cons s rest ih =>
      rw [join_cons]
      simp only [toBytes, Column.toBytes, List.cons_append, List.nil_append, split]
      rw [ih]

/-- The block of the first sixteen bytes, zero where there are fewer. -/
def ofBytes (bytes : Bytes) : Block :=
  (split (Octets.ofBytes 16 bytes).toList).headD .zero

end Block

end HeaderVault.Aes
