import HeaderVault.Bytes

/-!
The field of 256 elements in which AES computes: polynomials over two elements of degree below
eight, modulo `x^8 + x^4 + x^3 + x + 1`. A byte holds the coefficients, its lowest bit the constant
one. Addition is exclusive or.

`double` multiplies by `x`, `mul` by any element, and `inverse` sends `0` to `0`. On top of it
stands the substitution box, the inverse followed by an affine map, with its own inverse.
-/

namespace HeaderVault.Aes

/-- Multiplication by `x`. -/
def double (a : UInt8) : UInt8 :=
  if a &&& 0x80 = 0 then a <<< 1 else (a <<< 1) ^^^ 0x1b

/-- The product of `a` and the lowest `count` bits of `b`: each set bit adds the multiple of `a`
that belongs to its place. -/
def mulBits : (count : Nat) → (a b : UInt8) → UInt8
  | 0, _, _ => 0
  | count + 1, a, b => (if b &&& 1 = 0 then 0 else a) ^^^ mulBits count (double a) (b >>> 1)

/-- Multiplication in the field. -/
def mul (a b : UInt8) : UInt8 := mulBits 8 a b

/-- Squares several times. -/
def squares : Nat → UInt8 → UInt8
  | 0, a => a
  | count + 1, a => squares count (mul a a)

/-- The multiplicative inverse, and `0` for `0`: the power 254, which is `a^(2+4+8+16+32+64+128)`.
-/
def inverse (a : UInt8) : UInt8 :=
  ((List.range 7).map fun i => squares (i + 1) a).foldl mul 1

/-- Turns the bits of a byte towards the higher places. -/
def rotate (a : UInt8) (count : UInt8) : UInt8 := (a <<< count) ||| (a >>> (8 - count))

/-- The affine map of the substitution box. -/
def affine (a : UInt8) : UInt8 :=
  a ^^^ rotate a 1 ^^^ rotate a 2 ^^^ rotate a 3 ^^^ rotate a 4 ^^^ 0x63

/-- The affine map that undoes `affine`. -/
def affineInverse (a : UInt8) : UInt8 :=
  rotate a 1 ^^^ rotate a 3 ^^^ rotate a 6 ^^^ 0x05

/-- The values of a function on bytes, laid out once. -/
def tabulate (f : UInt8 → UInt8) : Octets 256 := Vector.ofFn fun i => f (UInt8.ofNat i)

/-- The entry of a table that belongs to a byte. -/
def lookup (table : Octets 256) (byte : UInt8) : UInt8 :=
  have bound := byte.toNat_lt
  table[byte.toNat]

theorem lookup_tabulate (f : UInt8 → UInt8) (byte : UInt8) : lookup (tabulate f) byte = f byte := by
  simp [lookup, tabulate]

def substitutionTable : Octets 256 := tabulate fun a => affine (inverse a)

def inverseSubstitutionTable : Octets 256 := tabulate fun a => inverse (affineInverse a)

/-- The substitution box. -/
def substitute (byte : UInt8) : UInt8 := lookup substitutionTable byte

/-- The inverse substitution box. -/
def unsubstitute (byte : UInt8) : UInt8 := lookup inverseSubstitutionTable byte

theorem substitute_eq (byte : UInt8) : substitute byte = affine (inverse byte) :=
  lookup_tabulate _ byte

theorem unsubstitute_eq (byte : UInt8) : unsubstitute byte = inverse (affineInverse byte) :=
  lookup_tabulate _ byte

end HeaderVault.Aes
