/-!
Exclusive or on words.

A mask distributes over exclusive or (`and_xor`), and the lowest bit of a word is the parity of its
number (`lowBit`), whatever the width. A map is additive when it keeps exclusive or; two additive maps
that agree on some words agree on every sum of them (`Additive.foldr_eq`).
-/

namespace HeaderVault.Words

/-! ### Bits -/

section

variable {width : Nat}

theorem and_xor (a b mask : BitVec width) : (a ^^^ b) &&& mask = (a &&& mask) ^^^ (b &&& mask) := by
  ext i inside
  simp [Bool.and_xor_distrib_right]

theorem lowBit (wide : 0 < width) (a : BitVec width) :
    a &&& 1 = 0 ∧ a.toNat % 2 = 0 ∨ a &&& 1 = 1 ∧ a.toNat % 2 = 1 := by
  have one : (1 : BitVec width).toNat = 1 := BitVec.toNat_one wide
  have low : (a &&& 1).toNat = a.toNat % 2 := by
    rw [BitVec.toNat_and, one]
    exact Nat.and_one_is_mod _
  rcases Nat.mod_two_eq_zero_or_one a.toNat with even | odd
  · exact .inl ⟨BitVec.eq_of_toNat_eq (by simpa using low.trans even), even⟩
  · exact .inr ⟨BitVec.eq_of_toNat_eq ((low.trans odd).trans one.symm), odd⟩

end

/-! ### Additive maps -/

/-- A map that keeps exclusive or. -/
structure Additive {α β : Type} [XorOp α] [XorOp β] (f : α → β) : Prop where
  map_xor : ∀ a b, f (a ^^^ b) = f a ^^^ f b

namespace Additive

variable {α β γ : Type} [XorOp α] [XorOp β] [XorOp γ]

theorem id : Additive fun a : α => a := ⟨fun _ _ => rfl⟩

theorem comp {f : β → γ} {g : α → β} (hf : Additive f) (hg : Additive g) :
    Additive fun a => f (g a) where
  map_xor a b := by rw [hg.map_xor, hf.map_xor]

/-- Additive maps that agree on some words agree on their sum. -/
theorem foldr_eq {f g : α → β} (hf : Additive f) (hg : Additive g) {zero : α} (start : f zero = g zero)
    {list : List α} (agree : ∀ a ∈ list, f a = g a) :
    f (list.foldr (· ^^^ ·) zero) = g (list.foldr (· ^^^ ·) zero) := by
  induction list with
  | nil => exact start
  | cons first rest ih =>
      obtain ⟨here, later⟩ := List.forall_mem_cons.mp agree
      rw [List.foldr_cons, hf.map_xor, hg.map_xor, here, ih later]

end Additive

end HeaderVault.Words
