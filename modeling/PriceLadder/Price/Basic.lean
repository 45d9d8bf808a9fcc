import PriceLadder.Atoms

set_option autoImplicit false

namespace PriceLadder

/-- A decimal that is not negative and has 24 places, counted in atoms of `10 ^ -24`. -/
structure Price where
  atoms : Atoms
deriving DecidableEq, Inhabited

namespace Price

def decimals : Nat := 24

def scale : Atoms := BitVec.ofNat 256 (Nat.pow 10 decimals)

def zero : Price := ⟨0⟩

def one : Price := ⟨scale⟩

instance : LE Price := ⟨fun a b => a.atoms ≤ b.atoms⟩

instance : LT Price := ⟨fun a b => a.atoms < b.atoms⟩

instance (a b : Price) : Decidable (a ≤ b) := inferInstanceAs (Decidable (a.atoms ≤ b.atoms))

instance (a b : Price) : Decidable (a < b) := inferInstanceAs (Decidable (a.atoms < b.atoms))

instance : Ord Price := ⟨fun a b => compareOfLessAndEq a b⟩

instance : Min Price := ⟨fun a b => if a ≤ b then a else b⟩

instance : Max Price := ⟨fun a b => if a ≤ b then b else a⟩

theorem le_iff_toNat_le {a b : Price} : a ≤ b ↔ a.atoms.toNat ≤ b.atoms.toNat :=
  BitVec.le_def

theorem lt_iff_toNat_lt {a b : Price} : a < b ↔ a.atoms.toNat < b.atoms.toNat :=
  BitVec.lt_def

protected theorem le_trans {a b c : Price} (first : a ≤ b) (second : b ≤ c) : a ≤ c := by
  rw [le_iff_toNat_le] at first second ⊢
  exact Nat.le_trans first second

protected theorem lt_of_lt_of_le {a b c : Price} (first : a < b) (second : b ≤ c) : a < c := by
  rw [lt_iff_toNat_lt] at first ⊢
  exact Nat.lt_of_lt_of_le first (le_iff_toNat_le.1 second)

protected theorem lt_of_le_of_lt {a b c : Price} (first : a ≤ b) (second : b < c) : a < c := by
  rw [lt_iff_toNat_lt] at second ⊢
  exact Nat.lt_of_le_of_lt (le_iff_toNat_le.1 first) second

theorem zero_lt_iff {price : Price} : zero < price ↔ price ≠ zero := by
  rw [lt_iff_toNat_lt, show zero.atoms.toNat = 0 from rfl, Nat.pos_iff_ne_zero]
  apply not_congr
  constructor
  · intro none
    exact congrArg mk (BitVec.eq_of_toNat_eq none)
  · rintro rfl
    rfl

theorem scale_toNat : scale.toNat = Nat.pow 10 decimals := rfl

/-- The product, rounded down. -/
def mul? (a b : Price) : Option Price :=
  (Atoms.mulDiv? a.atoms b.atoms scale).map Price.mk

/-- The quotient, rounded down; none by a price of nothing. -/
def div? (a b : Price) : Option Price :=
  (Atoms.mulDiv? a.atoms scale b.atoms).map Price.mk

end Price

end PriceLadder
