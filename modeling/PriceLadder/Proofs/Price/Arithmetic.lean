import Mathlib.Algebra.Group.Nat.Defs
import PriceLadder.Price.Basic
import PriceLadder.Proofs.Atoms

set_option autoImplicit false

namespace PriceLadder.Price

theorem ofNat?_map_eq_some_iff {n : Nat} {p : Price} :
    (Atoms.ofNat? n).map mk = some p ↔ p.atoms.toNat = n := by
  rw [Option.map_eq_some_iff]
  constructor
  · rintro ⟨atoms, fits, rfl⟩
    exact Atoms.ofNat?_eq_some_iff.1 fits
  · intro value
    exact ⟨p.atoms, Atoms.ofNat?_eq_some_iff.2 value, rfl⟩

theorem mul?_eq (a b : Price) :
    a.mul? b = (Atoms.ofNat? (a.atoms.toNat * b.atoms.toNat / 10 ^ decimals)).map mk := by
  rw [mul?, Atoms.mulDiv?_eq, if_neg (by decide), scale_toNat, Nat.pow_eq]

theorem div?_eq (a : Price) {b : Price} (positive : zero < b) :
    a.div? b = (Atoms.ofNat? (a.atoms.toNat * 10 ^ decimals / b.atoms.toNat)).map mk := by
  have nonzero : b.atoms ≠ 0 := fun none => zero_lt_iff.1 positive (congrArg mk none)
  rw [div?, Atoms.mulDiv?_eq, if_neg nonzero, scale_toNat, Nat.pow_eq]

theorem mul?_eq_some_iff {a b p : Price} :
    a.mul? b = some p ↔ p.atoms.toNat = a.atoms.toNat * b.atoms.toNat / 10 ^ decimals := by
  rw [mul?_eq, ofNat?_map_eq_some_iff]

theorem mul?_eq_none_iff {a b : Price} :
    a.mul? b = none ↔ 2 ^ 256 ≤ a.atoms.toNat * b.atoms.toNat / 10 ^ decimals := by
  rw [mul?_eq, Option.map_eq_none_iff, Atoms.ofNat?_eq_none_iff]

theorem div?_eq_some_iff {a b p : Price} (positive : zero < b) :
    a.div? b = some p ↔ p.atoms.toNat = a.atoms.toNat * 10 ^ decimals / b.atoms.toNat := by
  rw [div?_eq a positive, ofNat?_map_eq_some_iff]

theorem eq_iff_toNat_eq {a b : Price} : a = b ↔ a.atoms.toNat = b.atoms.toNat := by
  rw [← BitVec.toNat_eq]
  exact ⟨congrArg atoms, congrArg mk⟩

theorem toNat_min (a b : Price) : (min a b).atoms.toNat = min a.atoms.toNat b.atoms.toNat := by
  change (if a ≤ b then a else b).atoms.toNat = _
  simp only [le_iff_toNat_le]
  split <;> omega

theorem toNat_max (a b : Price) : (max a b).atoms.toNat = max a.atoms.toNat b.atoms.toNat := by
  change (if a ≤ b then b else a).atoms.toNat = _
  simp only [le_iff_toNat_le]
  split <;> omega

end PriceLadder.Price
