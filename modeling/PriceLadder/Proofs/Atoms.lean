import Mathlib.Algebra.Group.Nat.Defs
import Mathlib.Data.Nat.Log
import PriceLadder.Atoms

set_option autoImplicit false

namespace PriceLadder.Atoms

theorem ofNat?_eq_none_iff {n : Nat} : ofNat? n = none ↔ 2 ^ 256 ≤ n := by
  unfold ofNat?
  split
  · next fits => simpa using fits
  · next h => simpa using h

theorem toNat_ofNat_pow {e : Nat} (small : e ≤ greatestExponent) :
    (BitVec.ofNat 256 (Nat.pow 10 e)).toNat = 10 ^ e := by
  have fits : 10 ^ e ≤ 10 ^ 77 := Nat.pow_le_pow_right (by decide) small
  rw [BitVec.toNat_ofNat, Nat.pow_eq]
  exact Nat.mod_eq_of_lt (Nat.lt_of_le_of_lt fits (by decide))

theorem pow10?_eq_some_iff {e : Int} {a : Atoms} :
    pow10? e = some a ↔ 0 ≤ e ∧ e ≤ greatestExponent ∧ a.toNat = 10 ^ e.toNat := by
  unfold pow10?
  split
  · next h =>
    rw [Option.some.injEq, BitVec.toNat_eq, toNat_ofNat_pow (by omega)]
    exact ⟨fun same => ⟨h.1, h.2, same.symm⟩, fun same => same.2.2.symm⟩
  · next h =>
    simp only [reduceCtorEq, false_iff]
    exact fun same => h ⟨same.1, same.2.1⟩

/-- The front of a range up to the first number that fails a test. -/
theorem length_takeWhile_range {n stop : Nat} {p : Nat → Bool} (inside : stop ≤ n)
    (before : ∀ i < stop, p i = true) (atStop : stop < n → p stop = false) :
    ((List.range n).takeWhile p).length = stop := by
  obtain ⟨rest, rfl⟩ := Nat.exists_eq_add_of_le inside
  have front : ∀ i ∈ List.range stop, p i = true := fun i member =>
    before i (List.mem_range.1 member)
  rw [List.range_add, List.takeWhile_append_of_pos front, List.length_append, List.length_range]
  cases rest with
  | zero => rfl
  | succ rest =>
    have ended := atStop (by omega)
    rw [List.range_succ_eq_map, List.map_cons, Nat.add_zero,
      List.takeWhile_cons_of_neg (by simp [ended])]
    rfl

theorem toNat_lt_pow (a : Atoms) : a.toNat < 10 ^ (greatestExponent + 1) :=
  Nat.lt_trans a.isLt (by decide)

theorem exponent_le_of_pow_le {a : Atoms} {e : Nat} (h : 10 ^ e ≤ a.toNat) :
    e ≤ greatestExponent := by
  have below := Nat.lt_of_le_of_lt h (toNat_lt_pow a)
  exact Nat.le_of_lt_succ ((Nat.pow_lt_pow_iff_right (by decide)).1 below)

theorem exists_toNat_eq {n : Nat} (fits : n < 2 ^ 256) : ∃ a : Atoms, a.toNat = n := by
  refine ⟨BitVec.ofNat 256 n, ?_⟩
  rw [BitVec.toNat_ofNat, Nat.mod_eq_of_lt fits]

theorem exists_toNat_eq_of_le {a : Atoms} {n : Nat} (h : n ≤ a.toNat) : ∃ b : Atoms, b.toNat = n :=
  exists_toNat_eq (Nat.lt_of_le_of_lt h a.isLt)

theorem toNat_ne_zero {a : Atoms} (h : a ≠ 0) : a.toNat ≠ 0 := fun zero =>
  h (BitVec.eq_of_toNat_eq zero)

theorem log_le_greatestExponent (a : Atoms) : Nat.log 10 a.toNat ≤ greatestExponent := by
  have bound := Nat.log_lt_of_lt_pow' (by decide) (toNat_lt_pow a)
  omega

/-- The logarithm counts the powers of ten that the number reaches; it is right on both sides of
each power, and beyond the last one. -/
theorem log10?_eq_log {a : Atoms} (h : a ≠ 0) : a.log10? = some (Nat.log 10 a.toNat) := by
  have nonzero := toNat_ne_zero h
  have reached (i : Nat) (inside : i < greatestExponent) :
      BitVec.ofNat 256 (Nat.pow 10 (i + 1)) ≤ a ↔ i < Nat.log 10 a.toNat := by
    rw [BitVec.le_def, toNat_ofNat_pow (Nat.succ_le_of_lt inside)]
    exact (Nat.le_log_iff_pow_le (by decide) nonzero).symm
  have last := log_le_greatestExponent a
  rw [log10?, if_neg h, powersOfTen, List.takeWhile_map, List.length_map]
  congr 1
  apply length_takeWhile_range last
  · intro i below
    exact decide_eq_true ((reached i (by omega)).2 below)
  · intro inside
    exact decide_eq_false fun reach => Nat.lt_irrefl _ ((reached _ inside).1 reach)

end PriceLadder.Atoms
