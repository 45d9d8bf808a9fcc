set_option autoImplicit false

namespace PriceLadder

/-- A number of atoms, the smallest step between two prices. -/
abbrev Atoms := BitVec 256

/-- A word of twice the size, wide enough for the product of two numbers of atoms. -/
abbrev WideAtoms := BitVec 512

namespace Atoms

def ofNat? (n : Nat) : Option Atoms :=
  if n < Nat.pow 2 256 then some (BitVec.ofNat 256 n) else none

theorem ofNat?_eq_some_iff {n : Nat} {a : Atoms} : ofNat? n = some a ↔ a.toNat = n := by
  unfold ofNat?
  split
  · next h =>
    rw [Option.some.injEq, BitVec.toNat_eq, BitVec.toNat_ofNat, Nat.mod_eq_of_lt h]
    exact eq_comm
  · next h =>
    simp only [reduceCtorEq, false_iff]
    intro same
    rw [← same] at h
    exact h a.isLt

def add? (a b : Atoms) : Option Atoms :=
  ofNat? (a.toNat + b.toNat)

def mul? (a b : Atoms) : Option Atoms :=
  ofNat? (a.toNat * b.toNat)

theorem add?_eq_some_iff {a b c : Atoms} : add? a b = some c ↔ c.toNat = a.toNat + b.toNat :=
  ofNat?_eq_some_iff

theorem mul?_eq_some_iff {a b c : Atoms} : mul? a b = some c ↔ c.toNat = a.toNat * b.toNat :=
  ofNat?_eq_some_iff

def ofDigits? (digits : List Char) : Option Atoms :=
  ofNat? (Nat.ofDigitChars 10 digits 0)

/-- The greatest exponent of a power of ten that fits. -/
def greatestExponent : Nat := 77

def pow10? (e : Int) : Option Atoms :=
  if 0 ≤ e ∧ e ≤ greatestExponent then some (BitVec.ofNat 256 (Nat.pow 10 e.toNat)) else none

/-- The powers of ten above one that fit, in ascending order. -/
def powersOfTen : List Atoms :=
  (List.range greatestExponent).map fun i => BitVec.ofNat 256 (Nat.pow 10 (i + 1))

/-- The whole part of the decimal logarithm; zero has none. -/
def log10? (a : Atoms) : Option Nat :=
  if a = 0 then none else some (powersOfTen.takeWhile (· ≤ a)).length

def widen (a : Atoms) : WideAtoms :=
  a.setWidth 512

theorem widen_toNat (a : Atoms) : (widen a).toNat = a.toNat :=
  BitVec.toNat_setWidth_of_le (by decide)

def narrow? (w : WideAtoms) : Option Atoms :=
  if w >>> 256 = 0#512 then some (w.setWidth 256) else none

theorem narrow?_eq_ofNat? (w : WideAtoms) : narrow? w = ofNat? w.toNat := by
  have high : w >>> 256 = 0#512 ↔ w.toNat < Nat.pow 2 256 := by
    rw [BitVec.toNat_eq, BitVec.toNat_ushiftRight, Nat.shiftRight_eq_div_pow, BitVec.toNat_zero]
    exact Nat.div_eq_zero_iff_lt (Nat.two_pow_pos 256)
  have low : w.setWidth 256 = BitVec.ofNat 256 w.toNat := by
    rw [BitVec.toNat_eq, BitVec.toNat_setWidth, BitVec.toNat_ofNat]
  rw [narrow?, ofNat?, low]
  simp only [high]

/-- `a * b / d` rounded down, if `d` is not zero and the quotient fits. The product is taken in the
wide word, so it may itself be out of range. -/
def mulDiv? (a b d : Atoms) : Option Atoms :=
  if d = 0 then none else narrow? (widen a * widen b / widen d)

theorem toNat_setWidth_mul {width wide : Nat} (a b : BitVec width) (h : wide = width + width) :
    (a.setWidth wide * b.setWidth wide).toNat = a.toNat * b.toNat := by
  have product_lt : a.toNat * b.toNat < 2 ^ wide := by
    rw [h, Nat.pow_add]
    exact Nat.mul_lt_mul'' a.isLt b.isLt
  rw [BitVec.toNat_mul, BitVec.toNat_setWidth_of_le (by omega),
    BitVec.toNat_setWidth_of_le (by omega), Nat.mod_eq_of_lt product_lt]

theorem mulDiv?_eq (a b d : Atoms) :
    mulDiv? a b d = if d = 0 then none else ofNat? (a.toNat * b.toNat / d.toNat) := by
  unfold mulDiv?
  rw [narrow?_eq_ofNat?, BitVec.toNat_udiv, widen_toNat, widen, widen, toNat_setWidth_mul a b rfl]

def text (a : Atoms) : String :=
  a.toNat.repr

end Atoms

end PriceLadder
