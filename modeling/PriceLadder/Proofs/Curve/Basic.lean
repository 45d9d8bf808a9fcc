import Mathlib.Tactic.Linarith
import Mathlib.Tactic.Ring
import PriceLadder.Proofs.Atoms
import PriceLadder.Resolution

set_option autoImplicit false

namespace PriceLadder.Resolution

/-- The decade that a tick lies in, however far out. -/
def decade (r : Resolution) (tick : Int) : Int :=
  tick / r.width

def offset (r : Resolution) (tick : Int) : Nat :=
  (tick % r.width).toNat

/-- Whether the step in the decade of a tick is a whole number of atoms. -/
def Addressable (r : Resolution) (tick : Int) : Prop :=
  0 ≤ r.stepExponent (r.decade tick)

def gap (r : Resolution) (tick : Int) : Nat :=
  10 ^ (r.stepExponent (r.decade tick)).toNat

/-- The atoms of the price of a tick as a whole number, without words that could be too small for a
tick, a decade or a price. -/
def curve (r : Resolution) (tick : Int) : Nat :=
  10 ^ (baseExponent (r.decade tick)).toNat + r.offset tick * r.gap tick

theorem gap_pos (r : Resolution) (tick : Int) : 0 < r.gap tick :=
  Nat.pow_pos (by decide)

theorem width_eq (r : Resolution) : r.width = 9 * 10 ^ r.exponent :=
  rfl

theorem width_le (r : Resolution) : r.width ≤ 900000000 := by
  have power := Nat.pow_le_pow_right (n := 10) (by decide) r.exponent_le_eight
  rw [width_eq]
  omega

theorem offset_lt_width (r : Resolution) (tick : Int) : r.offset tick < r.width := by
  have width := r.width_pos
  have below := Int.emod_lt_of_pos tick (b := r.width) (by omega)
  unfold offset
  omega

theorem decade_mul_width_add_offset (r : Resolution) (tick : Int) :
    r.decade tick * r.width + r.offset tick = tick := by
  have width := r.width_pos
  have nonneg := Int.emod_nonneg tick (b := r.width) (by omega)
  rw [offset, Int.toNat_of_nonneg nonneg, decade, Int.ediv_mul_add_emod]

theorem decade_eq (r : Resolution) {decade : Int} {offset : Nat} (inside : offset < r.width) :
    r.decade (decade * r.width + offset) = decade := by
  have width := r.width_pos
  rw [Resolution.decade, Int.add_comm, Int.add_mul_ediv_right _ _ (by omega),
    Int.ediv_eq_zero_of_lt (by omega) (by omega), Int.zero_add]

theorem offset_eq (r : Resolution) {decade : Int} {offset : Nat} (inside : offset < r.width) :
    r.offset (decade * r.width + offset) = offset := by
  rw [Resolution.offset, Int.add_comm, Int.add_mul_emod_self_right,
    Int.emod_eq_of_lt (by omega) (by omega), Int.toNat_natCast]

theorem decade_mono (r : Resolution) {tick other : Int} (le : tick ≤ other) :
    r.decade tick ≤ r.decade other :=
  Int.ediv_le_ediv (by have := r.width_pos; omega) le

theorem Addressable.mono {r : Resolution} {tick other : Int} (addressable : r.Addressable tick)
    (le : tick ≤ other) : r.Addressable other := by
  have decades := r.decade_mono le
  unfold Addressable stepExponent at *
  omega

theorem pow_baseExponent (r : Resolution) {tick : Int} (addressable : r.Addressable tick) :
    10 ^ (baseExponent (r.decade tick)).toNat = 10 ^ r.exponent * r.gap tick := by
  unfold Addressable stepExponent at addressable
  rw [gap, ← Nat.pow_add]
  congr 1
  unfold baseExponent stepExponent
  omega

/-- A price counted in steps: those up to its decade, and those within it. -/
theorem curve_eq_mul (r : Resolution) {tick : Int} (addressable : r.Addressable tick) :
    r.curve tick = (10 ^ r.exponent + r.offset tick) * r.gap tick := by
  rw [curve, pow_baseExponent r addressable, Nat.add_mul]

theorem pow_mul_gap_le_curve (r : Resolution) {tick : Int} (addressable : r.Addressable tick) :
    10 ^ r.exponent * r.gap tick ≤ r.curve tick := by
  rw [curve_eq_mul r addressable]
  exact Nat.mul_le_mul_right _ (Nat.le_add_right _ _)

theorem curve_lt_pow_mul_gap (r : Resolution) {tick : Int} (addressable : r.Addressable tick) :
    r.curve tick < 10 ^ (r.exponent + 1) * r.gap tick := by
  have offset := r.offset_lt_width tick
  rw [width_eq] at offset
  rw [curve_eq_mul r addressable, Nat.pow_succ]
  apply Nat.mul_lt_mul_of_pos_right _ (r.gap_pos tick)
  omega

theorem pow_exponent_le_curve (r : Resolution) {tick : Int} (addressable : r.Addressable tick) :
    10 ^ r.exponent ≤ r.curve tick :=
  Nat.le_trans (Nat.le_mul_of_pos_right _ (r.gap_pos tick)) (r.pow_mul_gap_le_curve addressable)

theorem pow_baseExponent_le_curve (r : Resolution) (tick : Int) :
    10 ^ (baseExponent (r.decade tick)).toNat ≤ r.curve tick :=
  Nat.le_add_right _ _

theorem curve_lt_pow (r : Resolution) {tick : Int} (addressable : r.Addressable tick) :
    r.curve tick < 10 ^ ((baseExponent (r.decade tick)).toNat + 1) := by
  rw [Nat.pow_succ, pow_baseExponent r addressable, Nat.mul_right_comm, ← Nat.pow_succ]
  exact r.curve_lt_pow_mul_gap addressable

theorem nine_mul_pow_le_curve (r : Resolution) {tick : Int} (addressable : r.Addressable tick)
    (last : r.offset tick + 1 = r.width) :
    9 * 10 ^ (baseExponent (r.decade tick)).toNat ≤ r.curve tick := by
  have positive : 0 < 10 ^ r.exponent := Nat.pow_pos (by decide)
  rw [width_eq] at last
  rw [pow_baseExponent r addressable, curve_eq_mul r addressable, ← Nat.mul_assoc]
  apply Nat.mul_le_mul_right
  omega

/-- The decade of a tick is the one that its price is in. -/
theorem log_curve (r : Resolution) {tick : Int} (addressable : r.Addressable tick) :
    Nat.log 10 (r.curve tick) = (baseExponent (r.decade tick)).toNat :=
  Nat.log_eq_of_pow_le_of_lt_pow (r.pow_baseExponent_le_curve tick) (r.curve_lt_pow addressable)

theorem gap_of_decade_eq_succ {r : Resolution} {tick other : Int} (addressable : r.Addressable tick)
    (next : r.decade other = r.decade tick + 1) : r.gap other = 10 * r.gap tick := by
  unfold Addressable stepExponent at addressable
  rw [gap, next, gap, ← Nat.pow_succ']
  congr 1
  unfold stepExponent
  omega

/-- The step after the last tick of a decade leads to the lowest price of the next one: a decade
has nine times as many ticks as there are steps below it. -/
theorem curve_seam (r : Resolution) {tick : Int} (addressable : r.Addressable tick)
    (last : r.offset tick + 1 = r.width) : r.curve (tick + 1) = r.curve tick + r.gap tick := by
  have position := r.decade_mul_width_add_offset tick
  have next : tick + 1 = (r.decade tick + 1) * r.width + (0 : Nat) := by
    rw [Int.add_mul]
    omega
  have nextGap : r.gap (tick + 1) = 10 * r.gap tick :=
    gap_of_decade_eq_succ addressable (by rw [next, decade_eq r r.width_pos])
  have nextOffset : r.offset (tick + 1) = 0 := by
    rw [next, offset_eq r r.width_pos]
  rw [curve_eq_mul r (addressable.mono (by omega)), nextOffset, nextGap,
    curve_eq_mul r addressable]
  have steps : 10 * 10 ^ r.exponent = 10 ^ r.exponent + r.offset tick + 1 := by
    rw [width_eq] at last
    omega
  calc
    (10 ^ r.exponent + 0) * (10 * r.gap tick) = 10 * 10 ^ r.exponent * r.gap tick := by ring
    _ = (10 ^ r.exponent + r.offset tick) * r.gap tick + r.gap tick := by rw [steps]; ring

/-- The curve climbs by the step of a tick's decade, also out of the decade. -/
theorem curve_succ (r : Resolution) {tick : Int} (addressable : r.Addressable tick) :
    r.curve (tick + 1) = r.curve tick + r.gap tick := by
  have offset := r.offset_lt_width tick
  -- Only the last tick of a decade has its successor in another decade.
  by_cases last : r.offset tick + 1 = r.width
  · exact curve_seam r addressable last
  · have inside : r.offset tick + 1 < r.width := by omega
    have next : tick + 1 = r.decade tick * r.width + (r.offset tick + 1 : Nat) := by
      have position := r.decade_mul_width_add_offset tick
      omega
    rw [curve, curve, gap, gap, next, decade_eq r inside, offset_eq r inside]
    ring

theorem curve_lt_succ (r : Resolution) {tick : Int} (addressable : r.Addressable tick) :
    r.curve tick < r.curve (tick + 1) := by
  have positive := r.gap_pos tick
  rw [curve_succ r addressable]
  omega

theorem curve_lt_curve (r : Resolution) {tick other : Int} (addressable : r.Addressable tick)
    (lt : tick < other) : r.curve tick < r.curve other := by
  obtain ⟨steps, rfl⟩ := Int.exists_add_of_le (show tick + 1 ≤ other from lt)
  induction steps with
  | zero => simpa using r.curve_lt_succ addressable
  | succ steps ih =>
    have next := r.curve_lt_succ (addressable.mono (show tick ≤ tick + 1 + steps by omega))
    exact Nat.lt_trans (ih (by omega)) (by simpa [Int.add_assoc] using next)

theorem curve_le_curve_iff (r : Resolution) {tick other : Int} (addressable : r.Addressable tick)
    (otherAddressable : r.Addressable other) : r.curve tick ≤ r.curve other ↔ tick ≤ other := by
  constructor
  · intro le
    refine Int.not_lt.1 fun above => ?_
    exact Nat.not_lt.2 le (r.curve_lt_curve otherAddressable above)
  · intro le
    rcases Int.lt_or_eq_of_le le with lt | rfl
    · exact Nat.le_of_lt (r.curve_lt_curve addressable lt)
    · exact Nat.le_refl _

theorem curve_lt_curve_iff (r : Resolution) {tick other : Int} (addressable : r.Addressable tick)
    (otherAddressable : r.Addressable other) : r.curve tick < r.curve other ↔ tick < other := by
  rw [← Nat.not_le, curve_le_curve_iff r otherAddressable addressable, Int.not_le]

theorem toNat_offset (r : Resolution) (tick : Int) :
    (BitVec.ofNat 256 (r.offset tick)).toNat = r.offset tick := by
  have offset := r.offset_lt_width tick
  have width := r.width_le
  rw [BitVec.toNat_ofNat, Nat.mod_eq_of_lt (Nat.lt_of_lt_of_le offset (by omega))]

theorem decadeOfTick_toInt64 (r : Resolution) (tick : Int32) :
    (r.decadeOfTick tick.toInt64).toInt = r.decade tick.toInt := by
  have lower := tick.le_toInt
  have upper := tick.toInt_lt
  have width := r.width_pos
  have low : -2 ^ 31 ≤ tick.toInt / r.width := by
    apply Int.le_ediv_of_mul_le (by omega)
    omega
  have high : tick.toInt / r.width < 2 ^ 31 := by
    apply Int.ediv_lt_of_lt_mul (by omega)
    omega
  rw [decadeOfTick, Int32.toInt_toInt64, Int32.toInt_ofInt_of_le low high, decade]

/-- The tick that a word stands for: the one at its place in the decade that it is taken to be
in. -/
def place (r : Resolution) (tick : Int64) : Int :=
  (r.decadeOfTick tick).toInt * r.width + r.offset tick.toInt

theorem decade_place (r : Resolution) (tick : Int64) :
    r.decade (r.place tick) = (r.decadeOfTick tick).toInt :=
  decade_eq r (r.offset_lt_width tick.toInt)

theorem offset_place (r : Resolution) (tick : Int64) :
    r.offset (r.place tick) = r.offset tick.toInt :=
  offset_eq r (r.offset_lt_width tick.toInt)

/-- While decades do not wrap around, a word stands for the tick that it is. -/
theorem place_eq_toInt (r : Resolution) {tick : Int64}
    (faithful : (r.decadeOfTick tick).toInt = r.decade tick.toInt) : r.place tick = tick.toInt := by
  rw [place, faithful, decade_mul_width_add_offset]

theorem place_toInt64 (r : Resolution) (tick : Int32) : r.place tick.toInt64 = tick.toInt := by
  have faithful : (r.decadeOfTick tick.toInt64).toInt = r.decade tick.toInt64.toInt := by
    rw [decadeOfTick_toInt64, Int32.toInt_toInt64]
  rw [r.place_eq_toInt faithful, Int32.toInt_toInt64]

theorem exists_place_eq (r : Resolution) (decade : Int32) {offset : Nat}
    (inside : offset < r.width) : ∃ tick : Int64,
      r.decadeOfTick tick = decade ∧ r.place tick = decade.toInt * r.width + offset := by
  have lower := decade.le_toInt
  have upper := decade.toInt_lt
  have width := r.width_le
  have low : -2 ^ 63 ≤ decade.toInt * r.width + offset := by nlinarith
  have high : decade.toInt * r.width + offset < 2 ^ 63 := by nlinarith
  have value := Int64.toInt_ofInt_of_le low high
  have own : r.decadeOfTick (Int64.ofInt (decade.toInt * r.width + offset)) = decade := by
    rw [decadeOfTick, value, ← Resolution.decade, decade_eq r inside, Int32.ofInt_toInt]
  exact ⟨_, own, by rw [place, own, value, offset_eq r inside]⟩

/-- A tick has a price exactly where its step is a whole number of atoms and the price fits. No
power or product on the way is larger than the price. -/
theorem exactPrice?_eq_some_iff_place (r : Resolution) {tick : Int64} {price : Price} :
    r.exactPrice? tick = some price ↔
      r.Addressable (r.place tick) ∧ price.atoms.toNat = r.curve (r.place tick) := by
  have offset : r.offsetInDecade tick = r.offset (r.place tick) := (r.offset_place tick).symm
  simp only [exactPrice?, ← decade_place, offset, Option.bind_eq_bind, Option.bind_eq_some_iff,
    Atoms.pow10?_eq_some_iff, Atoms.mul?_eq_some_iff, Option.map_eq_map, Option.map_eq_some_iff,
    Atoms.add?_eq_some_iff, toNat_offset]
  generalize r.place tick = place
  constructor
  · rintro ⟨base, ⟨-, -, base_eq⟩, step, ⟨nonneg, -, step_eq⟩, climb, climb_eq, atoms, sum, rfl⟩
    refine ⟨nonneg, ?_⟩
    rw [sum, climb_eq, base_eq, step_eq, curve, gap]
    ring
  · rintro ⟨addressable, price_eq⟩
    have base_le : 10 ^ (baseExponent (r.decade place)).toNat ≤ price.atoms.toNat := by
      rw [price_eq]
      exact r.pow_baseExponent_le_curve place
    have gap_le : r.gap place ≤ 10 ^ (baseExponent (r.decade place)).toNat := by
      rw [pow_baseExponent r addressable]
      exact Nat.le_mul_of_pos_left _ (Nat.pow_pos (by decide))
    have climb_le : r.gap place * r.offset place ≤ price.atoms.toNat := by
      rw [price_eq, curve, Nat.mul_comm]
      exact Nat.le_add_left _ _
    have exponent_le := Atoms.exponent_le_of_pow_le base_le
    have finer := r.one_le_exponent
    have nonneg := addressable
    unfold Addressable stepExponent at nonneg
    unfold baseExponent at exponent_le
    obtain ⟨base, base_eq⟩ := Atoms.exists_toNat_eq_of_le base_le
    obtain ⟨step, step_eq⟩ := Atoms.exists_toNat_eq_of_le (Nat.le_trans gap_le base_le)
    obtain ⟨climb, climb_eq⟩ := Atoms.exists_toNat_eq_of_le climb_le
    refine ⟨base, ⟨by unfold baseExponent; omega, by unfold baseExponent; omega, base_eq⟩, step,
      ⟨addressable, by unfold stepExponent; omega, step_eq⟩, climb, by rw [climb_eq, step_eq, gap],
      price.atoms, ?_, rfl⟩
    rw [price_eq, climb_eq, base_eq, curve]
    ring

end PriceLadder.Resolution
