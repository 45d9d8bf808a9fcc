import Mathlib.Data.Nat.Dist
import Mathlib.Tactic.Linarith
import PriceLadder.Proofs.Curve.Basic
import PriceLadder.Proofs.Words

set_option autoImplicit false

namespace PriceLadder

namespace Rounding

/-- Whether a rounding goes on to the upper tick from `rest` atoms above the lower one. -/
def GoesUp (rounding : Rounding) (rest step : Nat) : Prop :=
  match rounding with
  | .nearest => step ≤ 2 * rest
  | .floor => False
  | .ceil => 0 < rest

instance : (rounding : Rounding) → (rest step : Nat) → Decidable (rounding.GoesUp rest step)
  | .nearest, rest, step => inferInstanceAs (Decidable (step ≤ 2 * rest))
  | .floor, _, _ => inferInstanceAs (Decidable False)
  | .ceil, rest, _ => inferInstanceAs (Decidable (0 < rest))

theorem steps_eq (rounding : Rounding) (height step : Atoms) (positive : 0 < step.toNat) :
    rounding.steps height step =
      if rounding.GoesUp (height.toNat % step.toNat) step.toNat
      then Int64.ofNat (height / step).toNat + 1
      else Int64.ofNat (height / step).toNat := by
  have rest_lt := Nat.mod_lt height.toNat positive
  have rest : (height % step).toNat = height.toNat % step.toNat := BitVec.toNat_umod
  have half : step - height % step ≤ height % step ↔
      step.toNat ≤ 2 * (height.toNat % step.toNat) := by
    rw [BitVec.le_def, BitVec.toNat_sub_of_le (by rw [BitVec.le_def, rest]; omega), rest]
    omega
  have none : height % step = 0 ↔ ¬ 0 < height.toNat % step.toNat := by
    rw [BitVec.toNat_eq, rest, show (0 : Atoms).toNat = 0 from rfl]
    omega
  by_cases up : rounding.GoesUp (height.toNat % step.toNat) step.toNat
  · rw [if_pos up]
    cases rounding with
    | nearest => exact if_pos (half.2 up)
    | floor => exact up.elim
    | ceil => exact if_neg fun zero => none.1 zero up
  · rw [if_neg up]
    cases rounding with
    | nearest => exact if_neg fun reached => up (half.1 reached)
    | floor => rfl
    | ceil => exact if_pos (none.2 up)

theorem toInt_steps (rounding : Rounding) (height step : Atoms) (positive : 0 < step.toNat)
    (small : height.toNat / step.toNat < 2 ^ 62) :
    (rounding.steps height step).toInt = (height.toNat / step.toNat : Nat) +
      if rounding.GoesUp (height.toNat % step.toNat) step.toNat then 1 else 0 := by
  have whole : (Int64.ofNat (height / step).toNat).toInt = (height.toNat / step.toNat : Nat) := by
    rw [BitVec.toNat_udiv, Int64.toInt_ofNat_of_lt (by omega)]
  have one : (1 : Int64).toInt = 1 := rfl
  rw [steps_eq rounding height step positive]
  generalize height.toNat / step.toNat = quotient at small whole ⊢
  split
  · rw [Words.toInt_add (by omega) (by omega), whole, one]
  · rw [whole, Int.add_zero]

end Rounding

namespace Resolution

/-- The steps from the lowest price of its decade to a price, rounded down. -/
def stepsBelow (r : Resolution) (atoms : Nat) : Nat :=
  (atoms - 10 ^ Nat.log 10 atoms) / 10 ^ (Nat.log 10 atoms - r.exponent)

/-- The tick of a price, or the next one below it. -/
def tickBelow (r : Resolution) (atoms : Nat) : Int :=
  (Nat.log 10 atoms - Price.decimals) * r.width + r.stepsBelow atoms

/-- The tick that a rounding chooses for a price. -/
def tickAt (r : Resolution) (rounding : Rounding) (atoms : Nat) : Int :=
  if rounding.GoesUp (atoms - r.curve (r.tickBelow atoms)) (r.gap (r.tickBelow atoms))
  then r.tickBelow atoms + 1
  else r.tickBelow atoms

theorem tickAt_floor (r : Resolution) (atoms : Nat) : r.tickAt .floor atoms = r.tickBelow atoms :=
  rfl

theorem tickAt_ceil (r : Resolution) (atoms : Nat) : r.tickAt .ceil atoms =
    if 0 < atoms - r.curve (r.tickBelow atoms) then r.tickBelow atoms + 1 else r.tickBelow atoms :=
  rfl

theorem tickAt_nearest (r : Resolution) (atoms : Nat) : r.tickAt .nearest atoms =
    if r.gap (r.tickBelow atoms) ≤ 2 * (atoms - r.curve (r.tickBelow atoms))
    then r.tickBelow atoms + 1
    else r.tickBelow atoms :=
  rfl

theorem tickAt_between (r : Resolution) (rounding : Rounding) (atoms : Nat) :
    r.tickAt .floor atoms ≤ r.tickAt rounding atoms ∧
      r.tickAt rounding atoms ≤ r.tickAt .ceil atoms := by
  have gap := r.gap_pos (r.tickBelow atoms)
  cases rounding with
  | nearest =>
    rw [tickAt_floor, tickAt_ceil, tickAt_nearest]
    split <;> split <;> omega
  | floor =>
    rw [tickAt_floor, tickAt_ceil]
    split <;> omega
  | ceil =>
    rw [tickAt_floor, tickAt_ceil]
    split <;> omega

section

variable {r : Resolution} {atoms : Nat} (fine : 10 ^ r.exponent ≤ atoms)
include fine

theorem exponent_le_log : r.exponent ≤ Nat.log 10 atoms :=
  Nat.le_log_of_pow_le (by decide) fine

theorem pow_log_le : 10 ^ Nat.log 10 atoms ≤ atoms :=
  Nat.pow_log_le_self 10 (Nat.ne_of_gt (Nat.lt_of_lt_of_le (Nat.pow_pos (by decide)) fine))

theorem stepsBelow_lt_width : r.stepsBelow atoms < r.width := by
  have top : atoms < 10 ^ Nat.log 10 atoms * 10 :=
    Nat.lt_pow_succ_log_self (b := 10) (by decide) atoms
  have split : 10 ^ Nat.log 10 atoms = 10 ^ (Nat.log 10 atoms - r.exponent) * 10 ^ r.exponent := by
    rw [← Nat.pow_add, Nat.sub_add_cancel (exponent_le_log fine)]
  apply Nat.div_lt_of_lt_mul
  calc
    atoms - 10 ^ Nat.log 10 atoms < 9 * 10 ^ Nat.log 10 atoms := by omega
    _ = 10 ^ (Nat.log 10 atoms - r.exponent) * r.width := by
      rw [split, width_eq]
      ring

theorem decade_tickBelow : r.decade (r.tickBelow atoms) = Nat.log 10 atoms - Price.decimals :=
  decade_eq r (stepsBelow_lt_width fine)

theorem addressable_tickBelow : r.Addressable (r.tickBelow atoms) := by
  have exponent := exponent_le_log fine
  rw [Addressable, decade_tickBelow fine, stepExponent]
  omega

theorem gap_tickBelow : r.gap (r.tickBelow atoms) = 10 ^ (Nat.log 10 atoms - r.exponent) := by
  have exponent := exponent_le_log fine
  rw [gap, decade_tickBelow fine, stepExponent]
  congr 1
  omega

theorem curve_tickBelow : r.curve (r.tickBelow atoms) =
    10 ^ Nat.log 10 atoms + r.stepsBelow atoms * r.gap (r.tickBelow atoms) := by
  have offset : r.offset (r.tickBelow atoms) = r.stepsBelow atoms :=
    offset_eq r (stepsBelow_lt_width fine)
  rw [curve, offset, decade_tickBelow fine, baseExponent, Int.sub_add_cancel, Int.toNat_natCast]

theorem sub_curve_tickBelow : atoms - r.curve (r.tickBelow atoms) =
    (atoms - 10 ^ Nat.log 10 atoms) % r.gap (r.tickBelow atoms) := by
  have base := pow_log_le fine
  have division := Nat.div_add_mod' (atoms - 10 ^ Nat.log 10 atoms) (r.gap (r.tickBelow atoms))
  rw [curve_tickBelow fine, stepsBelow, ← gap_tickBelow fine]
  omega

theorem curve_tickBelow_le : r.curve (r.tickBelow atoms) ≤ atoms := by
  have base := pow_log_le fine
  have division := Nat.div_mul_le_self (atoms - 10 ^ Nat.log 10 atoms) (r.gap (r.tickBelow atoms))
  rw [curve_tickBelow fine, stepsBelow, ← gap_tickBelow fine]
  omega

theorem lt_curve_tickBelow_succ : atoms < r.curve (r.tickBelow atoms + 1) := by
  have below := curve_tickBelow_le fine
  have rest := sub_curve_tickBelow fine
  have small := Nat.mod_lt (atoms - 10 ^ Nat.log 10 atoms) (r.gap_pos (r.tickBelow atoms))
  rw [curve_succ r (addressable_tickBelow fine)]
  omega

/-- Rounding down is inverse to the curve from below, over the ends of all decades. -/
theorem curve_le_iff_le_tickAt_floor {tick : Int} (addressable : r.Addressable tick) :
    r.curve tick ≤ atoms ↔ tick ≤ r.tickAt .floor atoms := by
  have below := addressable_tickBelow fine
  rw [tickAt_floor]
  constructor
  · intro le
    refine Int.not_lt.1 fun above => ?_
    have next := (curve_le_curve_iff r (below.mono (by omega)) addressable).2 above
    exact Nat.not_lt.2 (Nat.le_trans next le) (lt_curve_tickBelow_succ fine)
  · intro le
    exact Nat.le_trans ((curve_le_curve_iff r addressable below).2 le) (curve_tickBelow_le fine)

/-- Rounding up is inverse to the curve from above, over the ends of all decades. -/
theorem le_curve_iff_tickAt_ceil_le {tick : Int} (addressable : r.Addressable tick) :
    atoms ≤ r.curve tick ↔ r.tickAt .ceil atoms ≤ tick := by
  have lower := addressable_tickBelow fine
  have below := curve_tickBelow_le fine
  rw [tickAt_ceil]
  -- The tick below the price costs less than it, or exactly as much.
  split
  · next missed =>
    have upper := lower.mono (show r.tickBelow atoms ≤ r.tickBelow atoms + 1 by omega)
    have above := lt_curve_tickBelow_succ fine
    have fromAbove := curve_le_curve_iff r upper addressable
    have fromBelow := curve_lt_curve_iff r lower addressable
    omega
  · next reached =>
    rw [← curve_le_curve_iff r lower addressable, Nat.le_antisymm below (by omega)]

/-- No tick's price is nearer than that of the chosen one, and no higher tick's is as near. -/
theorem dist_tickAt_nearest {tick : Int} (addressable : r.Addressable tick) :
    Nat.dist (r.curve (r.tickAt .nearest atoms)) atoms < Nat.dist (r.curve tick) atoms ∨
      Nat.dist (r.curve (r.tickAt .nearest atoms)) atoms = Nat.dist (r.curve tick) atoms ∧
        tick ≤ r.tickAt .nearest atoms := by
  have lower := addressable_tickBelow fine
  have upper := lower.mono (show r.tickBelow atoms ≤ r.tickBelow atoms + 1 by omega)
  have climb := curve_succ r lower
  have below := curve_tickBelow_le fine
  have above := lt_curve_tickBelow_succ fine
  have fromBelow := curve_le_curve_iff r addressable lower
  have fromAbove := curve_le_curve_iff r upper addressable
  have beyond := curve_lt_curve_iff r upper addressable
  rw [tickAt_nearest]
  unfold Nat.dist
  split <;> omega

end

theorem tickAt_curve (r : Resolution) (rounding : Rounding) {tick : Int}
    (addressable : r.Addressable tick) : r.tickAt rounding (r.curve tick) = tick := by
  have fine := r.pow_exponent_le_curve addressable
  have fromBelow := (curve_le_iff_le_tickAt_floor fine addressable).1 (Nat.le_refl _)
  have fromAbove := (le_curve_iff_tickAt_ceil_le fine addressable).1 (Nat.le_refl _)
  have between := r.tickAt_between rounding (r.curve tick)
  omega

theorem decade_mul_width_bounds (r : Resolution) {digits : Nat}
    (small : digits ≤ Atoms.greatestExponent) :
    -2 ^ 40 ≤ (digits - Price.decimals : Int) * r.width ∧
      (digits - Price.decimals : Int) * r.width ≤ 2 ^ 40 := by
  have width := r.width_le
  have decimals : Price.decimals = 24 := rfl
  unfold Atoms.greatestExponent at small
  constructor
  · nlinarith
  · nlinarith

theorem decadeStart_toInt (r : Resolution) {digits : Nat}
    (small : digits ≤ Atoms.greatestExponent) :
    (r.decadeStart (Int32.ofInt (digits - Price.decimals))).toInt =
      (digits - Price.decimals : Int) * r.width := by
  have bounds := r.decade_mul_width_bounds small
  have decimals : Price.decimals = 24 := rfl
  unfold Atoms.greatestExponent at small
  rw [decadeStart, Int32.toInt_ofInt_of_le (by omega) (by omega),
    Int64.toInt_ofInt_of_le (by omega) (by omega)]

theorem pow10?_baseExponent_log {atoms base : Atoms}
    (base_eq : base.toNat = 10 ^ Nat.log 10 atoms.toNat) :
    Atoms.pow10? (baseExponent (Nat.log 10 atoms.toNat - Price.decimals)) = some base := by
  have log_le := Atoms.log_le_greatestExponent atoms
  rw [Atoms.pow10?_eq_some_iff, baseExponent, Int.sub_add_cancel]
  exact ⟨by omega, by omega, base_eq⟩

theorem pow10?_stepExponent_log {r : Resolution} {atoms step : Atoms}
    (fine : 10 ^ r.exponent ≤ atoms.toNat)
    (step_eq : step.toNat = 10 ^ (Nat.log 10 atoms.toNat - r.exponent)) :
    Atoms.pow10? (r.stepExponent (Nat.log 10 atoms.toNat - Price.decimals)) = some step := by
  have log_le := Atoms.log_le_greatestExponent atoms
  have exponent := exponent_le_log fine
  rw [Atoms.pow10?_eq_some_iff, stepExponent]
  refine ⟨by omega, by omega, ?_⟩
  rw [step_eq]
  congr 1
  omega

theorem exactTick?_eq (r : Resolution) (rounding : Rounding) {price : Price} {base step : Atoms}
    (fine : 10 ^ r.exponent ≤ price.atoms.toNat)
    (base_eq : base.toNat = 10 ^ Nat.log 10 price.atoms.toNat)
    (step_eq : step.toNat = 10 ^ (Nat.log 10 price.atoms.toNat - r.exponent)) :
    r.exactTick? price rounding =
      some (r.decadeStart (Int32.ofInt (Nat.log 10 price.atoms.toNat - Price.decimals)) +
        rounding.steps (price.atoms - base) step) := by
  have nonzero : price.atoms ≠ 0 := by
    rintro zero
    rw [zero] at fine
    exact Nat.not_lt.2 fine (Nat.pow_pos (by decide))
  rw [exactTick?, Atoms.log10?_eq_log nonzero]
  simp only [Option.bind_eq_bind, Option.bind_some, pow10?_baseExponent_log base_eq,
    pow10?_stepExponent_log fine step_eq]

theorem exists_base_step {r : Resolution} {atoms : Atoms} (fine : 10 ^ r.exponent ≤ atoms.toNat) :
    ∃ base step : Atoms, base.toNat = 10 ^ Nat.log 10 atoms.toNat ∧
      step.toNat = r.gap (r.tickBelow atoms.toNat) ∧ base ≤ atoms ∧
      (atoms - base).toNat = atoms.toNat - 10 ^ Nat.log 10 atoms.toNat ∧
      (atoms - base).toNat / step.toNat = r.stepsBelow atoms.toNat := by
  have pow_le := pow_log_le fine
  have gap_eq := gap_tickBelow fine
  have gap_le : r.gap (r.tickBelow atoms.toNat) ≤ atoms.toNat := by
    rw [gap_eq]
    exact Nat.le_trans (Nat.pow_le_pow_right (by decide) (Nat.sub_le _ _)) pow_le
  obtain ⟨base, base_eq⟩ := Atoms.exists_toNat_eq_of_le pow_le
  obtain ⟨step, step_eq⟩ := Atoms.exists_toNat_eq_of_le gap_le
  have base_le : base ≤ atoms := by rwa [BitVec.le_def, base_eq]
  have height_eq : (atoms - base).toNat = atoms.toNat - 10 ^ Nat.log 10 atoms.toNat := by
    rw [BitVec.toNat_sub_of_le base_le, base_eq]
  refine ⟨base, step, base_eq, step_eq, base_le, height_eq, ?_⟩
  rw [height_eq, step_eq, gap_eq, stepsBelow]

/-- A price of at least `10 ^ k` atoms has a tick, and it is the one on the curve. -/
theorem exists_exactTick? (r : Resolution) (rounding : Rounding) {price : Price}
    (fine : 10 ^ r.exponent ≤ price.atoms.toNat) : ∃ tick : Int64,
      r.exactTick? price rounding = some tick ∧
        tick.toInt = r.tickAt rounding price.atoms.toNat := by
  have log_le := Atoms.log_le_greatestExponent price.atoms
  obtain ⟨base, step, base_eq, step_eq, -, height_eq, quotient⟩ := exists_base_step fine
  refine ⟨_, exactTick?_eq r rounding fine base_eq (step_eq.trans (gap_tickBelow fine)), ?_⟩
  have start := r.decadeStart_toInt log_le
  have bounds := r.decade_mul_width_bounds log_le
  have rest : (price.atoms - base).toNat % step.toNat =
      price.atoms.toNat - r.curve (r.tickBelow price.atoms.toNat) := by
    rw [height_eq, step_eq, sub_curve_tickBelow fine]
  have steps_lt := stepsBelow_lt_width fine
  have width := r.width_le
  have steps := rounding.toInt_steps (price.atoms - base) step
    (by rw [step_eq]; exact r.gap_pos _) (by omega)
  rw [quotient, rest, step_eq] at steps
  rw [Words.toInt_add, start, steps, tickAt, tickBelow]
  · split <;> omega
  · split at steps <;> omega
  · split at steps <;> omega

/-- Where the step of its decade is less than an atom a price has no tick. -/
theorem pow_exponent_le_of_exactTick? {r : Resolution} {rounding : Rounding} {price : Price}
    {tick : Int64} (found : r.exactTick? price rounding = some tick) :
    10 ^ r.exponent ≤ price.atoms.toNat := by
  obtain ⟨digits, log_eq, powers⟩ := Option.bind_eq_some_iff.1 found
  obtain ⟨base, -, stepped⟩ := Option.bind_eq_some_iff.1 powers
  obtain ⟨step, power, -⟩ := Option.bind_eq_some_iff.1 stepped
  have nonzero : price.atoms ≠ 0 := by
    intro zero
    rw [zero] at log_eq
    cases log_eq
  rw [Atoms.log10?_eq_log nonzero, Option.some.injEq] at log_eq
  have whole := (Atoms.pow10?_eq_some_iff.1 power).1
  unfold stepExponent at whole
  exact Nat.pow_le_of_le_log (Atoms.toNat_ne_zero nonzero) (by omega)

theorem exactTick?_eq_some_iff (r : Resolution) {rounding : Rounding} {price : Price}
    {tick : Int64} : r.exactTick? price rounding = some tick ↔
      10 ^ r.exponent ≤ price.atoms.toNat ∧
        tick.toInt = r.tickAt rounding price.atoms.toNat := by
  constructor
  · intro found
    have fine := pow_exponent_le_of_exactTick? found
    obtain ⟨own, ownFound, own_eq⟩ := r.exists_exactTick? rounding fine
    rw [Option.some.inj (found.symm.trans ownFound)]
    exact ⟨fine, own_eq⟩
  · rintro ⟨fine, tick_eq⟩
    obtain ⟨own, ownFound, own_eq⟩ := r.exists_exactTick? rounding fine
    rw [ownFound, Int64.toInt_inj.1 (tick_eq.trans own_eq.symm)]

end Resolution

end PriceLadder
