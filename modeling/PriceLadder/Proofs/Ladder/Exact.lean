import Mathlib.Data.BitVec
import PriceLadder.Ladder.Exact
import PriceLadder.Proofs.Curve.Inverse

set_option autoImplicit false

namespace PriceLadder.Ladder

theorem inBounds_iff (l : Ladder) {tick : Int32} :
    l.inBounds tick ↔ l.minTick.toInt ≤ tick.toInt ∧ tick.toInt ≤ l.maxTick.toInt := by
  rw [inBounds, Bool.and_eq_true, decide_eq_true_eq, decide_eq_true_eq, Int32.le_iff_toInt_le,
    Int32.le_iff_toInt_le]

theorem minTick_toInt_lt (l : Ladder) : l.minTick.toInt < l.maxTick.toInt :=
  Int32.lt_iff_toInt_lt.1 l.minTick_lt_maxTick

theorem inBounds_minTick (l : Ladder) : l.inBounds l.minTick := by
  have ascending := l.minTick_toInt_lt
  rw [inBounds_iff]
  omega

theorem inBounds_maxTick (l : Ladder) : l.inBounds l.maxTick := by
  have ascending := l.minTick_toInt_lt
  rw [inBounds_iff]
  omega

theorem addressable_minTick (l : Ladder) : l.resolution.Addressable l.minTick.toInt := by
  have step := l.step_ge
  unfold Resolution.stepAt at step
  rw [Resolution.decadeOfTick_toInt64] at step
  unfold Resolution.Addressable Resolution.stepExponent
  omega

theorem addressable (l : Ladder) {tick : Int32} (inside : l.inBounds tick) :
    l.resolution.Addressable tick.toInt :=
  l.addressable_minTick.mono (l.inBounds_iff.1 inside).1

theorem addressable_of_decade_le (l : Ladder) {tick : Int}
    (decades : l.resolution.decade l.minTick.toInt ≤ l.resolution.decade tick) :
    l.resolution.Addressable tick := by
  have lowest := l.addressable_minTick
  unfold Resolution.Addressable Resolution.stepExponent at *
  omega

theorem curve_lt_of_decade_le (l : Ladder) {tick : Int}
    (addressable : l.resolution.Addressable tick)
    (decades : l.resolution.decade tick ≤ l.resolution.decade l.maxTick.toInt) :
    l.resolution.curve tick < 2 ^ 256 := by
  have reach := l.reach_le
  unfold Resolution.reachAt at reach
  rw [Resolution.decadeOfTick_toInt64] at reach
  have nonneg := addressable
  unfold Resolution.Addressable Resolution.stepExponent at nonneg
  calc
    l.resolution.curve tick <
        10 ^ ((Resolution.baseExponent (l.resolution.decade tick)).toNat + 1) :=
      l.resolution.curve_lt_pow addressable
    _ ≤ 10 ^ Atoms.greatestExponent := by
      apply Nat.pow_le_pow_right (by decide)
      unfold Resolution.baseExponent
      omega
    _ < 2 ^ 256 := by decide

theorem curve_lt (l : Ladder) {tick : Int32} (inside : l.inBounds tick) :
    l.resolution.curve tick.toInt < 2 ^ 256 :=
  l.curve_lt_of_decade_le (l.addressable inside)
    (l.resolution.decade_mono (l.inBounds_iff.1 inside).2)

theorem curve_between (l : Ladder) {tick : Int32} (inside : l.inBounds tick) :
    l.resolution.curve l.minTick.toInt ≤ l.resolution.curve tick.toInt ∧
      l.resolution.curve tick.toInt ≤ l.resolution.curve l.maxTick.toInt := by
  have position := l.inBounds_iff.1 inside
  have addressable := l.addressable inside
  rw [l.resolution.curve_le_curve_iff l.addressable_minTick addressable,
    l.resolution.curve_le_curve_iff addressable (l.addressable l.inBounds_maxTick)]
  exact position

theorem boundTick_of_inBounds (l : Ladder) {tick : Int32} (inside : l.inBounds tick) :
    l.boundTick tick = .ok tick :=
  if_pos inside

/-- Between the bounds every tick has a price, that of the curve. -/
theorem exists_exactPrice (l : Ladder) {tick : Int32} (inside : l.inBounds tick) :
    ∃ price, l.exactPrice tick = .ok price ∧
      price.atoms.toNat = l.resolution.curve tick.toInt := by
  obtain ⟨atoms, value⟩ := Atoms.exists_toNat_eq (l.curve_lt inside)
  have found : l.resolution.exactPrice? tick.toInt64 = some ⟨atoms⟩ := by
    rw [Resolution.exactPrice?_eq_some_iff_place, Resolution.place_toInt64]
    exact ⟨l.addressable inside, value⟩
  refine ⟨⟨atoms⟩, ?_, value⟩
  simp only [exactPrice, boundTick_of_inBounds l inside, bind, Except.bind, found]

theorem exactPrice_eq_ok_iff (l : Ladder) {tick : Int32} {price : Price}
    (inside : l.inBounds tick) :
    l.exactPrice tick = .ok price ↔ price.atoms.toNat = l.resolution.curve tick.toInt := by
  obtain ⟨own, encoded, value⟩ := l.exists_exactPrice inside
  rw [encoded, Except.ok.injEq, ← value, eq_comm, ← BitVec.toNat_eq]
  exact ⟨congrArg Price.atoms, congrArg Price.mk⟩

theorem exists_exactPrice_and_iff (l : Ladder) {tick : Int32} (inside : l.inBounds tick)
    (test : Nat → Prop) : (∃ own, l.exactPrice tick = .ok own ∧ test own.atoms.toNat) ↔
      test (l.resolution.curve tick.toInt) := by
  obtain ⟨price, encoded, value⟩ := l.exists_exactPrice inside
  rw [← value, encoded]
  constructor
  · rintro ⟨own, same, holds⟩
    rw [Except.ok.inj same]
    exact holds
  · intro holds
    exact ⟨price, rfl, holds⟩

theorem inBounds_nearerBound (l : Ladder) (tick : Int32) :
    l.inBounds (if tick < l.minTick then l.minTick else l.maxTick) := by
  split
  · exact l.inBounds_minTick
  · exact l.inBounds_maxTick

theorem exactPrice_outside (l : Ladder) {tick : Int32} (outside : ¬ l.inBounds tick) :
    l.exactPrice tick =
      match l.policy with
      | .reject => .error (.outOfRange (.tick tick.toInt64 l.minTick l.maxTick))
      | .clamp => l.exactPrice (if tick < l.minTick then l.minTick else l.maxTick) := by
  have bound : l.boundTick tick =
      match l.policy with
      | .reject => .error (.outOfRange (.tick tick.toInt64 l.minTick l.maxTick))
      | .clamp => .ok (if tick < l.minTick then l.minTick else l.maxTick) := if_neg outside
  cases policy : l.policy with
  | reject => simp only [exactPrice, bound, policy, bind, Except.bind]
  | clamp =>
    simp only [exactPrice, bound, policy, boundTick_of_inBounds l (l.inBounds_nearerBound tick),
      bind, Except.bind]

theorem error_of_exactPrice (l : Ladder) {tick : Int32} {error : Error}
    (failed : l.exactPrice tick = .error error) :
    error = .outOfRange (.tick tick.toInt64 l.minTick l.maxTick) := by
  by_cases inside : l.inBounds tick
  · obtain ⟨price, encoded, -⟩ := l.exists_exactPrice inside
    rw [encoded] at failed
    cases failed
  · rw [l.exactPrice_outside inside] at failed
    split at failed
    · exact (Except.error.inj failed).symm
    · obtain ⟨price, encoded, -⟩ := l.exists_exactPrice (l.inBounds_nearerBound tick)
      rw [encoded] at failed
      cases failed

theorem checkTick_eq_ok (l : Ladder) (tick : Int64) (low : l.minTick.toInt ≤ tick.toInt)
    (high : tick.toInt ≤ l.maxTick.toInt) :
    ∃ checked, l.checkTick tick = .ok checked ∧ checked.toInt = tick.toInt := by
  have least := l.minTick.le_toInt
  have greatest := l.maxTick.toInt_lt
  refine ⟨tick.toInt32, if_pos ?_, Words.toInt_toInt32 (by omega) (by omega)⟩
  rw [Int64.le_iff_toInt_le, Int64.le_iff_toInt_le, Int32.toInt_toInt64, Int32.toInt_toInt64]
  exact ⟨low, high⟩

theorem exactTick_zero (l : Ladder) (rounding : Rounding) :
    l.exactTick .zero rounding = .error (.invalidInput .zeroPrice) :=
  if_pos rfl

/-- Whether a price lies between the exact prices of the bounds. -/
def Spans (l : Ladder) (price : Price) : Prop :=
  ∃ least greatest, l.minExactPrice = .ok least ∧ l.maxExactPrice = .ok greatest ∧
    least ≤ price ∧ price ≤ greatest

section

variable {l : Ladder} {least greatest price : Price} (rounding : Rounding)
  (lowest : l.minExactPrice = .ok least) (highest : l.maxExactPrice = .ok greatest)
include lowest highest

omit rounding in
theorem minExactPrice_lt : least < greatest := by
  have least_eq := (l.exactPrice_eq_ok_iff l.inBounds_minTick).1 lowest
  have greatest_eq := (l.exactPrice_eq_ok_iff l.inBounds_maxTick).1 highest
  rw [Price.lt_iff_toNat_lt, least_eq, greatest_eq]
  exact l.resolution.curve_lt_curve l.addressable_minTick l.minTick_toInt_lt

omit highest rounding in
theorem pow_exponent_le_of_le (low : least ≤ price) :
    10 ^ l.resolution.exponent ≤ price.atoms.toNat := by
  rw [Price.le_iff_toNat_le, (l.exactPrice_eq_ok_iff l.inBounds_minTick).1 lowest] at low
  exact Nat.le_trans (l.resolution.pow_exponent_le_curve l.addressable_minTick) low

theorem exactTick_outside (positive : price ≠ .zero)
    (outside : price < least ∨ greatest < price) :
    l.exactTick price rounding =
      l.boundPrice (price < least) (.exactPrice price least greatest) := by
  have test : (decide (price < least) || decide (greatest < price)) = true := by simpa using outside
  simp only [exactTick, if_neg positive, lowest, highest, bind, Except.bind, if_pos test]

theorem exactTick_below (positive : price ≠ .zero) (below : price < least) :
    l.exactTick price rounding =
      match l.policy with
      | .reject => .error (.outOfRange (.exactPrice price least greatest))
      | .clamp => .ok l.minTick := by
  rw [exactTick_outside rounding lowest highest positive (.inl below), boundPrice,
    decide_eq_true below]
  rfl

theorem exactTick_above (above : greatest < price) :
    l.exactTick price rounding =
      match l.policy with
      | .reject => .error (.outOfRange (.exactPrice price least greatest))
      | .clamp => .ok l.maxTick := by
  have ascending := minExactPrice_lt lowest highest
  rw [Price.lt_iff_toNat_lt] at above ascending
  have positive : price ≠ .zero := by
    rintro rfl
    exact Nat.not_lt_zero _ above
  have notBelow : ¬ price < least := by
    rw [Price.lt_iff_toNat_lt]
    omega
  rw [exactTick_outside rounding lowest highest positive (.inr (Price.lt_iff_toNat_lt.2 above)),
    boundPrice, decide_eq_false notBelow]
  rfl

/-- Between the bounds the tick of a price is that of the curve, and it lies between the bounds:
the bounds are ticks themselves, so no rounding leads past them. -/
theorem exists_exactTick (low : least ≤ price) (high : price ≤ greatest) :
    ∃ tick, l.exactTick price rounding = .ok tick ∧ l.inBounds tick ∧
      tick.toInt = l.resolution.tickAt rounding price.atoms.toNat := by
  have least_eq := (l.exactPrice_eq_ok_iff l.inBounds_minTick).1 lowest
  have greatest_eq := (l.exactPrice_eq_ok_iff l.inBounds_maxTick).1 highest
  have minAddressable := l.addressable l.inBounds_minTick
  have maxAddressable := l.addressable l.inBounds_maxTick
  have fine := pow_exponent_le_of_le lowest low
  rw [Price.le_iff_toNat_le, least_eq] at low
  rw [Price.le_iff_toNat_le, greatest_eq] at high
  have fromMin := (Resolution.curve_le_iff_le_tickAt_floor fine minAddressable).1 low
  have toMax := (Resolution.le_curve_iff_tickAt_ceil_le fine maxAddressable).1 high
  have between := l.resolution.tickAt_between rounding price.atoms.toNat
  obtain ⟨found, decoded, found_eq⟩ := l.resolution.exists_exactTick? rounding fine
  obtain ⟨tick, checked, tick_eq⟩ := l.checkTick_eq_ok found (by omega) (by omega)
  have positive : price ≠ .zero := by
    rintro rfl
    exact Nat.not_lt.2 fine (Nat.pow_pos (by decide))
  have test : ¬ (decide (price < least) || decide (greatest < price)) = true := by
    simp only [Bool.or_eq_true, decide_eq_true_eq, Price.lt_iff_toNat_lt, least_eq, greatest_eq]
    omega
  refine ⟨tick, ?_, ?_, by omega⟩
  · simp only [exactTick, if_neg positive, lowest, highest, bind, Except.bind, if_neg test,
      decoded, checked]
  · rw [inBounds_iff]
    omega

variable (price) in
/-- What becomes of a price: nothing is refused, what lies outside the bounds is left to the policy,
and everything else has the tick of the curve. -/
theorem exactTick_spec :
    (price = .zero ∧ l.exactTick price rounding = .error (.invalidInput .zeroPrice)) ∨
    (∃ bound, (price < least ∧ bound = l.minTick ∨ greatest < price ∧ bound = l.maxTick) ∧
      l.exactTick price rounding =
        match l.policy with
        | .reject => .error (.outOfRange (.exactPrice price least greatest))
        | .clamp => .ok bound) ∨
    (least ≤ price ∧ price ≤ greatest ∧ ∃ tick, l.exactTick price rounding = .ok tick ∧
      l.inBounds tick ∧ tick.toInt = l.resolution.tickAt rounding price.atoms.toNat) := by
  by_cases zero : price = .zero
  · rw [zero]
    exact .inl ⟨rfl, l.exactTick_zero rounding⟩
  · by_cases below : price < least
    · exact .inr (.inl ⟨l.minTick, .inl ⟨below, rfl⟩,
        exactTick_below rounding lowest highest zero below⟩)
    · by_cases above : greatest < price
      · exact .inr (.inl ⟨l.maxTick, .inr ⟨above, rfl⟩,
          exactTick_above rounding lowest highest above⟩)
      · rw [Price.lt_iff_toNat_lt, Nat.not_lt, ← Price.le_iff_toNat_le] at below above
        exact .inr (.inr ⟨below, above, exists_exactTick rounding lowest highest below above⟩)

theorem exactTick_cases {tick : Int32} (decoded : l.exactTick price rounding = .ok tick) :
    (least ≤ price ∧ price ≤ greatest ∧ l.inBounds tick ∧
      tick.toInt = l.resolution.tickAt rounding price.atoms.toNat) ∨
    (l.policy = .clamp ∧
      (price < least ∧ tick = l.minTick ∨ greatest < price ∧ tick = l.maxTick)) := by
  rcases exactTick_spec price rounding lowest highest with
    ⟨-, failed⟩ | ⟨bound, side, found⟩ | ⟨low, high, found, foundDecoded, inside, onCurve⟩
  · rw [failed] at decoded
    cases decoded
  · rw [found] at decoded
    split at decoded
    · cases decoded
    · next policy =>
      rw [Except.ok.inj decoded] at side
      exact .inr ⟨policy, side⟩
  · rw [foundDecoded] at decoded
    obtain rfl := Except.ok.inj decoded
    exact .inl ⟨low, high, inside, onCurve⟩

theorem error_of_exactTick {error : Error} (failed : l.exactTick price rounding = .error error) :
    error = .invalidInput .zeroPrice ∨ error = .outOfRange (.exactPrice price least greatest) := by
  rcases exactTick_spec price rounding lowest highest with
    ⟨-, found⟩ | ⟨bound, -, found⟩ | ⟨-, -, tick, found, -⟩
  · rw [found] at failed
    exact .inl (Except.error.inj failed).symm
  · rw [found] at failed
    split at failed
    · exact .inr (Except.error.inj failed).symm
    · cases failed
  · rw [found] at failed
    cases failed

omit rounding in
theorem spans_iff : l.Spans price ↔ least ≤ price ∧ price ≤ greatest := by
  constructor
  · rintro ⟨low, high, lowEncoded, highEncoded, between⟩
    rw [← Except.ok.inj (lowEncoded.symm.trans lowest),
      ← Except.ok.inj (highEncoded.symm.trans highest)]
    exact between
  · intro between
    exact ⟨least, greatest, lowest, highest, between⟩

end

theorem spans_standard_iff {price : Price} :
    Ladder.standard.Spans price ↔ ⟨10 ^ 12⟩ ≤ price ∧ price ≤ ⟨10 ^ 62⟩ :=
  spans_iff (by decide +kernel) (by decide +kernel)

/-- A decoded tick on the curve: that of the price if this is between the prices of the bounds, and
the nearer bound if it is not. -/
theorem exactTick_curve_cases {l : Ladder} {price : Price} {rounding : Rounding} {tick : Int32}
    (decoded : l.exactTick price rounding = .ok tick) :
    (10 ^ l.resolution.exponent ≤ price.atoms.toNat ∧
      l.resolution.curve l.minTick.toInt ≤ price.atoms.toNat ∧
      price.atoms.toNat ≤ l.resolution.curve l.maxTick.toInt ∧ l.inBounds tick ∧
      tick.toInt = l.resolution.tickAt rounding price.atoms.toNat) ∨
    (price.atoms.toNat < l.resolution.curve l.minTick.toInt ∧ tick = l.minTick) ∨
    (l.resolution.curve l.maxTick.toInt < price.atoms.toNat ∧ tick = l.maxTick) := by
  obtain ⟨least, lowest, least_eq⟩ := l.exists_exactPrice l.inBounds_minTick
  obtain ⟨greatest, highest, greatest_eq⟩ := l.exists_exactPrice l.inBounds_maxTick
  rw [← least_eq, ← greatest_eq, ← Price.lt_iff_toNat_lt, ← Price.lt_iff_toNat_lt,
    ← Price.le_iff_toNat_le, ← Price.le_iff_toNat_le]
  rcases exactTick_cases rounding lowest highest decoded with ⟨low, rest⟩ | ⟨-, outside⟩
  · exact .inl ⟨pow_exponent_le_of_le lowest low, low, rest⟩
  · exact .inr outside

theorem Spans.pos {l : Ladder} {price : Price} (spanned : l.Spans price) : .zero < price := by
  obtain ⟨least, greatest, lowest, -, low, -⟩ := spanned
  rw [Price.lt_iff_toNat_lt]
  exact Nat.lt_of_lt_of_le (Nat.pow_pos (by decide)) (pow_exponent_le_of_le lowest low)

theorem Spans.between {l : Ladder} {lower price upper : Price} (low : l.Spans lower)
    (high : l.Spans upper) (fromLower : lower ≤ price) (toUpper : price ≤ upper) :
    l.Spans price := by
  obtain ⟨least, greatest, lowest, highest, fromLeast, -⟩ := low
  have toGreatest := ((spans_iff lowest highest).1 high).2
  refine ⟨least, greatest, lowest, highest, ?_, ?_⟩
  · exact Price.le_trans fromLeast fromLower
  · exact Price.le_trans toUpper toGreatest

/-- A price has a tick unless it is nothing or, where the policy rejects, outside the bounds. -/
theorem exists_exactTick_iff (l : Ladder) (price : Price) (rounding : Rounding) :
    (∃ tick, l.exactTick price rounding = .ok tick) ↔
      .zero < price ∧ (l.policy = .reject → l.Spans price) := by
  obtain ⟨least, lowest, -⟩ := l.exists_exactPrice l.inBounds_minTick
  obtain ⟨greatest, highest, -⟩ := l.exists_exactPrice l.inBounds_maxTick
  rw [spans_iff lowest highest, Price.zero_lt_iff]
  constructor
  · rintro ⟨tick, decoded⟩
    constructor
    · rintro rfl
      rw [exactTick_zero] at decoded
      cases decoded
    · intro policy
      rcases exactTick_cases rounding lowest highest decoded with ⟨low, high, -⟩ | ⟨clamp, -⟩
      · exact ⟨low, high⟩
      · rw [policy] at clamp
        cases clamp
  · rintro ⟨positive, onLadder⟩
    rcases exactTick_spec price rounding lowest highest with
      ⟨zero, -⟩ | ⟨bound, side, found⟩ | ⟨-, -, tick, decoded, -⟩
    · exact absurd zero positive
    · cases policy : l.policy with
      | reject =>
        have between := onLadder policy
        rw [Price.le_iff_toNat_le, Price.le_iff_toNat_le] at between
        rw [Price.lt_iff_toNat_lt, Price.lt_iff_toNat_lt] at side
        omega
      | clamp =>
        rw [policy] at found
        exact ⟨bound, found⟩
    · exact ⟨tick, decoded⟩

end PriceLadder.Ladder
