import PriceLadder.Proofs.Ladder.Exact
import PriceLadder.Proofs.Ladder.Settings

set_option autoImplicit false

namespace PriceLadder.Ladder

/-- Whether `tick` is what a rounding has to take for `price`, among all ticks of a ladder with
their own prices. -/
def Chosen (l : Ladder) (price : Price) (rounding : Rounding) (tick : Int32) : Prop :=
  l.inBounds tick ∧ ∃ own, l.exactPrice tick = .ok own ∧
    match rounding with
    | .floor => own ≤ price ∧ ∀ other otherOwn, l.inBounds other →
        l.exactPrice other = .ok otherOwn → otherOwn ≤ price → other ≤ tick
    | .ceil => price ≤ own ∧ ∀ other otherOwn, l.inBounds other →
        l.exactPrice other = .ok otherOwn → price ≤ otherOwn → tick ≤ other
    | .nearest => ∀ other otherOwn, l.inBounds other → l.exactPrice other = .ok otherOwn →
        Nat.dist own.atoms.toNat price.atoms.toNat <
          Nat.dist otherOwn.atoms.toNat price.atoms.toNat ∨
        Nat.dist own.atoms.toNat price.atoms.toNat =
          Nat.dist otherOwn.atoms.toNat price.atoms.toNat ∧ other ≤ tick

/-- What holds on the curve around a price holds among the ticks of a ladder. -/
theorem chosen_of_tickAt {l : Ladder} {price : Price} {tick : Int32} (rounding : Rounding)
    (fine : 10 ^ l.resolution.exponent ≤ price.atoms.toNat) (inside : l.inBounds tick)
    (onCurve : tick.toInt = l.resolution.tickAt rounding price.atoms.toNat) :
    l.Chosen price rounding tick := by
  obtain ⟨own, encoded, own_eq⟩ := l.exists_exactPrice inside
  have addressable := l.addressable inside
  refine ⟨inside, own, encoded, ?_⟩
  cases rounding with
  | nearest =>
    intro other otherOwn otherInside otherEncoded
    have otherOwn_eq := (l.exactPrice_eq_ok_iff otherInside).1 otherEncoded
    rw [own_eq, otherOwn_eq, Int32.le_iff_toInt_le, onCurve]
    exact Resolution.dist_tickAt_nearest fine (l.addressable otherInside)
  | floor =>
    constructor
    · rw [Price.le_iff_toNat_le, own_eq, Resolution.curve_le_iff_le_tickAt_floor fine addressable]
      exact Int.le_of_eq onCurve
    · intro other otherOwn otherInside otherEncoded le
      rw [Price.le_iff_toNat_le, (l.exactPrice_eq_ok_iff otherInside).1 otherEncoded,
        Resolution.curve_le_iff_le_tickAt_floor fine (l.addressable otherInside)] at le
      rw [Int32.le_iff_toInt_le, onCurve]
      exact le
  | ceil =>
    constructor
    · rw [Price.le_iff_toNat_le, own_eq, Resolution.le_curve_iff_tickAt_ceil_le fine addressable]
      exact Int.le_of_eq onCurve.symm
    · intro other otherOwn otherInside otherEncoded le
      rw [Price.le_iff_toNat_le, (l.exactPrice_eq_ok_iff otherInside).1 otherEncoded,
        Resolution.le_curve_iff_tickAt_ceil_le fine (l.addressable otherInside)] at le
      rw [Int32.le_iff_toInt_le, onCurve]
      exact le

/-- Every price between the bounds has the tick that its rounding asks for, and outside them the
policy decides. The two errors of the decoder that could follow on the search for a tick, a price
too fine and a tick out of bounds, are never met. -/
theorem exactTick_chosen (l : Ladder) (price : Price) (rounding : Rounding) :
    ∃ least greatest, l.minExactPrice = .ok least ∧ l.maxExactPrice = .ok greatest ∧
      (least ≤ price ∧ price ≤ greatest →
        ∃ tick, l.exactTick price rounding = .ok tick ∧ l.Chosen price rounding tick) ∧
      (price = .zero → l.exactTick price rounding = .error (.invalidInput .zeroPrice)) ∧
      (price ≠ .zero → price < least ∨ greatest < price → l.policy = .reject →
        l.exactTick price rounding = .error (.outOfRange (.exactPrice price least greatest))) ∧
      (price ≠ .zero → price < least → l.policy = .clamp →
        l.exactTick price rounding = .ok l.minTick) ∧
      (greatest < price → l.policy = .clamp → l.exactTick price rounding = .ok l.maxTick) ∧
      ∀ error, l.exactTick price rounding = .error error →
        error = .invalidInput .zeroPrice ∨
          error = .outOfRange (.exactPrice price least greatest) := by
  obtain ⟨least, lowest, least_eq⟩ := l.exists_exactPrice l.inBounds_minTick
  obtain ⟨greatest, highest, greatest_eq⟩ := l.exists_exactPrice l.inBounds_maxTick
  have onLadder (low : least ≤ price) (high : price ≤ greatest) :
      ∃ tick, l.exactTick price rounding = .ok tick ∧ l.Chosen price rounding tick := by
    obtain ⟨tick, decoded, inside, onCurve⟩ := exists_exactTick rounding lowest highest low high
    exact ⟨tick, decoded,
      chosen_of_tickAt rounding (pow_exponent_le_of_le lowest low) inside onCurve⟩
  have below (positive : price ≠ .zero) := exactTick_below rounding lowest highest positive
  have above (outside : greatest < price) := exactTick_above rounding lowest highest outside
  refine ⟨least, greatest, lowest, highest, fun inside => onLadder inside.1 inside.2, ?_, ?_, ?_,
    ?_, ?_⟩
  · rintro rfl
    exact l.exactTick_zero rounding
  · intro positive outside policy
    rcases outside with outside | outside
    · rw [below positive outside, policy]
    · rw [above outside, policy]
  · intro positive outside policy
    rw [below positive outside, policy]
  · intro outside policy
    rw [above outside, policy]
  · intro error failed
    exact error_of_exactTick rounding lowest highest failed

/-- A tick between the bounds comes back from its price, by every rounding. -/
theorem exists_exactTick_eq (l : Ladder) {tick : Int32} (inside : l.inBounds tick) :
    ∃ price, l.exactPrice tick = .ok price ∧
      ∀ rounding, l.exactTick price rounding = .ok tick := by
  obtain ⟨least, lowest, least_eq⟩ := l.exists_exactPrice l.inBounds_minTick
  obtain ⟨greatest, highest, greatest_eq⟩ := l.exists_exactPrice l.inBounds_maxTick
  obtain ⟨price, encoded, price_eq⟩ := l.exists_exactPrice inside
  have between := l.curve_between inside
  have low : least ≤ price := by
    rw [Price.le_iff_toNat_le, least_eq, price_eq]
    exact between.1
  have high : price ≤ greatest := by
    rw [Price.le_iff_toNat_le, greatest_eq, price_eq]
    exact between.2
  refine ⟨price, encoded, fun rounding => ?_⟩
  obtain ⟨found, decoded, -, found_eq⟩ := exists_exactTick rounding lowest highest low high
  rw [price_eq, l.resolution.tickAt_curve rounding (l.addressable inside),
    Int32.toInt_inj] at found_eq
  rw [decoded, found_eq]

/-- On every ladder that settings describe, ticks and their exact prices are inverse to each other
between the bounds; outside them a tick is refused or stands for the nearer bound. -/
theorem exactPrice_roundTrip (s : Settings) (l : Ladder) (accepted : Ladder.ofSettings s = .ok l)
    (tick : Int32) :
    (s.minTick ≤ tick → tick ≤ s.maxTick → ∃ price, l.exactPrice tick = .ok price ∧
      ∀ rounding, l.exactTick price rounding = .ok tick) ∧
    (s.outOfRange = .clamp → tick < s.minTick → ∃ price, l.exactPrice tick = .ok price ∧
      ∀ rounding, l.exactTick price rounding = .ok s.minTick) ∧
    (s.outOfRange = .clamp → s.maxTick < tick → ∃ price, l.exactPrice tick = .ok price ∧
      ∀ rounding, l.exactTick price rounding = .ok s.maxTick) ∧
    (s.outOfRange = .reject → tick < s.minTick ∨ s.maxTick < tick →
      l.exactPrice tick = .error (.outOfRange (.tick tick.toInt64 s.minTick s.maxTick))) ∧
    ∀ fault, l.exactPrice tick ≠ .error (.invalidSettings fault) := by
  obtain rfl := settings_of_ofSettings accepted
  have ascending := l.minTick_toInt_lt
  have outside (beyond : tick < l.minTick ∨ l.maxTick < tick) : ¬ l.inBounds tick := by
    rw [Int32.lt_iff_toInt_lt, Int32.lt_iff_toInt_lt] at beyond
    rw [inBounds_iff]
    omega
  refine ⟨?_, ?_, ?_, ?_, ?_⟩
  · intro low high
    exact l.exists_exactTick_eq (l.inBounds_iff.2
      ⟨Int32.le_iff_toInt_le.1 low, Int32.le_iff_toInt_le.1 high⟩)
  · intro (policy : l.policy = .clamp) (below : tick < l.minTick)
    rw [l.exactPrice_outside (outside (.inl below)), policy]
    simp only [if_pos below]
    exact l.exists_exactTick_eq l.inBounds_minTick
  · intro (policy : l.policy = .clamp) (above : l.maxTick < tick)
    have notBelow : ¬ tick < l.minTick := by
      rw [Int32.lt_iff_toInt_lt] at above ⊢
      omega
    rw [l.exactPrice_outside (outside (.inr above)), policy]
    simp only [if_neg notBelow]
    exact l.exists_exactTick_eq l.inBounds_maxTick
  · intro (policy : l.policy = .reject) beyond
    rw [l.exactPrice_outside (outside beyond), policy]
    rfl
  · intro fault failed
    cases l.error_of_exactPrice failed

theorem exactPrice_roundTrip_standard :
    Ladder.ofSettings Settings.standard = .ok Ladder.standard ∧
      ∃ price, Ladder.standard.exactPrice (-9000000) = .ok price ∧
        ∀ rounding, Ladder.standard.exactTick price rounding = .ok (-9000000) := by
  have accepted : Ladder.ofSettings Settings.standard = .ok Ladder.standard := by
    decide +kernel
  exact ⟨accepted, (exactPrice_roundTrip _ _ accepted (-9000000)).1 (by decide) (by decide)⟩

end PriceLadder.Ladder
