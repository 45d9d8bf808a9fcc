import PriceLadder.Ladder.Approximate
import PriceLadder.Proofs.Ladder.Policy
import PriceLadder.Proofs.Outcome

set_option autoImplicit false

namespace PriceLadder

namespace Binary64

theorem isFinite_eq (x : Float) : x.isFinite = (!x.isNaN && !x.isInf) := by
  change x.toModel.unpack.isFinite = (!x.toModel.unpack.isNaN && !x.toModel.unpack.isInf)
  cases x.toModel.unpack <;> rfl

theorem isPrice_iff {price : Float} :
    isPrice price ↔ ¬ (price.isNaN ∨ price.isInf ∨ price ≤ 0) := by
  simp [isPrice, isFinite_eq, and_assoc]

theorem exists_decade {price : Float} (valid : isPrice price) : ∃ z, decade price = .ok z :=
  ⟨_, if_pos valid⟩

end Binary64

theorem isTolerance_iff_not_lt {tolerance : Float} :
    isTolerance tolerance ↔ tolerance.isFinite ∧ ¬ tolerance < 0 := by
  simp [isTolerance]

theorem Resolution.exists_approximateTick (r : Resolution) {price : Float}
    (valid : Binary64.isPrice price) : ∃ tick, r.approximateTick price = .ok tick := by
  obtain ⟨z, decade⟩ := Binary64.exists_decade valid
  simp only [approximateTick, decade, bind, Except.bind]
  exact ⟨_, rfl⟩

namespace Decoding

theorem strict_eq_ok_iff (d : Decoding) : d.strict = .ok d.tick ↔ d.precisionLoss = false := by
  cases loss : d.precisionLoss <;> simp [strict, loss]

theorem strict_of_precisionLoss {d : Decoding} (loss : d.precisionLoss) :
    d.strict = .error (.precisionLoss d.tick d.price d.encodedPrice) :=
  if_pos loss

end Decoding

namespace Ladder

def OnLadderOrOut (l : Ladder) (outcome : Except Error Int32) : Prop :=
  (∃ outlier, outcome = .error (.outOfRange outlier)) ∨
    ∃ tick, outcome = .ok tick ∧ l.inBounds tick

section

variable (l : Ladder)

theorem approximatePrice_of_inBounds {tick : Int32} (inside : l.inBounds tick) :
    l.approximatePrice tick = .ok (l.resolution.approximatePrice tick.toInt64) := by
  simp only [approximatePrice, boundTick_of_inBounds l inside, bind, Except.bind]

/-- The last check lets no tick out of bounds through, whatever word the arithmetic arrived at. -/
theorem checkTick_onLadderOrOut (tick : Int64) : l.OnLadderOrOut (l.checkTick tick) := by
  by_cases between : l.minTick.toInt64 ≤ tick ∧ tick ≤ l.maxTick.toInt64
  · right
    simp only [Int64.le_iff_toInt_le, Int32.toInt_toInt64] at between
    obtain ⟨checked, passed, same⟩ := l.checkTick_eq_ok tick between.1 between.2
    refine ⟨checked, passed, ?_⟩
    rw [inBounds_iff, same]
    exact between
  · exact .inl ⟨_, if_neg between⟩

theorem boundPrice_onLadderOrOut (below : Bool) (outlier : Outlier) :
    l.OnLadderOrOut (l.boundPrice below outlier) := by
  unfold boundPrice
  cases l.policy with
  | reject => exact .inl ⟨outlier, rfl⟩
  | clamp =>
    right
    cases below with
    | true => exact ⟨l.minTick, rfl, l.inBounds_minTick⟩
    | false => exact ⟨l.maxTick, rfl, l.inBounds_maxTick⟩

theorem approximateTick_of_not_isPrice {price : Float} (invalid : ¬ Binary64.isPrice price) :
    l.approximateTick price = .error (.invalidInput (.priceNotPositive price)) := by
  simp [approximateTick, invalid]

theorem approximateTick_onLadderOrOut {price : Float} (valid : Binary64.isPrice price) :
    l.OnLadderOrOut (l.approximateTick price) := by
  obtain ⟨tick, found⟩ := l.resolution.exists_approximateTick valid
  simp only [approximateTick, valid, found, bind, Except.bind, Bool.not_true, Bool.false_eq_true,
    if_false]
  split
  · exact l.boundPrice_onLadderOrOut _ _
  · exact l.checkTick_onLadderOrOut tick

theorem exists_invalidInput_iff (price : Float) :
    (∃ fault, l.approximateTick price = .error (.invalidInput fault)) ↔
      ¬ Binary64.isPrice price := by
  constructor
  · intro refused valid
    obtain ⟨fault, refused⟩ := refused
    rcases l.approximateTick_onLadderOrOut valid with ⟨outlier, out⟩ | ⟨tick, found, -⟩
    · simp [out] at refused
    · simp [found] at refused
  · intro invalid
    exact ⟨_, l.approximateTick_of_not_isPrice invalid⟩

theorem inBounds_approximateTick {price : Float} {tick : Int32}
    (decoded : l.approximateTick price = .ok tick) : l.inBounds tick := by
  by_cases valid : Binary64.isPrice price
  · rcases l.approximateTick_onLadderOrOut valid with ⟨outlier, out⟩ | ⟨found, same, inside⟩
    · simp [out] at decoded
    · rw [same] at decoded
      rw [← Except.ok.inj decoded]
      exact inside
  · simp [l.approximateTick_of_not_isPrice valid] at decoded

end

/-- What the decoding of a price against a tolerance says, beside the error itself: the tick of the
price, the price of that tick, and whether the error is above the tolerance, in which case the tick
is not given away as exact. -/
structure Decodes (l : Ladder) (tolerance price : Float) (d : Decoding) : Prop where
  price_eq : d.price = price
  tick : l.approximateTick price = .ok d.tick
  encodedPrice : l.approximatePrice d.tick = .ok d.encodedPrice
  relativeError_eq : d.relativeError = relativeError price d.encodedPrice
  precisionLoss_iff : d.precisionLoss ↔ tolerance < d.relativeError
  strict_eq_ok_iff : d.strict = .ok d.tick ↔ d.precisionLoss = false
  strict_eq_error : d.precisionLoss → d.strict = .error (.precisionLoss d.tick price d.encodedPrice)

section

variable (l : Ladder) {tolerance : Float} (price : Float)

theorem decodingWithin_of_not_isTolerance (invalid : ¬ isTolerance tolerance) :
    l.decodingWithin tolerance price = .error (.invalidInput (.badTolerance tolerance)) := by
  simp [decodingWithin, invalid]

variable (valid : isTolerance tolerance)
include valid

theorem failsAlike_decodingWithin :
    Outcome.FailsAlike (l.decodingWithin tolerance price) (l.approximateTick price) := by
  simp only [decodingWithin, valid, Bool.not_true, Bool.false_eq_true, if_false]
  apply Outcome.failsAlike_bind
  intro tick _
  exact ⟨_, rfl⟩

theorem decodes_of_decodingWithin {price : Float} {d : Decoding}
    (decoded : l.decodingWithin tolerance price = .ok d) : l.Decodes tolerance price d := by
  simp only [decodingWithin, valid, Bool.not_true, Bool.false_eq_true, if_false,
    Outcome.bind_eq_ok_iff, Except.ok.injEq] at decoded
  obtain ⟨tick, found, rfl⟩ := decoded
  have encoded := l.approximatePrice_of_inBounds (l.inBounds_approximateTick found)
  exact ⟨rfl, found, encoded, rfl, decide_eq_true_iff, Decoding.strict_eq_ok_iff _,
    Decoding.strict_of_precisionLoss⟩

end

/-- The doubles of a ladder are decoded coherently. A price is refused exactly if it can be none,
and any other is out of range or has a tick between the bounds. A decoding refuses a tolerance that
can be none; with any other it fails as the price itself does and says what the price and its tick
are, and with the tolerance of the ladder it is never refused for that. -/
theorem decoding_coherent (l : Ladder) (price tolerance : Float) :
    ((∃ fault, l.approximateTick price = .error (.invalidInput fault)) ↔
      price.isNaN ∨ price.isInf ∨ price ≤ 0) ∧
    (¬ (price.isNaN ∨ price.isInf ∨ price ≤ 0) → l.OnLadderOrOut (l.approximateTick price)) ∧
    (¬ tolerance.isFinite ∨ tolerance < 0 →
      l.decodingWithin tolerance price = .error (.invalidInput (.badTolerance tolerance))) ∧
    (tolerance.isFinite → ¬ tolerance < 0 →
      Outcome.FailsAlike (l.decodingWithin tolerance price) (l.approximateTick price) ∧
        ∀ d, l.decodingWithin tolerance price = .ok d → l.Decodes tolerance price d) ∧
    Outcome.FailsAlike (l.decoding price) (l.approximateTick price) := by
  refine ⟨?_, ?_, ?_, ?_, ?_⟩
  · rw [exists_invalidInput_iff, Binary64.isPrice_iff, not_not]
  · intro possible
    exact l.approximateTick_onLadderOrOut (Binary64.isPrice_iff.2 possible)
  · intro bad
    apply l.decodingWithin_of_not_isTolerance price
    intro valid
    obtain ⟨finite, nonneg⟩ := isTolerance_iff_not_lt.1 valid
    exact bad.elim (fun infinite => infinite finite) nonneg
  · intro finite nonneg
    have valid := isTolerance_iff_not_lt.2 ⟨finite, nonneg⟩
    exact ⟨l.failsAlike_decodingWithin price valid, fun d => l.decodes_of_decodingWithin valid⟩
  · exact l.failsAlike_decodingWithin price l.tolerance_valid

/-- Below the least price a clamping ladder decodes to its least tick. -/
theorem decoding_coherent_clamped :
    (1e-9 : Float).isFinite ∧ ¬ (1e-9 : Float) < 0 ∧
      (Ladder.standard.withPolicy .clamp).approximateTick 1e-13 = .ok (-108000000) ∧
      ∃ d, (Ladder.standard.withPolicy .clamp).decodingWithin 1e-9 1e-13 = .ok d ∧
        (Ladder.standard.withPolicy .clamp).Decodes 1e-9 1e-13 d := by
  have finite : (1e-9 : Float).isFinite := by decide +kernel
  have nonneg : ¬ (1e-9 : Float) < 0 := by decide +kernel
  have decoded : (Ladder.standard.withPolicy .clamp).approximateTick 1e-13 = .ok (-108000000) := by
    decide +kernel
  obtain ⟨-, -, -, coherent, -⟩ :=
    (Ladder.standard.withPolicy .clamp).decoding_coherent 1e-13 1e-9
  obtain ⟨alike, decodes⟩ := coherent finite nonneg
  obtain ⟨d, made⟩ := alike.exists_ok_iff.2 ⟨_, decoded⟩
  exact ⟨finite, nonneg, decoded, d, made, decodes d made⟩

end Ladder

end PriceLadder
