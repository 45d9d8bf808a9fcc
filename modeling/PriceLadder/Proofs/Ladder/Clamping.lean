import PriceLadder.Proofs.Ladder.Approximate
import PriceLadder.Proofs.Ladder.Settings

set_option autoImplicit false

namespace PriceLadder

namespace Outcome

/-- Whether an outcome is kept by another: each value, and each error that is not a value out of
range. -/
structure ExtendedBy {α : Type} (narrow wide : Except Error α) : Prop where
  ok (value : α) : narrow = .ok value → wide = .ok value
  error (error : Error) : narrow = .error error → (∀ outlier, error ≠ .outOfRange outlier) →
    wide = .error error

namespace ExtendedBy

variable {α β : Type}

theorem refl (x : Except Error α) : ExtendedBy x x where
  ok _ same := same
  error _ same _ := same

theorem of_outOfRange {x y : Except Error α} {outlier : Outlier}
    (out : x = .error (.outOfRange outlier)) : ExtendedBy x y where
  ok value same := by simp [out] at same
  error error same other := by
    rw [out, Except.error.injEq] at same
    exact absurd same.symm (other outlier)

theorem ite {c : Prop} [Decidable c] {x y x' y' : Except Error α} (yes : ExtendedBy x y)
    (no : ExtendedBy x' y') : ExtendedBy (if c then x else x') (if c then y else y') := by
  split
  · exact yes
  · exact no

/-- The first step that is out of range ends an operation, and up to there both go the same way. -/
theorem bind {x y : Except Error α} {f g : α → Except Error β} (first : ExtendedBy x y)
    (next : ∀ a, ExtendedBy (f a) (g a)) : ExtendedBy (x >>= f) (y >>= g) := by
  cases x with
  | ok a =>
    rw [first.ok a rfl]
    exact next a
  | error fault =>
    by_cases out : ∃ outlier, fault = .outOfRange outlier
    · obtain ⟨outlier, rfl⟩ := out
      exact of_outOfRange rfl
    · rw [first.error fault rfl (not_exists.1 out)]
      exact refl (.error fault)

end ExtendedBy

end Outcome

namespace Ladder

open Outcome (FailsAlike)

/-- Whether each answer of a ladder is kept by another one, whatever is asked. -/
structure ExtendedBy (l other : Ladder) : Prop where
  approximatePrice (tick : Int32) :
    Outcome.ExtendedBy (l.approximatePrice tick) (other.approximatePrice tick)
  exactPrice (tick : Int32) : Outcome.ExtendedBy (l.exactPrice tick) (other.exactPrice tick)
  approximateTick (price : Float) :
    Outcome.ExtendedBy (l.approximateTick price) (other.approximateTick price)
  decodingWithin (tolerance price : Float) :
    Outcome.ExtendedBy (l.decodingWithin tolerance price) (other.decodingWithin tolerance price)
  exactTick (price : Price) (rounding : Rounding) :
    Outcome.ExtendedBy (l.exactTick price rounding) (other.exactTick price rounding)
  minValidTick (spacing : Int32) :
    Outcome.ExtendedBy (l.minValidTick spacing) (other.minValidTick spacing)
  maxValidTick (spacing : Int32) :
    Outcome.ExtendedBy (l.maxValidTick spacing) (other.maxValidTick spacing)
  closestValidTick (tick spacing : Int32) :
    Outcome.ExtendedBy (l.closestValidTick tick spacing) (other.closestValidTick tick spacing)
  tickRange (lower upper : Price) (spacing : Int32) :
    Outcome.ExtendedBy (l.tickRange lower upper spacing) (other.tickRange lower upper spacing)
  bandAround (price factor : Price) (spacing : Int32) :
    Outcome.ExtendedBy (l.bandAround price factor spacing) (other.bandAround price factor spacing)

section

variable {l : Ladder} (rejects : l.policy = .reject)
include rejects

theorem boundTick_extendedBy (tick : Int32) :
    Outcome.ExtendedBy (l.boundTick tick) ((l.withPolicy .clamp).boundTick tick) := by
  by_cases inside : l.inBounds tick
  · rw [boundTick_of_inBounds l inside, boundTick_of_inBounds (l.withPolicy .clamp) inside]
    exact .refl _
  · have out : l.boundTick tick =
        .error (.outOfRange (.tick tick.toInt64 l.minTick l.maxTick)) := by
      simp only [boundTick, inside, rejects, Bool.false_eq_true, if_false]
    exact .of_outOfRange out

theorem boundPrice_extendedBy (below : Bool) (outlier : Outlier) :
    Outcome.ExtendedBy (l.boundPrice below outlier)
      ((l.withPolicy .clamp).boundPrice below outlier) := by
  have out : l.boundPrice below outlier = .error (.outOfRange outlier) := by
    simp only [boundPrice, rejects]
  exact .of_outOfRange out

theorem approximatePrice_extendedBy (tick : Int32) :
    Outcome.ExtendedBy (l.approximatePrice tick) ((l.withPolicy .clamp).approximatePrice tick) := by
  apply Outcome.ExtendedBy.bind (boundTick_extendedBy rejects tick)
  intro bound
  exact .refl _

theorem exactPrice_extendedBy (tick : Int32) :
    Outcome.ExtendedBy (l.exactPrice tick) ((l.withPolicy .clamp).exactPrice tick) := by
  apply Outcome.ExtendedBy.bind (boundTick_extendedBy rejects tick)
  intro bound
  exact .refl _

theorem approximateTick_extendedBy (price : Float) :
    Outcome.ExtendedBy (l.approximateTick price) ((l.withPolicy .clamp).approximateTick price) := by
  apply Outcome.ExtendedBy.ite
  · exact .refl _
  · apply Outcome.ExtendedBy.ite
    · exact boundPrice_extendedBy rejects _ _
    · exact .refl _

theorem decodingWithin_extendedBy (tolerance price : Float) :
    Outcome.ExtendedBy (l.decodingWithin tolerance price)
      ((l.withPolicy .clamp).decodingWithin tolerance price) := by
  apply Outcome.ExtendedBy.ite
  · exact .refl _
  · apply Outcome.ExtendedBy.bind (approximateTick_extendedBy rejects price)
    intro tick
    exact .refl _

theorem exactTick_extendedBy (price : Price) (rounding : Rounding) :
    Outcome.ExtendedBy (l.exactTick price rounding)
      ((l.withPolicy .clamp).exactTick price rounding) := by
  apply Outcome.ExtendedBy.ite
  · exact .refl _
  · apply Outcome.ExtendedBy.bind (exactPrice_extendedBy rejects l.minTick)
    intro least
    apply Outcome.ExtendedBy.bind (exactPrice_extendedBy rejects l.maxTick)
    intro greatest
    apply Outcome.ExtendedBy.ite
    · exact boundPrice_extendedBy rejects _ _
    · exact .refl _

theorem tickRange_extendedBy (lower upper : Price) (spacing : Int32) :
    Outcome.ExtendedBy (l.tickRange lower upper spacing)
      ((l.withPolicy .clamp).tickRange lower upper spacing) := by
  apply Outcome.ExtendedBy.ite
  · exact .refl _
  · apply Outcome.ExtendedBy.bind (.refl (l.validBounds spacing))
    intro bounds
    apply Outcome.ExtendedBy.bind (exactTick_extendedBy rejects lower .floor)
    intro low
    apply Outcome.ExtendedBy.bind (exactTick_extendedBy rejects upper .ceil)
    intro high
    exact .refl _

theorem bandAround_extendedBy (price factor : Price) (spacing : Int32) :
    Outcome.ExtendedBy (l.bandAround price factor spacing)
      ((l.withPolicy .clamp).bandAround price factor spacing) := by
  apply Outcome.ExtendedBy.ite
  · exact .refl _
  · apply Outcome.ExtendedBy.ite
    · exact .refl _
    · apply Outcome.ExtendedBy.bind (exactPrice_extendedBy rejects l.minTick)
      intro least
      apply Outcome.ExtendedBy.bind (exactPrice_extendedBy rejects l.maxTick)
      intro greatest
      exact tickRange_extendedBy rejects _ _ spacing

/-- Valid ticks come from the bounds alone, so they do not change with the policy. -/
theorem extendedBy_clamp : l.ExtendedBy (l.withPolicy .clamp) where
  approximatePrice := approximatePrice_extendedBy rejects
  exactPrice := exactPrice_extendedBy rejects
  approximateTick := approximateTick_extendedBy rejects
  decodingWithin := decodingWithin_extendedBy rejects
  exactTick := exactTick_extendedBy rejects
  minValidTick spacing := .refl (l.minValidTick spacing)
  maxValidTick spacing := .refl (l.maxValidTick spacing)
  closestValidTick tick spacing := .refl (l.closestValidTick tick spacing)
  tickRange := tickRange_extendedBy rejects
  bandAround := bandAround_extendedBy rejects

end

theorem eq_withPolicy {s : Settings} {l other : Ladder} {policy : Policy}
    (accepted : ofSettings s = .ok l)
    (changed : ofSettings { s with outOfRange := policy } = .ok other) :
    other = l.withPolicy policy := by
  obtain rfl := settings_of_ofSettings accepted
  have same : ofSettings { l.settings with outOfRange := policy } = .ok (l.withPolicy policy) :=
    ofSettings_settings (l.withPolicy policy)
  exact Except.ok.inj (changed.symm.trans same)

section

variable {l : Ladder} {tick bound : Int32}

theorem inBounds_of_boundTick (bounded : l.boundTick tick = .ok bound) : l.inBounds bound := by
  unfold boundTick at bounded
  split at bounded
  · next inside =>
    rw [← Except.ok.inj bounded]
    exact inside
  · split at bounded
    · cases bounded
    · rw [← Except.ok.inj bounded]
      exact l.inBounds_nearerBound tick

theorem boundTick_below (clamps : l.policy = .clamp) (below : tick < l.minTick) :
    l.boundTick tick = .ok l.minTick := by
  have outside : ¬ l.inBounds tick := by
    rw [inBounds_iff]
    rw [Int32.lt_iff_toInt_lt] at below
    omega
  simp only [boundTick, outside, clamps, below, Bool.false_eq_true, if_false, if_true]

theorem boundTick_above (clamps : l.policy = .clamp) (above : l.maxTick < tick) :
    l.boundTick tick = .ok l.maxTick := by
  have ascending := l.minTick_toInt_lt
  rw [Int32.lt_iff_toInt_lt] at above
  have outside : ¬ l.inBounds tick := by
    rw [inBounds_iff]
    omega
  have notBelow : ¬ tick < l.minTick := by
    rw [Int32.lt_iff_toInt_lt]
    omega
  simp only [boundTick, outside, clamps, notBelow, Bool.false_eq_true, if_false]

theorem exists_approximatePrice (clamps : l.policy = .clamp) (tick : Int32) :
    ∃ price, l.approximatePrice tick = .ok price := by
  unfold approximatePrice boundTick
  rw [clamps]
  split
  · exact ⟨_, rfl⟩
  · exact ⟨_, rfl⟩

/-- No tick that stands for another is without an exact price, so a tick has both its prices or
neither. -/
theorem failsAlike_prices (l : Ladder) (tick : Int32) :
    FailsAlike (l.approximatePrice tick) (l.exactPrice tick) := by
  have approximate : FailsAlike (l.approximatePrice tick) (l.boundTick tick) := by
    apply Outcome.failsAlike_bind
    intro bound _
    exact ⟨_, rfl⟩
  have exact : FailsAlike (l.exactPrice tick) (l.boundTick tick) := by
    apply Outcome.failsAlike_bind
    intro bound bounded
    have inside := inBounds_of_boundTick bounded
    obtain ⟨price, encoded, -⟩ := l.exists_exactPrice inside
    simp only [exactPrice, boundTick_of_inBounds l inside] at encoded
    exact ⟨price, encoded⟩
  intro fault
  rw [approximate, exact]

theorem prices_of_boundTick {policy : Policy}
    (bounded : (l.withPolicy policy).boundTick tick = .ok bound) :
    (l.withPolicy policy).approximatePrice tick = l.approximatePrice bound ∧
      (l.withPolicy policy).exactPrice tick = l.exactPrice bound := by
  have inside : (l.withPolicy policy).inBounds bound := inBounds_of_boundTick bounded
  have own : l.boundTick bound = .ok bound := boundTick_of_inBounds l inside
  simp only [approximatePrice, exactPrice, bounded, own]
  exact ⟨rfl, rfl⟩

end

/-- Of two ladders whose settings differ in the policy alone, the clamping one keeps every answer of
the rejecting one, apart from what was out of range. On both the exact price of a tick and the one
as a double are missing together; on the clamping one they never are, and outside the bounds they
are those that the nearer bound has on the rejecting one. -/
theorem clamping_extends_rejecting {s : Settings} {rejecting clamping : Ladder}
    (rejects : ofSettings { s with outOfRange := .reject } = .ok rejecting)
    (clamps : ofSettings { s with outOfRange := .clamp } = .ok clamping) :
    rejecting.ExtendedBy clamping ∧
    (∀ tick, FailsAlike (rejecting.approximatePrice tick) (rejecting.exactPrice tick) ∧
      FailsAlike (clamping.approximatePrice tick) (clamping.exactPrice tick)) ∧
    (∀ tick, (∃ price, clamping.approximatePrice tick = .ok price) ∧
      ∃ price, clamping.exactPrice tick = .ok price) ∧
    ∀ tick bound, tick < s.minTick ∧ bound = s.minTick ∨ s.maxTick < tick ∧ bound = s.maxTick →
      clamping.approximatePrice tick = rejecting.approximatePrice bound ∧
        clamping.exactPrice tick = rejecting.exactPrice bound := by
  have described := settings_of_ofSettings rejects
  have policy : rejecting.policy = .reject := congrArg Settings.outOfRange described
  have least : rejecting.minTick = s.minTick := congrArg Settings.minTick described
  have greatest : rejecting.maxTick = s.maxTick := congrArg Settings.maxTick described
  obtain rfl := eq_withPolicy rejects clamps
  refine ⟨extendedBy_clamp policy, ?_, ?_, ?_⟩
  · intro tick
    exact ⟨failsAlike_prices _ tick, failsAlike_prices _ tick⟩
  · intro tick
    have alike := failsAlike_prices (rejecting.withPolicy .clamp) tick
    have priced := exists_approximatePrice (l := rejecting.withPolicy .clamp) rfl tick
    exact ⟨priced, alike.exists_ok_iff.1 priced⟩
  · intro tick bound outside
    apply prices_of_boundTick
    rw [← least, ← greatest] at outside
    rcases outside with ⟨below, rfl⟩ | ⟨above, rfl⟩
    · exact boundTick_below rfl below
    · exact boundTick_above rfl above

theorem clamping_extends_rejecting_standard :
    ofSettings { Settings.standard with outOfRange := .reject } = .ok Ladder.standard ∧
      ofSettings { Settings.standard with outOfRange := .clamp } =
        .ok (Ladder.standard.withPolicy .clamp) ∧
      Ladder.standard.ExtendedBy (Ladder.standard.withPolicy .clamp) ∧
      (Ladder.standard.withPolicy .clamp).exactPrice 2147483647 =
        Ladder.standard.exactPrice 342000000 := by
  have rejects : ofSettings { Settings.standard with outOfRange := .reject } =
      .ok Ladder.standard := by decide +kernel
  have clamps : ofSettings { Settings.standard with outOfRange := .clamp } =
      .ok (Ladder.standard.withPolicy .clamp) := by decide +kernel
  obtain ⟨extended, -, -, outside⟩ := clamping_extends_rejecting rejects clamps
  exact ⟨rejects, clamps, extended,
    (outside 2147483647 342000000 (.inr ⟨by decide, rfl⟩)).2⟩

end Ladder

end PriceLadder
