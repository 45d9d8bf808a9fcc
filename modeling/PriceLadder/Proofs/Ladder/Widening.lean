import PriceLadder.Proofs.Ladder.Around

set_option autoImplicit false

namespace PriceLadder.Ladder

section

variable {l : Ladder} {spacing least greatest : Int32} {price other : Price} {tick reached : Int32}
  (outermost : l.OutermostValid spacing least greatest) (le : price ≤ other)
include outermost le

theorem LastUpTo.mono (last : l.LastUpTo spacing least price tick)
    (otherLast : l.LastUpTo spacing least other reached) : tick ≤ reached := by
  rw [Price.le_iff_toNat_le] at le
  simp only [LastUpTo, validUpTo_iff] at last otherLast
  rcases otherLast with ⟨upTo, greatestUpTo⟩ | ⟨none, rfl⟩
  · rcases last with ⟨own, -⟩ | ⟨-, rfl⟩
    · exact greatestUpTo tick ⟨own.1, Nat.le_trans own.2 le⟩
    · exact outermost.least_le upTo.1
  · rcases last with ⟨own, -⟩ | ⟨-, same⟩
    · exact absurd ⟨own.1, Nat.le_trans own.2 le⟩ (none tick)
    · exact same ▸ Int32.le_refl tick

theorem FirstFrom.mono (first : l.FirstFrom spacing greatest price tick)
    (otherFirst : l.FirstFrom spacing greatest other reached) : tick ≤ reached := by
  rw [Price.le_iff_toNat_le] at le
  simp only [FirstFrom, validFrom_iff] at first otherFirst
  rcases first with ⟨fromPrice, leastFrom⟩ | ⟨none, rfl⟩
  · rcases otherFirst with ⟨own, -⟩ | ⟨-, rfl⟩
    · exact leastFrom reached ⟨own.1, Nat.le_trans le own.2⟩
    · exact outermost.le_greatest fromPrice.1
  · rcases otherFirst with ⟨own, -⟩ | ⟨-, same⟩
    · exact absurd ⟨own.1, Nat.le_trans le own.2⟩ (none reached)
    · exact same ▸ Int32.le_refl reached

end

section

variable {l : Ladder} {lower upper wideLower wideUpper : Price} {spacing : Int32}
  (low : wideLower ≤ lower) (high : upper ≤ wideUpper)
include low high

/-- A band that grows keeps all that it needs for a range, but for its place on the ladder. -/
theorem HasRange.widen (hasRange : l.HasRange lower upper spacing) (positive : .zero < wideLower)
    (onLadder : l.policy = .reject → l.Spans wideLower ∧ l.Spans wideUpper) :
    l.HasRange wideLower wideUpper spacing := by
  obtain ⟨-, ascending, spacing_pos, reached, -⟩ := hasRange
  obtain ⟨least, greatest, leastOwn, greatestOwn, outermost, several, leastEncoded,
    greatestEncoded, lowerSmall, upperLarge⟩ := reached
  exact ⟨positive, Price.lt_of_le_of_lt low (Price.lt_of_lt_of_le ascending high), spacing_pos,
    ⟨least, greatest, leastOwn, greatestOwn, outermost, several, leastEncoded, greatestEncoded,
      Price.lt_of_le_of_lt low lowerSmall, Price.lt_of_lt_of_le upperLarge high⟩, onLadder⟩

theorem exists_tickRange_of_le {range : TickRange}
    (made : l.tickRange lower upper spacing = .ok range) (positive : .zero < wideLower)
    (onLadder : l.policy = .clamp ∨ l.Spans wideLower ∧ l.Spans wideUpper) :
    ∃ wide, l.tickRange wideLower wideUpper spacing = .ok wide ∧
      wide.lower ≤ range.lower ∧ range.upper ≤ wide.upper := by
  have hasRange := (l.exists_tickRange_iff lower upper spacing).1 ⟨range, made⟩
  have spanned (policy : l.policy = .reject) : l.Spans wideLower ∧ l.Spans wideUpper := by
    apply onLadder.resolve_left
    simp [policy]
  obtain ⟨wide, wideMade⟩ := (l.exists_tickRange_iff wideLower wideUpper spacing).2
    (hasRange.widen low high positive spanned)
  -- Both ranges end at the same outermost ticks where their prices lie beyond these.
  obtain ⟨least, greatest, outermost, start, finish, -⟩ := l.tickRange_ends lower upper spacing made
  obtain ⟨first, last, wideOutermost, wideStart, wideFinish, -⟩ :=
    l.tickRange_ends wideLower wideUpper spacing wideMade
  obtain ⟨rfl, rfl⟩ := outermost.unique wideOutermost
  exact ⟨wide, wideMade, wideStart.mono outermost low start, finish.mono outermost high wideFinish⟩

end

theorem pos_of_bandAround {l : Ladder} {price factor : Price} {spacing : Int32} {range : TickRange}
    (made : l.bandAround price factor spacing = .ok range) : .zero < price ∧ .one < factor := by
  unfold bandAround at made
  rw [Outcome.ite_error_eq_ok_iff, Outcome.ite_error_eq_ok_iff] at made
  obtain ⟨positive, widens, -⟩ := made
  rw [Price.le_iff_toNat_le, Nat.not_le, ← Price.lt_iff_toNat_lt] at widens
  exact ⟨Price.zero_lt_iff.2 positive, widens⟩

section

variable {price factor wider : Price} (positive : .zero < price) (widens : .one < factor)
  (le : factor ≤ wider)
include positive widens le

theorem bandLower_le (least : Price) :
    bandLower price wider least ≤ bandLower price factor least := by
  have above := toNat_one_lt widens
  have widerWidens : Price.one < wider := Price.lt_of_lt_of_le widens le
  rw [Price.le_iff_toNat_le] at le ⊢
  rw [toNat_bandLower positive widerWidens, toNat_bandLower positive widens]
  have quotient : price.atoms.toNat * 10 ^ Price.decimals / wider.atoms.toNat ≤
      price.atoms.toNat * 10 ^ Price.decimals / factor.atoms.toNat :=
    Nat.div_le_div_left le (Nat.zero_lt_of_lt above)
  omega

omit positive widens in
theorem le_bandUpper (price greatest : Price) :
    bandUpper price factor greatest ≤ bandUpper price wider greatest := by
  rw [Price.le_iff_toNat_le] at le ⊢
  rw [toNat_bandUpper, toNat_bandUpper]
  have product : price.atoms.toNat * factor.atoms.toNat / 10 ^ Price.decimals ≤
      price.atoms.toNat * wider.atoms.toNat / 10 ^ Price.decimals :=
    Nat.div_le_div_right (Nat.mul_le_mul_left _ le)
  omega

end

theorem exists_bandAround_of_le {l : Ladder} {price factor wider : Price} {spacing : Int32}
    {range : TickRange} (le : factor ≤ wider)
    (made : l.bandAround price factor spacing = .ok range) :
    ∃ wide, l.bandAround price wider spacing = .ok wide ∧
      wide.lower ≤ range.lower ∧ range.upper ≤ wide.upper := by
  obtain ⟨least, lowest, -⟩ := l.exists_exactPrice l.inBounds_minTick
  obtain ⟨greatest, highest, -⟩ := l.exists_exactPrice l.inBounds_maxTick
  obtain ⟨positive, widens⟩ := pos_of_bandAround made
  have widerWidens : Price.one < wider := Price.lt_of_lt_of_le widens le
  have low := bandLower_le positive widens le least
  have high := le_bandUpper le price greatest
  rw [bandAround_eq positive widens lowest highest] at made
  rw [bandAround_eq positive widerWidens lowest highest]
  have ascending := ((l.exists_tickRange_iff _ _ spacing).1 ⟨range, made⟩).ascending
  have wideAscending : bandLower price wider least < bandUpper price wider greatest :=
    Price.lt_of_le_of_lt low (Price.lt_of_lt_of_le ascending high)
  -- The ends are kept on the ladder, so the policy is not asked about them.
  have spanned := spans_bandEnds lowest highest wideAscending
  exact exists_tickRange_of_le low high made spanned.1.pos (.inr spanned)

/-- A wider band has a wider range. A band of prices that has a range has one around it after moving
its ends apart, wherever the policy allows the ends to be, and so has the band around a price for a
greater factor, whose ends are always allowed. -/
theorem ranges_widen (l : Ladder) (spacing : Int32) :
    (∀ price factor wider range, factor ≤ wider →
      l.bandAround price factor spacing = .ok range →
        ∃ wide, l.bandAround price wider spacing = .ok wide ∧
          wide.lower ≤ range.lower ∧ range.upper ≤ wide.upper) ∧
    ∀ lower upper wideLower wideUpper range, wideLower ≤ lower → upper ≤ wideUpper →
      .zero < wideLower → l.tickRange lower upper spacing = .ok range →
      l.policy = .clamp ∨ l.Spans wideLower ∧ l.Spans wideUpper →
        ∃ wide, l.tickRange wideLower wideUpper spacing = .ok wide ∧
          wide.lower ≤ range.lower ∧ range.upper ≤ wide.upper := by
  constructor
  · intro price factor wider range le made
    exact exists_bandAround_of_le le made
  · intro lower upper wideLower wideUpper range low high positive made onLadder
    exact exists_tickRange_of_le low high made positive onLadder

/-- The product with the greater factor does not fit. -/
theorem ranges_widen_saturated :
    Ladder.standard.bandAround ⟨5 * 10 ^ 61⟩ ⟨10 ^ 25⟩ 7 = .ok ⟨327999994, 341999994⟩ ∧
      ∃ wide, Ladder.standard.bandAround ⟨5 * 10 ^ 61⟩ ⟨10 ^ 70⟩ 7 = .ok wide ∧
        wide.lower ≤ 327999994 ∧ 341999994 ≤ wide.upper := by
  have made : Ladder.standard.bandAround ⟨5 * 10 ^ 61⟩ ⟨10 ^ 25⟩ 7 =
      .ok ⟨327999994, 341999994⟩ := by decide +kernel
  have le : (⟨10 ^ 25⟩ : Price) ≤ ⟨10 ^ 70⟩ := by decide +kernel
  obtain ⟨widen, -⟩ := Ladder.standard.ranges_widen 7
  obtain ⟨wide, wideMade, low, high⟩ := widen ⟨5 * 10 ^ 61⟩ ⟨10 ^ 25⟩ ⟨10 ^ 70⟩ _ le made
  exact ⟨made, wide, wideMade, low, high⟩

end PriceLadder.Ladder
