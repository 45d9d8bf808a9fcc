import PriceLadder.Ladder.Basic
import PriceLadder.Proofs.Curve.Basic

set_option autoImplicit false

namespace PriceLadder

namespace Resolution

theorem mem_all (r : Resolution) : r ∈ all := by
  have low := r.one_le_exponent
  have high := r.exponent_le_eight
  refine List.mem_map.2 ⟨⟨r.exponent - 1, by omega⟩, List.mem_finRange _, ?_⟩
  cases r
  simp only [mk.injEq]
  omega

theorem width_injective {r other : Resolution} (same : r.width = other.width) : r = other := by
  rw [width_eq, width_eq, Nat.mul_right_inj (by decide)] at same
  have exponents := Nat.pow_right_injective (show 2 ≤ 10 by decide) same
  cases r
  cases other
  simpa using exponents

theorem ofWidth?_eq_some_iff {width : Int32} {r : Resolution} :
    ofWidth? width = some r ↔ (r.width : Int) = width.toInt := by
  constructor
  · intro found
    unfold ofWidth? at found
    simpa only [decide_eq_true_eq] using List.find?_some found
  · intro same
    cases found : ofWidth? width with
    | none =>
      unfold ofWidth? at found
      exact absurd (decide_eq_true same) (List.find?_eq_none.1 found r r.mem_all)
    | some other =>
      unfold ofWidth? at found
      have otherWidth := List.find?_some found
      rw [decide_eq_true_eq, ← same] at otherWidth
      rw [width_injective (Int.ofNat.inj otherWidth)]

theorem ofWidth_eq_ok_iff {width : Int32} {r : Resolution} :
    ofWidth width = .ok r ↔ (r.width : Int) = width.toInt := by
  rw [← ofWidth?_eq_some_iff, ofWidth]
  cases ofWidth? width <;> simp

theorem toInt_ofNat_width (r : Resolution) : (Int32.ofNat r.width).toInt = r.width := by
  have small := r.width_le
  exact Int32.toInt_ofNat_of_lt (by omega)

end Resolution

namespace Ladder

/-- Settings are refused as such, or they make a ladder that they describe. -/
theorem ofSettings_cases (s : Settings) :
    (∃ fault, ofSettings s = .error (.invalidSettings fault)) ∨
    ∃ l, ofSettings s = .ok l ∧ l.settings = s := by
  unfold ofSettings
  cases made : Resolution.ofWidth s.decadeWidth with
  | error fault =>
    unfold Resolution.ofWidth at made
    split at made
    · cases made
    · obtain rfl := Except.error.inj made
      exact .inl ⟨_, rfl⟩
  | ok resolution =>
    have width : Int32.ofNat resolution.width = s.decadeWidth := by
      rw [← Int32.toInt_inj, resolution.toInt_ofNat_width]
      exact Resolution.ofWidth_eq_ok_iff.1 made
    simp only [bind, Except.bind]
    split
    · split
      · split
        · split
          · exact .inr ⟨_, rfl, by simp only [settings, decadeWidth, width]⟩
          · exact .inl ⟨_, rfl⟩
        · exact .inl ⟨_, rfl⟩
      · exact .inl ⟨_, rfl⟩
    · exact .inl ⟨_, rfl⟩

theorem ofSettings_settings (l : Ladder) : ofSettings l.settings = .ok l := by
  have resolution : Resolution.ofWidth l.settings.decadeWidth = .ok l.resolution :=
    Resolution.ofWidth_eq_ok_iff.2 l.resolution.toInt_ofNat_width.symm
  have ascending : l.settings.minTick < l.settings.maxTick := l.minTick_lt_maxTick
  have step : -Price.decimals ≤ l.resolution.stepAt l.settings.minTick := l.step_ge
  have reach : l.resolution.reachAt l.settings.maxTick + Price.decimals ≤ Atoms.greatestExponent :=
    l.reach_le
  have tolerance : isTolerance l.settings.precisionTolerance := l.tolerance_valid
  simp only [ofSettings, resolution, bind, Except.bind, dif_pos ascending, dif_pos step,
    dif_pos reach, dif_pos tolerance]
  rfl

/-- A ladder is made of the settings that describe it, and of no others. -/
theorem ofSettings_eq_ok_iff {s : Settings} {l : Ladder} :
    ofSettings s = .ok l ↔ l.settings = s := by
  constructor
  · intro accepted
    rcases ofSettings_cases s with ⟨fault, refused⟩ | ⟨made, found, same⟩
    · rw [refused] at accepted
      cases accepted
    · rw [found] at accepted
      rw [← Except.ok.inj accepted, same]
  · rintro rfl
    exact l.ofSettings_settings

theorem settings_of_ofSettings {s : Settings} {l : Ladder} (accepted : ofSettings s = .ok l) :
    l.settings = s :=
  ofSettings_eq_ok_iff.1 accepted

end Ladder

end PriceLadder
