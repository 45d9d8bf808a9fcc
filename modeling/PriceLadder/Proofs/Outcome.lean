set_option autoImplicit false

namespace PriceLadder.Outcome

variable {ε α β : Type} {b : β}

theorem bind_eq_ok_iff {x : Except ε α} {f : α → Except ε β} :
    (x >>= f) = .ok b ↔ ∃ a, x = .ok a ∧ f a = .ok b := by
  cases x with
  | error fault =>
    constructor
    · intro made
      cases made
    · rintro ⟨a, made, -⟩
      cases made
  | ok a =>
    constructor
    · intro made
      exact ⟨a, rfl, made⟩
    · rintro ⟨other, same, made⟩
      rw [Except.ok.inj same]
      exact made

theorem map_eq_ok_iff {x : Except ε α} {f : α → β} :
    f <$> x = .ok b ↔ ∃ a, x = .ok a ∧ f a = b := by
  cases x with
  | error fault =>
    constructor
    · intro made
      cases made
    · rintro ⟨a, made, -⟩
      cases made
  | ok a =>
    constructor
    · intro made
      exact ⟨a, rfl, Except.ok.inj made⟩
    · rintro ⟨other, same, made⟩
      rw [← made, Except.ok.inj same]
      rfl

theorem ite_error_eq_ok_iff {c : Prop} [Decidable c] {fault : ε} {x : Except ε β} :
    (if c then .error fault else x) = .ok b ↔ ¬ c ∧ x = .ok b := by
  split
  · next refused => simp [refused]
  · next passed => simp [passed]

/-- Whether two operations fail alike: one fails where the other does, for the same reason. -/
def FailsAlike {ε α β : Type} (x : Except ε α) (y : Except ε β) : Prop :=
  ∀ fault, x = .error fault ↔ y = .error fault

theorem FailsAlike.exists_ok_iff {x : Except ε α} {y : Except ε β} (alike : FailsAlike x y) :
    (∃ a, x = .ok a) ↔ ∃ b, y = .ok b := by
  cases x with
  | error fault => simp [(alike fault).1 rfl]
  | ok a =>
    cases y with
    | error fault => cases (alike fault).2 rfl
    | ok b => simp

/-- An operation fails like its first step if the others succeed after it. -/
theorem failsAlike_bind {x : Except ε α} {f : α → Except ε β}
    (succeeds : ∀ a, x = .ok a → ∃ b, f a = .ok b) : FailsAlike (x >>= f) x := by
  intro fault
  cases x with
  | error own =>
    change Except.error own = Except.error fault ↔ _
    rw [Except.error.injEq, Except.error.injEq]
  | ok a =>
    obtain ⟨b, made⟩ := succeeds a rfl
    change f a = .error fault ↔ _
    simp [made]

end PriceLadder.Outcome
