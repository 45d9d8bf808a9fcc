import Mathlib.Logic.Relation
import PriceLadder.Proofs.Atoms

set_option autoImplicit false

namespace PriceLadder.Atoms

/-- Where a search stands: the exponent of the last power of ten that the number reached, and the
power that is next. -/
structure Search where
  exponent : Nat
  bound : Atoms
deriving DecidableEq

namespace Search

def start : Search :=
  ⟨0, 10⟩

inductive Turn where
  | next (s : Search)
  | found (exponent : Nat)
deriving DecidableEq

/-- One turn of the search for the logarithm of `a`. There are two ways out: a power that the number
does not reach, and the last power that fits a word. -/
def turn (a : Atoms) (s : Search) : Turn :=
  if s.bound ≤ a then
    match s.bound.mul? 10 with
    | some bound => .next ⟨s.exponent + 1, bound⟩
    | none => .found (s.exponent + 1)
  else .found s.exponent

def Leads (a : Atoms) : Search → Search → Prop :=
  Relation.ReflTransGen fun s t => s.turn a = .next t

/-- Whether the exponent of a search is the one of its powers. Every turn keeps this, and it makes
the search end at the logarithm. -/
structure Sound (a : Atoms) (s : Search) : Prop where
  bound_eq : s.bound.toNat = 10 ^ (s.exponent + 1)
  pow_le : 10 ^ s.exponent ≤ a.toNat

theorem sound_start {a : Atoms} (nonzero : a ≠ 0) : start.Sound a where
  bound_eq := rfl
  pow_le := Nat.one_le_iff_ne_zero.2 (toNat_ne_zero nonzero)

section

variable {a : Atoms} {s : Search} (sound : s.Sound a)
include sound

theorem exponent_lt : s.exponent < greatestExponent :=
  exponent_le_of_pow_le (Nat.le_of_eq sound.bound_eq.symm)

theorem mul?_bound_eq_some_iff {bound : Atoms} :
    s.bound.mul? 10 = some bound ↔ bound.toNat = 10 ^ (s.exponent + 2) := by
  rw [mul?_eq_some_iff, sound.bound_eq, Nat.pow_succ 10 (s.exponent + 1)]
  rfl

/-- Beyond the last power that fits lies every number of atoms. -/
theorem mul?_bound_eq_none_iff : s.bound.mul? 10 = none ↔ s.exponent + 1 = greatestExponent := by
  have below := exponent_lt sound
  have product : s.bound.toNat * (10 : Atoms).toNat = 10 ^ (s.exponent + 2) := by
    rw [sound.bound_eq]
    exact (Nat.pow_succ 10 (s.exponent + 1)).symm
  rw [mul?, ofNat?_eq_none_iff, product]
  constructor
  · intro large
    refine Nat.le_antisymm below (Nat.not_lt.1 fun more => ?_)
    have fits : 10 ^ (s.exponent + 2) ≤ 10 ^ greatestExponent :=
      Nat.pow_le_pow_right (by decide) more
    exact Nat.not_lt.2 large (Nat.lt_of_le_of_lt fits (by decide))
  · intro last
    rw [show s.exponent + 2 = greatestExponent + 1 by omega]
    decide

theorem sound_next {t : Search} (turned : s.turn a = .next t) :
    t.Sound a ∧ t.exponent = s.exponent + 1 := by
  unfold turn at turned
  split at turned
  · next reached =>
    rw [BitVec.le_def, sound.bound_eq] at reached
    split at turned
    · next bound product =>
      obtain rfl := Turn.next.inj turned
      exact ⟨⟨(mul?_bound_eq_some_iff sound).1 product, reached⟩, rfl⟩
    · cases turned
  · cases turned

/-- A search that stops has found the logarithm, whichever way it left. -/
theorem bracket_of_found {e : Nat} (turned : s.turn a = .found e) :
    10 ^ e ≤ a.toNat ∧ a.toNat < 10 ^ (e + 1) := by
  unfold turn at turned
  split at turned
  · next reached =>
    rw [BitVec.le_def, sound.bound_eq] at reached
    split at turned
    · cases turned
    · next overflow =>
      obtain rfl := Turn.found.inj turned
      rw [mul?_bound_eq_none_iff sound] at overflow
      refine ⟨reached, ?_⟩
      rw [overflow]
      exact toNat_lt_pow a
  · next missed =>
    rw [BitVec.le_def, sound.bound_eq, Nat.not_le] at missed
    obtain rfl := Turn.found.inj turned
    exact ⟨sound.pow_le, missed⟩

theorem sound_of_leads {t : Search} (leads : s.Leads a t) : t.Sound a := by
  induction leads with
  | refl => exact sound
  | tail _ turned ih => exact (sound_next ih turned).1

theorem exists_found : ∃ t e, s.Leads a t ∧ t.turn a = .found e := by
  -- On the powers that are left: every turn takes one, and a sound search has not used them up.
  induction remaining : greatestExponent - s.exponent using Nat.strongRecOn generalizing s with
  | ind left ih =>
    cases turned : s.turn a with
    | found e => exact ⟨s, e, .refl, turned⟩
    | next t =>
      obtain ⟨nextSound, exponent⟩ := sound_next sound turned
      have below := exponent_lt sound
      obtain ⟨last, e, leads, found⟩ := ih _ (by omega) nextSound rfl
      exact ⟨last, e, .head turned leads, found⟩

end

end Search

theorem log10?_eq_none_iff {a : Atoms} : a.log10? = none ↔ a = 0 := by
  rw [log10?]
  split
  · next zero => exact iff_of_true rfl zero
  · next nonzero => exact iff_of_false (Option.some_ne_none _) nonzero

theorem log10?_eq_some_iff {a : Atoms} {e : Nat} :
    a.log10? = some e ↔ 10 ^ e ≤ a.toNat ∧ a.toNat < 10 ^ (e + 1) := by
  by_cases zero : a = 0
  · have positive : 0 < 10 ^ e := Nat.pow_pos (by decide)
    rw [log10?_eq_none_iff.2 zero, zero]
    simp only [reduceCtorEq, false_iff, not_and]
    intro reached
    exact absurd positive (Nat.not_lt.2 reached)
  · rw [log10?_eq_log zero, Option.some.injEq]
    exact Nat.log_eq_iff (.inr ⟨by decide, toNat_ne_zero zero⟩)

/-- Every number of atoms but zero has a logarithm, and the search for it ends there. Where it runs
out of powers that fit, at the last one of them, it has arrived at the logarithm as well. -/
theorem log10?_brackets (a : Atoms) :
    (a.log10? = none ↔ a = 0) ∧
    (∀ e, a.log10? = some e ↔ 10 ^ e ≤ a.toNat ∧ a.toNat < 10 ^ (e + 1)) ∧
    (∀ e, a.log10? = some e → e ≤ 77) ∧
    (a ≠ 0 → ∃ s e, Search.start.Leads a s ∧ s.turn a = .found e) ∧
    (∀ s, a ≠ 0 → Search.start.Leads a s →
      (∀ e, s.turn a = .found e → a.log10? = some e) ∧
      (s.bound ≤ a → s.bound.mul? 10 = none → s.exponent + 1 = 77 ∧ a.log10? = some 77)) := by
  refine ⟨log10?_eq_none_iff, fun e => log10?_eq_some_iff, ?_, ?_, ?_⟩
  · intro e found
    exact exponent_le_of_pow_le (log10?_eq_some_iff.1 found).1
  · intro nonzero
    exact Search.exists_found (Search.sound_start nonzero)
  · intro s nonzero leads
    have sound := Search.sound_of_leads (Search.sound_start nonzero) leads
    refine ⟨fun e turned => log10?_eq_some_iff.2 (Search.bracket_of_found sound turned), ?_⟩
    intro reached overflow
    have last := (Search.mul?_bound_eq_none_iff sound).1 overflow
    have turned : s.turn a = .found (s.exponent + 1) := by
      simp only [Search.turn, reached, overflow, if_true]
    have found := log10?_eq_some_iff.2 (Search.bracket_of_found sound turned)
    rw [last] at found
    exact ⟨last, found⟩

example : log10? (BitVec.allOnes 256) = some 77 := by decide +kernel

end PriceLadder.Atoms
