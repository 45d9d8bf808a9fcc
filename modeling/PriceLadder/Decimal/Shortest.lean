set_option autoImplicit false

namespace PriceLadder.Decimal

structure Point where
  coefficient : Nat
  exponent : Int
deriving DecidableEq, Repr

/-- Which of two grid points a double halfway between them goes to. -/
inductive Tie where
  | even
  | up
deriving DecidableEq, Repr

/-- The reals that round to a positive double: those from `low` to `high`, around `middle`, all
three in units of `2 ^ exponent`. The two ends belong to it if `closed`. -/
structure Span where
  low : Nat
  middle : Nat
  high : Nat
  exponent : Int
  closed : Bool

namespace Span

/-- The span of `m * 2 ^ e`. It reaches half way to the next doubles, and these are closer below
a power of two than above, save at the bottom of the range. -/
def ofDouble (m : Nat) (e : Int) : Span where
  low := if m = Nat.pow 2 52 ∧ -1074 < e then 4 * m - 1 else 4 * m - 2
  middle := 4 * m
  high := 4 * m + 2
  exponent := e - 2
  closed := m % 2 = 0

/-- One step of the grid `10 ^ grid`, in the unit that it shares with `spanUnit`. -/
def gridUnit (s : Span) (grid : Int) : Nat :=
  Nat.pow 10 grid.toNat * Nat.pow 2 (-s.exponent).toNat

/-- One unit of the span, in the unit that it shares with `gridUnit`. -/
def spanUnit (s : Span) (grid : Int) : Nat :=
  Nat.pow 10 (-grid).toNat * Nat.pow 2 s.exponent.toNat

def holds (s : Span) (grid : Int) (c : Nat) : Bool :=
  let point := c * s.gridUnit grid
  let low := s.low * s.spanUnit grid
  let high := s.high * s.spanUnit grid
  if s.closed then low ≤ point && point ≤ high else low < point && point < high

def pointBelow (s : Span) (grid : Int) : Nat :=
  s.middle * s.spanUnit grid / s.gridUnit grid

def nearer (tie : Tie) (s : Span) (grid : Int) : Nat :=
  let below := s.pointBelow grid
  match compare (2 * (s.middle * s.spanUnit grid % s.gridUnit grid)) (s.gridUnit grid), tie with
  | .lt, _ => below
  | .gt, _ => below + 1
  | .eq, .up => below + 1
  | .eq, .even => below + below % 2

def pick? (tie : Tie) (s : Span) (grid : Int) : Option Nat :=
  let below := s.pointBelow grid
  match s.holds grid below, s.holds grid (below + 1) with
  | true, true => some (s.nearer tie grid)
  | true, false => some below
  | false, true => some (below + 1)
  | false, false => none

/-- The pick on the coarsest grid that has one, of those at most `grid` and more than `steps`
below it. -/
def coarsest (tie : Tie) (s : Span) : Nat → Int → Point
  | 0, grid => ⟨s.pointBelow grid, grid⟩
  | steps + 1, grid =>
    match s.pick? tie grid with
    | some c => ⟨c, grid⟩
    | none => coarsest tie s steps (grid - 1)

end Span

/-- A grid at least as coarse as the leading digit of `m * 2 ^ e`, and at most two steps coarser. -/
def leadingGrid (m : Nat) (e : Int) : Int :=
  (m.log2 + e + 1) * 30103 / 100000 + 1

/-- The shortest decimal that reads back as the double `m * 2 ^ e`: of the grid points in the span
of the double the one on the coarsest grid, and of two the one nearer to the double. Seventeen
digits always suffice, so the search ends within twenty grids. -/
def shortest (tie : Tie) (m : Nat) (e : Int) : Point :=
  (Span.ofDouble m e).coarsest tie 20 (leadingGrid m e)

example : shortest .up 1 (-1074) = ⟨5, -324⟩ := by decide +kernel
example : shortest .up 0x1999999999999a (-56) = ⟨1, -1⟩ := by decide +kernel
example : shortest .up (2 ^ 52 + 1) (-2) = ⟨11258999068426243, -1⟩ ∧
    shortest .even (2 ^ 52 + 1) (-2) = ⟨11258999068426242, -1⟩ := by decide +kernel

end PriceLadder.Decimal
