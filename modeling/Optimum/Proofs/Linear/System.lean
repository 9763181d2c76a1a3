import Optimum.Proofs.Rational

namespace Optimum
namespace Linear

/-!
# Systems of bounds

The form that the tableau methods bring a problem to: maximise a gain over the
points without negative entries that stay below a bound in each row.  In this
form the dual is again such a system, the negated transpose, and taking it
twice gives the system back.

Weak duality and the rays of a system are all that the answers of the methods
need.  A ray is a direction in which every feasible point can go on for ever
and gains by it, so the dual of a system with a ray has no feasible point.
-/

structure System where
  dimension : Nat
  size : Nat
  matrix : Nat → Nat → Rat
  bound : Nat → Rat
  gain : Nat → Rat

namespace System

variable {system : System} {point other direction prices : Nat → Rat}

def leftSide (system : System) (row : Nat) (point : Nat → Rat) : Rat :=
  ∑ j ∈ Finset.range system.dimension, system.matrix row j * point j

def value (system : System) (point : Nat → Rat) : Rat :=
  ∑ j ∈ Finset.range system.dimension, system.gain j * point j

structure Feasible (system : System) (point : Nat → Rat) : Prop where
  nonneg : ∀ j < system.dimension, 0 ≤ point j
  bounded : ∀ row < system.size, system.leftSide row point ≤ system.bound row

/-- A direction along which the gain grows and no row does.  No entry of it is
negative, so a point can follow it for ever. -/
structure Ray (system : System) (direction : Nat → Rat) : Prop where
  nonneg : ∀ j < system.dimension, 0 ≤ direction j
  falls : ∀ row < system.size, system.leftSide row direction ≤ 0
  gains : 0 < system.value direction

/-- The negated transpose.  Its points are prices, and to turn it once more
gives the system back. -/
def dual (system : System) : System where
  dimension := system.size
  size := system.dimension
  matrix row column := -system.matrix column row
  bound row := -system.gain row
  gain column := -system.bound column

theorem dual_dual (system : System) : system.dual.dual = system := by
  simp only [dual, neg_neg]

/-! ## Points are compared entry by entry -/

theorem leftSide_congr (agree : ∀ j < system.dimension, point j = other j) (row : Nat) :
    system.leftSide row point = system.leftSide row other :=
  Finset.sum_congr rfl fun j member => by rw [agree j (Finset.mem_range.mp member)]

theorem value_congr (agree : ∀ j < system.dimension, point j = other j) :
    system.value point = system.value other :=
  Finset.sum_congr rfl fun j member => by rw [agree j (Finset.mem_range.mp member)]

theorem Feasible.congr (feasible : system.Feasible point)
    (agree : ∀ j < system.dimension, point j = other j) : system.Feasible other where
  nonneg := by
    intro j inside
    rw [← agree j inside]
    exact feasible.nonneg j inside
  bounded := by
    intro row inside
    rw [← leftSide_congr agree row]
    exact feasible.bounded row inside

/-! ## Duality -/

/-- Weighing the rows by prices gives the dual's left sides, negated.  This
exchange of two sums is what duality rests on. -/
theorem sum_prices_leftSide (system : System) (prices point : Nat → Rat) :
    ∑ row ∈ Finset.range system.size, prices row * system.leftSide row point =
      -∑ j ∈ Finset.range system.dimension, point j * system.dual.leftSide j prices := by
  simp only [leftSide, dual, Finset.mul_sum, neg_mul, Finset.sum_neg_distrib, mul_neg, neg_neg]
  rw [Finset.sum_comm]
  refine Finset.sum_congr rfl fun j _ => Finset.sum_congr rfl fun row _ => ?_
  ring

/-- No feasible point gains more than feasible prices allow.  Both values are
gains, so the bound is that they add up to nothing positive.  All statements
that an answer is best come from this one. -/
theorem weak_duality (feasible : system.Feasible point)
    (affordable : system.dual.Feasible prices) :
    system.value point + system.dual.value prices ≤ 0 := by
  have rows : ∑ row ∈ Finset.range system.size, prices row * system.leftSide row point ≤
      ∑ row ∈ Finset.range system.size, prices row * system.bound row := by
    refine Finset.sum_le_sum fun row member => ?_
    have inside := Finset.mem_range.mp member
    exact mul_le_mul_of_nonneg_left (feasible.bounded row inside) (affordable.nonneg row inside)
  have columns : ∑ j ∈ Finset.range system.dimension, point j * system.dual.leftSide j prices ≤
      ∑ j ∈ Finset.range system.dimension, point j * -system.gain j := by
    refine Finset.sum_le_sum fun j member => ?_
    have inside := Finset.mem_range.mp member
    exact mul_le_mul_of_nonneg_left (affordable.bounded j inside) (feasible.nonneg j inside)
  have gain : ∑ j ∈ Finset.range system.dimension, point j * -system.gain j =
      -system.value point := by
    rw [value, ← Finset.sum_neg_distrib]
    exact Finset.sum_congr rfl fun j _ => by ring
  have price : system.dual.value prices =
      -∑ row ∈ Finset.range system.size, prices row * system.bound row := by
    rw [value, ← Finset.sum_neg_distrib]
    exact Finset.sum_congr rfl fun row _ => by simp only [dual]; ring
  rw [sum_prices_leftSide] at rows
  linarith

/-- A point and prices whose values cancel are both best possible.  A method
that finds such a pair has answered both problems. -/
theorem value_le_of_cancel (affordable : system.dual.Feasible prices)
    (cancel : system.value point + system.dual.value prices = 0)
    (feasible : system.Feasible other) : system.value other ≤ system.value point := by
  have bound := weak_duality feasible affordable
  linarith

/-! ## Rays -/

def along (point direction : Nat → Rat) (amount : Rat) (j : Nat) : Rat :=
  point j + amount * direction j

theorem leftSide_along (row : Nat) (amount : Rat) :
    system.leftSide row (along point direction amount) =
      system.leftSide row point + amount * system.leftSide row direction := by
  simp only [leftSide, along, Finset.mul_sum, ← Finset.sum_add_distrib]
  exact Finset.sum_congr rfl fun j _ => by ring

theorem value_along (amount : Rat) :
    system.value (along point direction amount) =
      system.value point + amount * system.value direction := by
  simp only [value, along, Finset.mul_sum, ← Finset.sum_add_distrib]
  exact Finset.sum_congr rfl fun j _ => by ring

namespace Ray

theorem feasible_along (ray : system.Ray direction) (feasible : system.Feasible point)
    {amount : Rat} (nonneg : 0 ≤ amount) : system.Feasible (along point direction amount) where
  nonneg := by
    intro j inside
    exact add_nonneg (feasible.nonneg j inside) (mul_nonneg nonneg (ray.nonneg j inside))
  bounded := by
    intro row inside
    rw [leftSide_along]
    have falls := mul_nonpos_of_nonneg_of_nonpos nonneg (ray.falls row inside)
    exact (add_le_of_nonpos_right falls).trans (feasible.bounded row inside)

theorem exists_value_gt (ray : system.Ray direction) (point : Nat → Rat) (limit : Rat) :
    ∃ amount, 0 ≤ amount ∧ limit < system.value (along point direction amount) := by
  have gains := ray.gains
  refine ⟨(|limit - system.value point| + 1) / system.value direction,
    div_nonneg (by positivity) gains.le, ?_⟩
  rw [value_along, div_mul_cancel₀ _ gains.ne']
  have reached := le_abs_self (limit - system.value point)
  linarith

/-- The dual of a system with a ray has no feasible point.  Its value would
bound what the ray passes. -/
theorem not_feasible_dual (ray : system.Ray direction) : ¬ system.dual.Feasible prices := by
  intro affordable
  -- Along the ray the prices would have to pay for a gain that no row pays for.
  have rows : ∑ row ∈ Finset.range system.size, prices row * system.leftSide row direction ≤ 0 := by
    refine Finset.sum_nonpos fun row member => ?_
    have inside := Finset.mem_range.mp member
    exact mul_nonpos_of_nonneg_of_nonpos (affordable.nonneg row inside) (ray.falls row inside)
  have columns : ∑ j ∈ Finset.range system.dimension,
      direction j * system.dual.leftSide j prices ≤ -system.value direction := by
    rw [value, ← Finset.sum_neg_distrib]
    refine Finset.sum_le_sum fun j member => ?_
    have inside := Finset.mem_range.mp member
    have product := mul_le_mul_of_nonneg_left (affordable.bounded j inside) (ray.nonneg j inside)
    simp only [dual] at product ⊢
    linarith
  have gains := ray.gains
  rw [sum_prices_leftSide] at rows
  linarith

end Ray
end System

end Linear
end Optimum
