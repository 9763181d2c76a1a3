import Mathlib.Algebra.Module.LinearMap.Defs
import Mathlib.Algebra.Module.Prod
import Mathlib.Data.Finite.Prod
import Mathlib.Data.Real.Basic
import Mathlib.Data.Set.Finite.Lemmas
import Mathlib.Tactic.Linarith
import Mathlib.Tactic.Ring

namespace Optimum
namespace Plane

/-!
# Intersections of half planes

A region of the plane is cut out by finitely many half planes, the quadrant
among them.  A point of it slides along a line that does not worsen a linear
gain until an edge stops it, and then along that edge until a second one does.
So every point has a vertex that is at least as good, a crossing of two edges
that are not parallel, unless the gain has no bound.
-/

/-- The points at which a linear form does not exceed a limit.  Bounds from
below and equations are made of these too. -/
structure HalfPlane where
  a : ℝ
  b : ℝ
  limit : ℝ

/-- Two equations whose determinant is not zero have one solution.  It is the
rule of determinants, by which crossings are computed. -/
theorem eq_of_equations {a b value c d otherValue x y : ℝ} (apart : a * d - c * b ≠ 0)
    (first : a * x + b * y = value) (second : c * x + d * y = otherValue) :
    x = (value * d - otherValue * b) / (a * d - c * b) ∧
      y = (a * otherValue - c * value) / (a * d - c * b) := by
  constructor
  · rw [eq_div_iff apart, ← first, ← second]
    ring
  · rw [eq_div_iff apart, ← first, ← second]
    ring

namespace HalfPlane

/-- The value of the form at a point or along a direction. -/
def form (edge : HalfPlane) (point : ℝ × ℝ) : ℝ :=
  edge.a * point.1 + edge.b * point.2

theorem form_along (edge : HalfPlane) (point direction : ℝ × ℝ) (amount : ℝ) :
    edge.form (point + amount • direction) = edge.form point + amount * edge.form direction := by
  simp only [form, Prod.fst_add, Prod.snd_add, Prod.smul_fst, Prod.smul_snd, smul_eq_mul]
  ring

theorem form_neg (edge : HalfPlane) (direction : ℝ × ℝ) :
    edge.form (-direction) = -edge.form direction := by
  simp only [form, Prod.fst_neg, Prod.snd_neg]
  ring

/-- Whether a point lies on the boundary. -/
def Tight (edge : HalfPlane) (point : ℝ × ℝ) : Prop :=
  edge.form point = edge.limit

/-- The determinant of the forms of two half planes. -/
def cross (first second : HalfPlane) : ℝ :=
  first.a * second.b - second.a * first.b

/-- The point at which two boundaries cross. -/
noncomputable def meeting (first second : HalfPlane) : ℝ × ℝ :=
  ((first.limit * second.b - second.limit * first.b) / first.cross second,
    (first.a * second.limit - second.a * first.limit) / first.cross second)

theorem eq_meeting {first second : HalfPlane} {point : ℝ × ℝ} (apart : first.cross second ≠ 0)
    (tight : first.Tight point) (otherTight : second.Tight point) :
    point = first.meeting second := by
  rcases eq_of_equations apart tight otherTight with ⟨x_eq, y_eq⟩
  exact Prod.ext x_eq y_eq

/-- How far a point that moves towards the boundary can go.  It is a quotient of
the distance by the speed, so it makes sense only towards the boundary. -/
noncomputable def room (edge : HalfPlane) (point direction : ℝ × ℝ) : ℝ :=
  (edge.limit - edge.form point) / edge.form direction

theorem tight_along_room {edge : HalfPlane} {direction : ℝ × ℝ} (towards : 0 < edge.form direction)
    (point : ℝ × ℝ) : edge.Tight (point + edge.room point direction • direction) := by
  rw [Tight, form_along, room, div_mul_cancel₀ _ towards.ne']
  ring

end HalfPlane

/-- The half planes of the quadrant without negative coordinates. -/
def quadrant : List HalfPlane :=
  [⟨-1, 0, 0⟩, ⟨0, -1, 0⟩]

def region (edges : List HalfPlane) : Set (ℝ × ℝ) :=
  {point | ∀ edge ∈ edges, edge.form point ≤ edge.limit}

theorem mem_region_iff {edges : List HalfPlane} {point : ℝ × ℝ} :
    point ∈ region edges ↔ ∀ edge ∈ edges, edge.form point ≤ edge.limit :=
  Iff.rfl

theorem mem_region_append_iff {first second : List HalfPlane} {point : ℝ × ℝ} :
    point ∈ region (first ++ second) ↔ point ∈ region first ∧ point ∈ region second :=
  List.forall_mem_append

theorem mem_region_flatMap_iff {β : Type} {values : List β} {cut : β → List HalfPlane}
    {point : ℝ × ℝ} :
    point ∈ region (values.flatMap cut) ↔ ∀ value ∈ values, point ∈ region (cut value) :=
  List.forall_mem_flatMap

/-- A point of a region at which two edges cross.  The edges are not parallel,
so the point is the only one on both. -/
structure IsVertex (edges : List HalfPlane) (point : ℝ × ℝ) : Prop where
  inside : point ∈ region edges
  crosses : ∃ first ∈ edges, ∃ second ∈ edges,
    first.cross second ≠ 0 ∧ first.Tight point ∧ second.Tight point

/-- Whether a point can go along a line, without a loss of the gain, to an edge
that the line crosses. -/
def Slides (edges : List HalfPlane) (gain : ℝ × ℝ →ₗ[ℝ] ℝ) (point direction : ℝ × ℝ) : Prop :=
  ∃ amount : ℝ, point + amount • direction ∈ region edges ∧
    gain point ≤ gain (point + amount • direction) ∧
    ∃ edge ∈ edges, edge.form direction ≠ 0 ∧ edge.Tight (point + amount • direction)

variable {edges : List HalfPlane} {gain : ℝ × ℝ →ₗ[ℝ] ℝ} {point direction : ℝ × ℝ}

theorem exists_mem_quadrant_form_ne_zero (moves : direction ≠ 0) :
    ∃ edge ∈ quadrant, edge.form direction ≠ 0 := by
  by_contra still
  push Not at still
  have first := still ⟨-1, 0, 0⟩ (by simp [quadrant])
  have second := still ⟨0, -1, 0⟩ (by simp [quadrant])
  simp only [HalfPlane.form, zero_mul, add_zero, zero_add, neg_mul, one_mul, neg_eq_zero]
    at first second
  exact moves (Prod.ext first second)

/-- A point that moves towards an edge is stopped by some edge, the nearest one
of those that it moves towards. -/
theorem slides_of_towards (inside : point ∈ region edges) (improves : 0 ≤ gain direction)
    {edge : HalfPlane} (member : edge ∈ edges) (towards : 0 < edge.form direction) :
    Slides edges gain point direction := by
  have finite : {edge | edge ∈ edges ∧ 0 < edge.form direction}.Finite :=
    edges.finite_toSet.subset fun edge approached => approached.1
  rcases Set.exists_min_image _ (fun edge => edge.room point direction) finite
    ⟨edge, member, towards⟩ with ⟨first, ⟨firstMember, firstTowards⟩, least⟩
  have nonneg : 0 ≤ first.room point direction :=
    div_nonneg (sub_nonneg.mpr (inside first firstMember)) firstTowards.le
  refine ⟨first.room point direction, fun other otherMember => ?_, ?_, first, firstMember,
    firstTowards.ne', HalfPlane.tight_along_room firstTowards point⟩
  · rw [HalfPlane.form_along]
    rcases lt_or_ge 0 (other.form direction) with otherTowards | away
    · have within : first.room point direction * other.form direction ≤
          other.limit - other.form point :=
        (le_div_iff₀ otherTowards).mp (least other ⟨otherMember, otherTowards⟩)
      linarith
    · have kept := inside other otherMember
      have lowers := mul_nonpos_of_nonneg_of_nonpos nonneg away
      linarith
  · rw [map_add, map_smul]
    exact le_add_of_nonneg_right (mul_nonneg nonneg improves)

/-- A bounded gain does not rise along a ray that no edge stops. -/
theorem gain_nonpos_of_bddAbove (bounded : BddAbove (gain '' region edges))
    (inside : point ∈ region edges) (away : ∀ edge ∈ edges, edge.form direction ≤ 0) :
    gain direction ≤ 0 := by
  by_contra rises
  rw [not_le] at rises
  rcases bounded with ⟨bound, isBound⟩
  have below : gain point ≤ bound := isBound ⟨point, inside, rfl⟩
  let amount := (bound - gain point) / gain direction + 1
  have nonneg : 0 ≤ amount :=
    add_nonneg (div_nonneg (sub_nonneg.mpr below) rises.le) zero_le_one
  have stays : point + amount • direction ∈ region edges := by
    intro edge member
    rw [HalfPlane.form_along]
    have kept := inside edge member
    have lowers := mul_nonpos_of_nonneg_of_nonpos nonneg (away edge member)
    linarith
  have bounds : gain (point + amount • direction) ≤ bound := isBound ⟨_, stays, rfl⟩
  rw [map_add, map_smul, smul_eq_mul, add_mul, div_mul_cancel₀ _ rises.ne'] at bounds
  linarith

theorem Slides.of_neg (slides : Slides edges gain point (-direction)) :
    Slides edges gain point direction := by
  rcases slides with ⟨amount, slides⟩
  refine ⟨-amount, ?_⟩
  simpa only [smul_neg, ← neg_smul, HalfPlane.form_neg, neg_ne_zero] using slides

theorem slides_of_nonneg (quadrantEdges : quadrant ⊆ edges)
    (bounded : BddAbove (gain '' region edges)) (inside : point ∈ region edges)
    (moves : direction ≠ 0) (improves : 0 ≤ gain direction) :
    Slides edges gain point direction := by
  by_cases stopped : ∃ edge ∈ edges, 0 < edge.form direction
  · rcases stopped with ⟨edge, member, towards⟩
    exact slides_of_towards inside improves member towards
  · -- Nothing stops the point, so the gain is level and the way back is as good.
    have away : ∀ edge ∈ edges, edge.form direction ≤ 0 := by
      intro edge member
      exact not_lt.mp fun towards => stopped ⟨edge, member, towards⟩
    have level := gain_nonpos_of_bddAbove bounded inside away
    rcases exists_mem_quadrant_form_ne_zero moves with ⟨edge, member, crosses⟩
    have leaves := lt_of_le_of_ne (away edge (quadrantEdges member)) crosses
    apply Slides.of_neg
    apply slides_of_towards inside _ (quadrantEdges member)
    · rw [HalfPlane.form_neg]
      exact neg_pos.mpr leaves
    · rw [map_neg]
      exact neg_nonneg.mpr level

/-- A point slides along every line, in one direction or the other.  The
quadrant contains no line, so some edge stops it. -/
theorem slides (quadrantEdges : quadrant ⊆ edges)
    (bounded : BddAbove (gain '' region edges)) (inside : point ∈ region edges)
    (moves : direction ≠ 0) : Slides edges gain point direction := by
  rcases le_total 0 (gain direction) with improves | worsens
  · exact slides_of_nonneg quadrantEdges bounded inside moves improves
  · apply Slides.of_neg
    apply slides_of_nonneg quadrantEdges bounded inside (neg_ne_zero.mpr moves)
    rw [map_neg]
    exact neg_nonneg.mpr worsens

/-- Every point has a vertex that is at least as good: it slides to an edge, and
along the edge to another one. -/
theorem exists_vertex (quadrantEdges : quadrant ⊆ edges)
    (bounded : BddAbove (gain '' region edges)) (inside : point ∈ region edges) :
    ∃ vertex, IsVertex edges vertex ∧ gain point ≤ gain vertex := by
  have moves : ((1, 0) : ℝ × ℝ) ≠ 0 := fun same => one_ne_zero (congrArg Prod.fst same)
  rcases slides quadrantEdges bounded inside moves with
    ⟨amount, stays, improves, first, firstMember, crosses, tight⟩
  -- The second slide goes along the edge that stopped the first one.
  have along : ((-first.b, first.a) : ℝ × ℝ) ≠ 0 := by
    intro same
    rcases Prod.mk_eq_zero.mp same with ⟨b_eq, a_eq⟩
    apply crosses
    rw [HalfPlane.form, a_eq, neg_eq_zero.mp b_eq, zero_mul, zero_mul, add_zero]
  rcases slides quadrantEdges bounded stays along with
    ⟨further, staysAgain, improvesAgain, second, secondMember, crossesAgain, tightAgain⟩
  refine ⟨_, ⟨staysAgain, first, firstMember, second, secondMember, ?_, ?_, tightAgain⟩,
    improves.trans improvesAgain⟩
  · intro parallel
    apply crossesAgain
    rw [← parallel, HalfPlane.form, HalfPlane.cross]
    ring
  · rw [HalfPlane.Tight, HalfPlane.form_along, tight]
    rw [HalfPlane.form]
    ring

/-- A region of the quadrant that is not empty has a vertex. -/
theorem exists_isVertex (quadrantEdges : quadrant ⊆ edges) (nonempty : (region edges).Nonempty) :
    ∃ vertex, IsVertex edges vertex := by
  rcases nonempty with ⟨start, inside⟩
  -- Any bounded gain will do, and the zero functional is bounded everywhere.
  have bounded : BddAbove (⇑(0 : ℝ × ℝ →ₗ[ℝ] ℝ) '' region edges) := by
    refine ⟨0, ?_⟩
    rintro _ ⟨point, -, rfl⟩
    exact le_rfl
  rcases exists_vertex quadrantEdges bounded inside with ⟨vertex, isVertex, -⟩
  exact ⟨vertex, isVertex⟩

theorem finite_isVertex (edges : List HalfPlane) : {vertex | IsVertex edges vertex}.Finite := by
  have finite := (edges.finite_toSet.prod edges.finite_toSet).image
    fun pair => pair.1.meeting pair.2
  refine finite.subset fun vertex isVertex => ?_
  rcases isVertex.crosses with ⟨first, firstMember, second, secondMember, apart, tight, otherTight⟩
  exact ⟨(first, second), ⟨firstMember, secondMember⟩,
    (HalfPlane.eq_meeting apart tight otherTight).symm⟩

/-- A bounded gain has its best value at a vertex.  There are finitely many
vertices, and each point has one that is at least as good. -/
theorem exists_best_vertex (quadrantEdges : quadrant ⊆ edges)
    (bounded : BddAbove (gain '' region edges)) (nonempty : (region edges).Nonempty) :
    ∃ vertex, IsVertex edges vertex ∧
      ∀ point ∈ region edges, gain point ≤ gain vertex := by
  rcases Set.exists_max_image _ gain (finite_isVertex edges)
    (exists_isVertex quadrantEdges nonempty) with ⟨best, isBest, greatest⟩
  refine ⟨best, isBest, fun point inside => ?_⟩
  rcases exists_vertex quadrantEdges bounded inside with ⟨vertex, isVertex, better⟩
  exact better.trans (greatest vertex isVertex)

end Plane
end Optimum
