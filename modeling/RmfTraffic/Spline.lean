import RmfTraffic.Trajectory

/-!
# Splines

A `rmf_traffic::Spline` is the motion along one segment: per dimension `(x, y, yaw)` the cubic
Hermite interpolation between the waypoint before an iterator and the waypoint at it. Its
source is not among those read here, and it is modelled from the spec: the coefficients
`(a₀, a₁, a₂, a₃)` of `p(τ) = a₀ + a₁τ + a₂τ² + a₃τ³` over the normalised time `τ ∈ [0, 1]`
of the segment, derived from the endpoint positions, the endpoint velocities and the
segment's duration. Velocities are per second, so they are scaled by the duration in seconds
on the way into the cubic and divided by it on the way out.

`evaluate_spline` is the one piece of this that `DetectConflict.cpp` spells out itself, for
its bounding boxes; the spline's own position is the same cubic.

Scalars are any linearly ordered field `K`: the geometric results take exact real
arithmetic, and `ℚ` runs the definitions.
-/

set_option autoImplicit false

namespace RmfTraffic

variable {K : Type} [LinearOrderedField K]

/-- `evaluate_spline`: the cubic with coefficients `coeffs` at the normalised time `t`. -/
def evaluateSpline (coeffs : Fin 4 → K) (t : K) : K :=
  coeffs 3 * t * t * t + coeffs 2 * t * t + coeffs 1 * t + coeffs 0

/-- The derivative of `evaluateSpline coeffs` in the normalised time. -/
def evaluateDerivative (coeffs : Fin 4 → K) (t : K) : K :=
  3 * coeffs 3 * t * t + 2 * coeffs 2 * t + coeffs 1

/-- `time::to_seconds`: a duration in nanoseconds, in seconds. -/
def toSeconds (d : Int) : K := d / 1000000000

/-- `rmf_traffic::Spline`, by the two waypoints that bound its segment. -/
structure Spline (K : Type) where
  start : Waypoint K
  finish : Waypoint K

namespace Spline

/-- The Hermite cubic of one dimension over normalised time: value `x0` and slope `v0` at `0`,
value `x1` and slope `v1` at `1`. -/
def hermite (x0 x1 v0 v1 : K) : Fin 4 → K
  | 0 => x0
  | 1 => v0
  | 2 => 3 * (x1 - x0) - 2 * v0 - v1
  | 3 => 2 * (x0 - x1) + v0 + v1

/-- `Spline::Parameters`: the cubic of each dimension and the duration in seconds. -/
structure Parameters (K : Type) where
  coeffs : Fin 3 → Fin 4 → K
  deltaT : K

variable (s : Spline K)

/-- `Spline::start_time`. -/
def startTime : Int := s.start.time

/-- `Spline::finish_time`. -/
def finishTime : Int := s.finish.time

/-- `Spline::get_params`. -/
def getParams : Parameters K :=
  let deltaT : K := toSeconds (s.finishTime - s.startTime)
  ⟨fun i => hermite (s.start.position i) (s.finish.position i)
      (deltaT * s.start.velocity i) (deltaT * s.finish.velocity i), deltaT⟩

/-- `compute_scaled_time`: where `t` falls in the segment, `0` at its start and `1` at its end. -/
def scaledTime (t : Int) : K := toSeconds (t - s.startTime) / s.getParams.deltaT

/-- `Spline::compute_position`. -/
def computePosition (t : Int) : Fin 3 → K :=
  fun i => evaluateSpline (s.getParams.coeffs i) (s.scaledTime t)

/-- `Spline::compute_velocity`: the slope over normalised time, back in per second. -/
def computeVelocity (t : Int) : Fin 3 → K :=
  fun i => evaluateDerivative (s.getParams.coeffs i) (s.scaledTime t) / s.getParams.deltaT

/-- The same motion `d` nanoseconds later. -/
def shift (d : Int) : Spline K := ⟨s.start.shift d, s.finish.shift d⟩

omit [LinearOrderedField K] in
@[simp] theorem startTime_shift (d : Int) : (s.shift d).startTime = s.startTime + d := rfl

omit [LinearOrderedField K] in
@[simp] theorem finishTime_shift (d : Int) : (s.shift d).finishTime = s.finishTime + d := rfl

/-- A spline's cubic depends on its duration, not on when it starts. -/
@[simp] theorem getParams_shift (d : Int) : (s.shift d).getParams = s.getParams := by
  simp only [getParams, startTime_shift, finishTime_shift, add_sub_add_right_eq_sub]
  rfl

@[simp] theorem computePosition_shift (d t : Int) :
    (s.shift d).computePosition (t + d) = s.computePosition t := by
  unfold computePosition scaledTime
  simp only [getParams_shift, startTime_shift, add_sub_add_right_eq_sub]

@[simp] theorem computeVelocity_shift (d t : Int) :
    (s.shift d).computeVelocity (t + d) = s.computeVelocity t := by
  unfold computeVelocity scaledTime
  simp only [getParams_shift, startTime_shift, add_sub_add_right_eq_sub]

end Spline

namespace Trajectory

/-- `Spline(it)`: the spline of the segment that ends at iterator `it`. -/
def spline (tr : Trajectory K) (it : Nat) : Spline K := ⟨tr.get (it - 1), tr.get it⟩

variable {tr : Trajectory K}

@[simp] theorem spline_startTime (it : Nat) : (tr.spline it).startTime = tr.timeAt (it - 1) :=
  rfl

@[simp] theorem spline_finishTime (it : Nat) : (tr.spline it).finishTime = tr.timeAt it := rfl

theorem spline_shift (d : Int) {it : Nat} (h : it < tr.size) :
    (tr.shift d).spline it = (tr.spline it).shift d := by
  simp only [spline, get_shift d h, get_shift d (lt_of_le_of_lt (Nat.sub_le it 1) h)]
  rfl

end Trajectory

end RmfTraffic
