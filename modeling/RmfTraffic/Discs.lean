import RmfTraffic.Invasion
import RmfTraffic.SweptCircle

/-!
# A collision library for discs

Every result about the engine holds for every `Oracle`; a result about one input needs one
collision library and one distance differential. `discOracle` is the pair such results use
here: it answers each call as the geometry of the two motions says, for vehicles whose shapes
are discs. A shape's characteristic length is the radius of its disc, and two discs touch when
their centres are at most the sum of the radii apart in the plane.

Time is read at the engine's own resolution, the nanosecond.

- `collide` is the static test.
- `continuousCollide` reports the first nanosecond of the window at which the discs touch, as a
  fraction of the window (`firstContact`). A library that finds the exact first contact reports
  the same instant whenever it falls on a nanosecond.
- `initiallyApproaching` and `approachTimes` read the sign of the derivative of the squared
  distance between the centres, `2 (pA - pB) · (vA - vB)` (`distanceRate` is half of it): the
  vehicles approach at the window's start when it is negative there, and an approach time is a
  nanosecond of `(t0, t1]` at which it is non-negative and one nanosecond later negative, the
  change from non-negative to negative read at that resolution.
- The region test reports nothing: a region's convex pieces carry no geometry in this model, and
  `between` never runs it.
- `std::sqrt`, which only the bounding boxes use, is a parameter.

## What is proved

`firstContact_eq_some_iff` and `firstContact_eq_none_iff`: the continuous test reports the first
nanosecond of contact, or nothing when the discs stay apart over the whole window, and
`computeTime_firstContact`: the engine turns the fraction back into that nanosecond.
`mem_nanosecondsAfter`: the approach times lie in `(t0, t1]`. The properties of a collision
library that the engine's theorems assume are proved where they are defined:
`discOracle_contactInWindow` and `discOracle_symmetric` (`RmfTraffic.Ordering`),
`discOracle_approachInWindow` (`RmfTraffic.Span`), `discOracle_shiftInvariant`
(`RmfTraffic.Shift`).
-/

set_option autoImplicit false

namespace RmfTraffic

variable {K : Type}

theorem window_swap (splineA splineB : Spline K) :
    window splineB splineA = window splineA splineB :=
  Prod.ext (max_comm _ _) (min_comm _ _)

variable [LinearOrderedField K]

/-- The centre of a disc placed at a pose: the pose's `(x, y)`. -/
def planar (pose : Pose K) : Fin 2 → K := fun i => pose i.castSucc

/-- The discs of the two shapes, of their characteristic lengths as radii, at the two poses
touch. -/
def discsTouch (shapeA : FinalConvexShape K) (poseA : Pose K) (shapeB : FinalConvexShape K)
    (poseB : Pose K) : Bool :=
  decide (squaredNorm (planar poseA - planar poseB) ≤
    (shapeA.characteristicLength + shapeB.characteristicLength) ^ 2)

/-- Half the derivative of the squared distance between two vehicles' centres at `t`. -/
def distanceRate (splineA splineB : Spline K) (t : Int) : K :=
  dot (planar (splineA.computePosition t) - planar (splineB.computePosition t))
    (planar (splineA.computeVelocity t) - planar (splineB.computeVelocity t))

/-- The nanoseconds of `(startTime, finishTime]`, in order. -/
def nanosecondsAfter (startTime finishTime : Int) : List Int :=
  (List.range (finishTime - startTime).toNat).map fun k : Nat => startTime + 1 + k

/-- The first nanosecond of `[startTime, finishTime]`, counted from `startTime`, at which the
discs moving along the two splines touch. -/
def firstContact (shapeA : FinalConvexShape K) (splineA : Spline K) (shapeB : FinalConvexShape K)
    (splineB : Spline K) (startTime finishTime : Int) : Option Nat :=
  (List.range ((finishTime - startTime).toNat + 1)).find? fun k : Nat =>
    discsTouch shapeA (splineA.computePosition (startTime + k)) shapeB
      (splineB.computePosition (startTime + k))

/-- A collision library and a distance differential for vehicles whose shapes are discs. -/
def discOracle (sqrt : K → K) : Oracle K where
  continuousCollide shapeA splineA shapeB splineB startTime finishTime :=
    (firstContact shapeA splineA shapeB splineB startTime finishTime).map fun k : Nat =>
      (k : K) / ((finishTime - startTime : Int) : K)
  collide := discsTouch
  initiallyApproaching splineA splineB :=
    decide (distanceRate splineA splineB (window splineA splineB).1 < 0)
  approachTimes splineA splineB :=
    (nanosecondsAfter (window splineA splineB).1 (window splineA splineB).2).filter fun t =>
      decide (0 ≤ distanceRate splineA splineB t ∧ distanceRate splineA splineB (t + 1) < 0)
  regionCollide _ _ _ _ _ _ := none
  sqrt := sqrt

@[simp] theorem discOracle_sqrt (sqrt : K → K) : (discOracle sqrt).sqrt = sqrt := rfl

@[simp] theorem discOracle_collide (sqrt : K → K) : (discOracle sqrt).collide = discsTouch := rfl

/-! ## The two discs, and motions along the `x` axis -/

theorem discsTouch_comm (shapeA : FinalConvexShape K) (poseA : Pose K)
    (shapeB : FinalConvexShape K) (poseB : Pose K) :
    discsTouch shapeA poseA shapeB poseB = discsTouch shapeB poseB shapeA poseA := by
  have h : squaredNorm (planar poseA - planar poseB) =
      squaredNorm (planar poseB - planar poseA) := by
    simp only [squaredNorm, Pi.sub_apply]
    ring
  rw [discsTouch, discsTouch, h, add_comm shapeA.characteristicLength]

theorem distanceRate_comm (splineA splineB : Spline K) (t : Int) :
    distanceRate splineA splineB t = distanceRate splineB splineA t := by
  simp only [distanceRate, dot, Pi.sub_apply]
  ring

/-- A spline between two waypoints on the `x` axis stays on it: its `x` is the Hermite cubic of
the two positions and velocities, at the normalised time. -/
theorem Spline.computePosition_on_axis (t0 t1 t : Int) (x0 x1 v0 v1 : K) :
    (⟨⟨t0, ![x0, 0, 0], ![v0, 0, 0]⟩, ⟨t1, ![x1, 0, 0], ![v1, 0, 0]⟩⟩ : Spline K).computePosition t =
      ![evaluateSpline (Spline.hermite x0 x1 (toSeconds (t1 - t0) * v0) (toSeconds (t1 - t0) * v1))
        (toSeconds (t - t0) / toSeconds (t1 - t0)), 0, 0] := by
  funext i
  match i with
  | 0 => rfl
  | 1 | 2 =>
    simp only [Spline.computePosition, evaluateSpline, Spline.getParams, Spline.hermite,
      Matrix.cons_val_one, Matrix.cons_val_two, Matrix.head_cons, Matrix.tail_cons, sub_self,
      mul_zero, add_zero, zero_mul]

theorem Spline.computeVelocity_on_axis (t0 t1 t : Int) (x0 x1 v0 v1 : K) :
    (⟨⟨t0, ![x0, 0, 0], ![v0, 0, 0]⟩, ⟨t1, ![x1, 0, 0], ![v1, 0, 0]⟩⟩ : Spline K).computeVelocity t =
      ![evaluateDerivative
          (Spline.hermite x0 x1 (toSeconds (t1 - t0) * v0) (toSeconds (t1 - t0) * v1))
          (toSeconds (t - t0) / toSeconds (t1 - t0)) / toSeconds (t1 - t0), 0, 0] := by
  funext i
  match i with
  | 0 => rfl
  | 1 | 2 =>
    simp only [Spline.computeVelocity, evaluateDerivative, Spline.getParams, Spline.hermite,
      Matrix.cons_val_one, Matrix.cons_val_two, Matrix.head_cons, Matrix.tail_cons, sub_self,
      mul_zero, add_zero, zero_mul, zero_div]

/-- Two discs on the `x` axis touch when their centres are within the sum of the radii. -/
theorem discsTouch_on_axis (shapeA shapeB : FinalConvexShape K) (a b : K) :
    discsTouch shapeA ![a, 0, 0] shapeB ![b, 0, 0] =
      decide ((a - b) ^ 2 ≤ (shapeA.characteristicLength + shapeB.characteristicLength) ^ 2) := by
  simp [discsTouch, squaredNorm, planar, sq]

/-- For two vehicles moving along the `x` axis, the rate is the product of the gap and of the
difference of the velocities. -/
theorem distanceRate_on_axis {splineA splineB : Spline K} {t : Int} {a b va vb : K}
    (ha : splineA.computePosition t = ![a, 0, 0]) (hb : splineB.computePosition t = ![b, 0, 0])
    (hva : splineA.computeVelocity t = ![va, 0, 0])
    (hvb : splineB.computeVelocity t = ![vb, 0, 0]) :
    distanceRate splineA splineB t = (a - b) * (va - vb) := by
  simp [distanceRate, dot, planar, ha, hb, hva, hvb]

theorem firstContact_comm (shapeA : FinalConvexShape K) (splineA : Spline K)
    (shapeB : FinalConvexShape K) (splineB : Spline K) (startTime finishTime : Int) :
    firstContact shapeA splineA shapeB splineB startTime finishTime =
      firstContact shapeB splineB shapeA splineA startTime finishTime := by
  simp only [firstContact, discsTouch_comm shapeA]

/-! ## The continuous test -/

section Contact

variable {shapeA shapeB : FinalConvexShape K} {splineA splineB : Spline K}
  {startTime finishTime : Int}

/-- The test reports the `k`-th nanosecond when the discs touch there and at no earlier one. -/
theorem firstContact_eq_some_iff {k : Nat} :
    firstContact shapeA splineA shapeB splineB startTime finishTime = some k ↔
      k ≤ (finishTime - startTime).toNat ∧
      discsTouch shapeA (splineA.computePosition (startTime + k)) shapeB
        (splineB.computePosition (startTime + k)) = true ∧
      ∀ j < k, discsTouch shapeA (splineA.computePosition (startTime + j)) shapeB
        (splineB.computePosition (startTime + j)) = false := by
  simp only [firstContact, List.find?_range_eq_some, List.mem_range, Bool.not_eq_true',
    Nat.lt_succ_iff]
  tauto

/-- It reports nothing when the discs are apart at every nanosecond of the window. -/
theorem firstContact_eq_none_iff :
    firstContact shapeA splineA shapeB splineB startTime finishTime = none ↔
      ∀ k ≤ (finishTime - startTime).toNat,
        discsTouch shapeA (splineA.computePosition (startTime + k)) shapeB
          (splineB.computePosition (startTime + k)) = false := by
  simp only [firstContact, List.find?_eq_none, List.mem_range, Nat.lt_succ_iff,
    Bool.not_eq_true]

/-- The fraction the test reports stands for the nanosecond of contact. -/
theorem computeTime_firstContact [FloorRing K] (k : Nat) (hlt : startTime < finishTime) :
    computeTime ((k : K) / ((finishTime - startTime : Int) : K)) startTime finishTime =
      startTime + k := by
  have hne : ((finishTime - startTime : Int) : K) ≠ 0 := Int.cast_ne_zero.mpr (by omega)
  rw [computeTime, div_mul_cancel₀ _ hne, truncate, if_pos (Nat.cast_nonneg k),
    ← Int.cast_natCast, Int.floor_intCast]

/-- A test of `detect_invasion` whose boxes overlap, over a window of positive length, yields the
conflict at the first nanosecond of contact. -/
theorem invasionTest_discOracle [FloorRing K] (sqrt : K → K) {boxA boxB : Option (BoundingBox K)}
    {aIt bIt : Iter} {k : Nat} (hov : overlap boxA boxB = true)
    (hw : (window splineA splineB).1 < (window splineA splineB).2)
    (hk : firstContact shapeA splineA shapeB splineB (window splineA splineB).1
      (window splineA splineB).2 = some k) :
    invasionTest (discOracle sqrt) (some shapeA) boxA splineA (some shapeB) boxB splineB aIt bIt =
      [⟨aIt, bIt, (window splineA splineB).1 + k⟩] := by
  rw [invasionTest, if_pos hov, ← computeTime_firstContact (K := K) k hw]
  simp only [checkCollision, discOracle, hk]
  rfl

end Contact

/-! ## The approach times -/

theorem mem_nanosecondsAfter {startTime finishTime t : Int} :
    t ∈ nanosecondsAfter startTime finishTime ↔ startTime < t ∧ t ≤ finishTime := by
  simp only [nanosecondsAfter, List.mem_map, List.mem_range]
  constructor
  · rintro ⟨k, hk, rfl⟩
    omega
  · rintro ⟨h1, h2⟩
    exact ⟨(t - startTime - 1).toNat, by omega, by omega⟩

theorem nodup_nanosecondsAfter (startTime finishTime : Int) :
    (nanosecondsAfter startTime finishTime).Nodup :=
  (List.nodup_range _).map fun j k h => by simpa using h

end RmfTraffic
