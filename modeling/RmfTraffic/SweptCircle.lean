import RmfTraffic.Trajectory

/-!
# `circle_ray_intersection` and `swept_circle_intersection`

Two helpers of `DetectConflict.cpp` test two discs that move in straight lines over one step.
`swept_circle_intersection` looks at the pair from `b`'s disc, so that `b` stands still and `a`
moves by the difference of the two displacements, and asks `circle_ray_intersection` where the
ray from `a`'s start along that relative displacement first enters the circle around `b` whose
radius is the sum of the two. Both helpers are compiled, but their one caller,
`check_collision_piecewise_sweep`, has its body compiled out and returns `nullopt`.

`circle_ray_intersection` answers through its return value and writes the fraction of the ray
at first contact to `interp`; the model returns both, `interp` as it stands when the function
returns. Eigen's `norm` is the square root of `squaredNorm`. The results are stated at `ℝ` with
`Real.sqrt`, in exact arithmetic.

## What is proved

For a relative displacement longer than the tolerance `1e-07f`:
- a reported fraction is the first contact: it lies in `[0, 1]`, the discs touch there and are
  apart at every earlier instant of the step (`circleRayIntersection_first_contact`);
- discs that start apart and touch during the step are reported
  (`circleRayIntersection_of_enters`);
- discs that start overlapping are not reported (`circleRayIntersection_of_inside`), although for
  a displacement within the tolerance the same discs are.

`sweptCircleIntersection_first_contact` states the whole behaviour for the two discs. In any
field and for any square root, the answer does not depend on which disc comes first
(`sweptCircleIntersection_comm`).
-/

set_option autoImplicit false

namespace RmfTraffic

variable {K : Type} [LinearOrderedField K]

/-- `Eigen::Vector2d::squaredNorm`. -/
def squaredNorm (v : Fin 2 → K) : K := v 0 * v 0 + v 1 * v 1

/-- `Eigen::Vector2d::dot`. -/
def dot (u v : Fin 2 → K) : K := u 0 * v 0 + u 1 * v 1

/-- The float literal `1e-07f` that `circle_ray_intersection` compares the ray's length with:
`14073749 / 2^47`, the `float` nearest `10^-7`. -/
def rayLengthTolerance : K := 14073749 / 140737488355328

/-- `circle_ray_intersection`: whether the ray from `rayOrigin` along `rayDir` enters the circle,
and the value of `interp` on return. `sqrt` is `std::sqrt`, which Eigen's `norm` also uses. -/
def circleRayIntersection (sqrt : K → K) (rayDir rayOrigin circleCenter : Fin 2 → K)
    (circleRadius interp : K) : Bool × K :=
  let rayToCircleCenter := circleCenter - rayOrigin
  let rayToCircleSqdist := squaredNorm rayToCircleCenter
  let circleRadiussq := circleRadius * circleRadius
  let rayLength := sqrt (squaredNorm rayDir)
  if rayLength ≤ rayLengthTolerance then (decide (rayToCircleSqdist ≤ circleRadiussq), interp)
  else
    let rayDirNormalized : Fin 2 → K := fun i => rayDir i / rayLength
    let projectedLen := dot rayToCircleCenter rayDirNormalized
    if projectedLen < 0 ∧ rayToCircleSqdist > circleRadiussq then (false, interp)
    else
      let footlengthsq := rayToCircleSqdist - projectedLen * projectedLen
      if footlengthsq > circleRadiussq then (false, interp)
      else
        let rSq := circleRadiussq - footlengthsq
        let lenToIntersect := projectedLen - sqrt rSq
        let interp := lenToIntersect / rayLength
        if interp > 1 ∨ interp < 0 then (false, interp) else (true, interp)

/-- `swept_circle_intersection`: the disc of radius `radiusA` moving from `aPt1` by `aVelstep`
against the disc of radius `radiusB` moving from `bPt1` by `bVelstep`, seen from `b`. -/
def sweptCircleIntersection (sqrt : K → K) (aPt1 aVelstep bPt1 bVelstep : Fin 2 → K)
    (radiusA radiusB interp : K) : Bool × K :=
  let rayDir := aVelstep - bVelstep
  let rayOrigin := aPt1
  let pillarCenter := bPt1
  let pillarRadius := radiusA + radiusB
  circleRayIntersection sqrt rayDir rayOrigin pillarCenter pillarRadius interp

/-- Where a point that starts at `origin` and moves by `dir` over the step is at fraction `s`. -/
def rayPoint (origin dir : Fin 2 → K) (s : K) : Fin 2 → K := fun i => origin i + s * dir i

/-- The squared distance between the centers of two discs that move from `aPt1` by `aVelstep`
and from `bPt1` by `bVelstep`, at fraction `s` of the step. -/
def centerGap (aPt1 aVelstep bPt1 bVelstep : Fin 2 → K) (s : K) : K :=
  squaredNorm (rayPoint aPt1 aVelstep s - rayPoint bPt1 bVelstep s)

theorem squaredNorm_nonneg (v : Fin 2 → K) : 0 ≤ squaredNorm v :=
  add_nonneg (mul_self_nonneg (v 0)) (mul_self_nonneg (v 1))

theorem squaredNorm_rayPoint_zero (origin dir center : Fin 2 → K) :
    squaredNorm (rayPoint origin dir 0 - center) = squaredNorm (center - origin) := by
  simp only [squaredNorm, rayPoint, Pi.sub_apply, zero_mul, add_zero]
  ring

/-- Along the ray the squared distance to the center is the squared distance to the foot of the
perpendicular, plus the squared length of the perpendicular. -/
theorem squaredNorm_rayPoint_sub (origin dir center : Fin 2 → K) {L : K} (hL : L ≠ 0)
    (hL2 : L * L = squaredNorm dir) (s : K) :
    squaredNorm (rayPoint origin dir s - center) =
      (s * L - dot (center - origin) (fun i => dir i / L)) ^ 2 +
        (squaredNorm (center - origin) -
          dot (center - origin) (fun i => dir i / L) *
            dot (center - origin) (fun i => dir i / L)) := by
  have hPL : dot (center - origin) (fun i => dir i / L) * L =
      (center 0 - origin 0) * dir 0 + (center 1 - origin 1) * dir 1 := by
    simp only [dot, Pi.sub_apply, add_mul, mul_assoc, div_mul_cancel₀ _ hL]
  simp only [squaredNorm, rayPoint, Pi.sub_apply] at hL2 ⊢
  linear_combination (-s ^ 2) * hL2 + (2 * s) * hPL

/-- Seen from `b`, the gap between the two discs' centers is the distance from `b`'s start of
the point that moves by the relative displacement. -/
theorem centerGap_eq (aPt1 aVelstep bPt1 bVelstep : Fin 2 → K) (s : K) :
    centerGap aPt1 aVelstep bPt1 bVelstep s =
      squaredNorm (rayPoint aPt1 (aVelstep - bVelstep) s - bPt1) := by
  simp only [centerGap, squaredNorm, rayPoint, Pi.sub_apply]
  ring

/-! ## The two discs in the other order -/

/-- The same circle test seen from the other end: the ray runs the other way, from the circle's
center to the ray's origin. Every quantity the test computes is unchanged. -/
theorem circleRayIntersection_reverse (sqrt : K → K) (rayDir rayOrigin circleCenter : Fin 2 → K)
    (circleRadius interp : K) :
    circleRayIntersection sqrt (-rayDir) circleCenter rayOrigin circleRadius interp =
      circleRayIntersection sqrt rayDir rayOrigin circleCenter circleRadius interp := by
  have hlength : squaredNorm (-rayDir) = squaredNorm rayDir := by
    simp only [squaredNorm, Pi.neg_apply, neg_mul_neg]
  have hgap : squaredNorm (rayOrigin - circleCenter) = squaredNorm (circleCenter - rayOrigin) := by
    simp only [squaredNorm, Pi.sub_apply]
    ring
  have hprojected : ∀ L : K, dot (rayOrigin - circleCenter) (fun i => (-rayDir) i / L) =
      dot (circleCenter - rayOrigin) (fun i => rayDir i / L) := fun L => by
    simp only [dot, Pi.sub_apply, Pi.neg_apply]
    ring
  simp only [circleRayIntersection, hlength, hgap, hprojected]

/-- `swept_circle_intersection` does not depend on which disc it is asked about first: seen from
`a` instead of `b`, the relative displacement and the vector between the starts change sign, and
the answer and `interp` are the same, for any square root. -/
theorem sweptCircleIntersection_comm (sqrt : K → K) (aPt1 aVelstep bPt1 bVelstep : Fin 2 → K)
    (radiusA radiusB interp : K) :
    sweptCircleIntersection sqrt bPt1 bVelstep aPt1 aVelstep radiusB radiusA interp =
      sweptCircleIntersection sqrt aPt1 aVelstep bPt1 bVelstep radiusA radiusB interp := by
  simp only [sweptCircleIntersection, ← neg_sub aVelstep bVelstep, add_comm radiusB radiusA,
    circleRayIntersection_reverse]

/-! ## Rays longer than the tolerance, in exact arithmetic -/

section Real

variable {rayDir rayOrigin circleCenter : Fin 2 → ℝ} {circleRadius interp : ℝ}
  (hlong : rayLengthTolerance < Real.sqrt (squaredNorm rayDir))
include hlong

theorem rayLength_pos : 0 < Real.sqrt (squaredNorm rayDir) :=
  lt_trans (by norm_num [rayLengthTolerance]) hlong

/-- A reported fraction is the first contact of the step: the ray meets the circle there and
every earlier point of the ray is outside. -/
theorem circleRayIntersection_first_contact {τ : ℝ}
    (h : circleRayIntersection Real.sqrt rayDir rayOrigin circleCenter circleRadius interp =
      (true, τ)) :
    0 ≤ τ ∧ τ ≤ 1 ∧
      squaredNorm (rayPoint rayOrigin rayDir τ - circleCenter) = circleRadius * circleRadius ∧
      ∀ s, 0 ≤ s → s < τ →
        circleRadius * circleRadius < squaredNorm (rayPoint rayOrigin rayDir s - circleCenter) := by
  have hL := rayLength_pos hlong
  have hdist := squaredNorm_rayPoint_sub rayOrigin rayDir circleCenter hL.ne'
    (Real.mul_self_sqrt (squaredNorm_nonneg rayDir))
  simp only [circleRayIntersection, if_neg (not_le.mpr hlong)] at h
  set L := Real.sqrt (squaredNorm rayDir)
  set P := dot (circleCenter - rayOrigin) fun i => rayDir i / L
  set S := squaredNorm (circleCenter - rayOrigin)
  set R := circleRadius * circleRadius
  split_ifs at h with h1 h2 h3 <;>
    simp only [Prod.mk.injEq, Bool.false_eq_true, false_and, true_and] at h
  subst h
  push_neg at h2 h3
  set q := Real.sqrt (R - (S - P * P))
  have hq : 0 ≤ q := Real.sqrt_nonneg _
  have hq2 : q * q = R - (S - P * P) := Real.mul_self_sqrt (sub_nonneg.mpr h2)
  have hτL : (P - q) / L * L = P - q := div_mul_cancel₀ _ hL.ne'
  refine ⟨h3.2, h3.1, ?_, fun s hs hsτ => ?_⟩
  · rw [hdist, hτL]
    linear_combination hq2
  · have hsL : s * L < P - q := hτL ▸ mul_lt_mul_of_pos_right hsτ hL
    have := mul_self_lt_mul_self hq (by linarith : q < P - s * L)
    rw [hdist]
    linarith [show (s * L - P) ^ 2 = (P - s * L) * (P - s * L) by ring]

/-- A ray that starts outside the circle and reaches it within its length is reported. -/
theorem circleRayIntersection_of_enters
    (hout : circleRadius * circleRadius <
      squaredNorm (rayPoint rayOrigin rayDir 0 - circleCenter))
    (hin : ∃ s, 0 ≤ s ∧ s ≤ 1 ∧
      squaredNorm (rayPoint rayOrigin rayDir s - circleCenter) ≤ circleRadius * circleRadius) :
    (circleRayIntersection Real.sqrt rayDir rayOrigin circleCenter circleRadius interp).1 =
      true := by
  obtain ⟨s, hs0, hs1, hs⟩ := hin
  have hL := rayLength_pos hlong
  rw [squaredNorm_rayPoint_zero] at hout
  rw [squaredNorm_rayPoint_sub rayOrigin rayDir circleCenter hL.ne'
    (Real.mul_self_sqrt (squaredNorm_nonneg rayDir))] at hs
  simp only [circleRayIntersection, if_neg (not_le.mpr hlong)]
  set L := Real.sqrt (squaredNorm rayDir)
  set P := dot (circleCenter - rayOrigin) fun i => rayDir i / L
  set S := squaredNorm (circleCenter - rayOrigin)
  set R := circleRadius * circleRadius
  have hsL : 0 ≤ s * L := mul_nonneg hs0 hL.le
  have hP : 0 ≤ P := by
    by_contra hP
    have := mul_nonneg hsL (by linarith : 0 ≤ s * L - 2 * P)
    linarith [show (s * L - P) ^ 2 + (S - P * P) = s * L * (s * L - 2 * P) + S by ring]
  have hF : S - P * P ≤ R := by linarith [sq_nonneg (s * L - P)]
  set q := Real.sqrt (R - (S - P * P))
  have hq : 0 ≤ q := Real.sqrt_nonneg _
  have hq2 : q * q = R - (S - P * P) := Real.mul_self_sqrt (sub_nonneg.mpr hF)
  have hqP : q ≤ P := (mul_self_le_mul_self_iff hq hP).mpr (by linarith)
  have hPq : P - q ≤ s * L := by
    by_contra hlt
    have := mul_self_lt_mul_self hq (by linarith : q < P - s * L)
    linarith [show (s * L - P) ^ 2 = (P - s * L) * (P - s * L) by ring]
  have hτ1 : (P - q) / L ≤ 1 :=
    (div_le_one hL).mpr (hPq.trans (mul_le_of_le_one_left hL.le hs1))
  have hτ0 : 0 ≤ (P - q) / L := div_nonneg (sub_nonneg.mpr hqP) hL.le
  rw [if_neg (fun h => absurd h.1 (not_lt.mpr hP)), if_neg (not_lt.mpr hF),
    if_neg (not_or.mpr ⟨not_lt.mpr hτ1, not_lt.mpr hτ0⟩)]

/-- A ray that starts inside the circle is not reported. -/
theorem circleRayIntersection_of_inside
    (hin : squaredNorm (rayPoint rayOrigin rayDir 0 - circleCenter) <
      circleRadius * circleRadius) :
    (circleRayIntersection Real.sqrt rayDir rayOrigin circleCenter circleRadius interp).1 =
      false := by
  have hL := rayLength_pos hlong
  rw [squaredNorm_rayPoint_zero] at hin
  simp only [circleRayIntersection, if_neg (not_le.mpr hlong)]
  set L := Real.sqrt (squaredNorm rayDir)
  set P := dot (circleCenter - rayOrigin) fun i => rayDir i / L
  set S := squaredNorm (circleCenter - rayOrigin)
  set R := circleRadius * circleRadius
  have hF : S - P * P ≤ R := by linarith [mul_self_nonneg P]
  set q := Real.sqrt (R - (S - P * P))
  have hq : 0 ≤ q := Real.sqrt_nonneg _
  have hq2 : q * q = R - (S - P * P) := Real.mul_self_sqrt (sub_nonneg.mpr hF)
  have hPq : P < q := by
    by_contra hle
    have := mul_self_le_mul_self hq (not_lt.mp hle)
    linarith
  rw [if_neg (fun h => absurd h.2 (not_lt.mpr hin.le)), if_neg (not_lt.mpr hF),
    if_pos (Or.inr (div_neg_of_neg_of_pos (sub_neg.mpr hPq) hL))]

end Real

/-- `swept_circle_intersection` in exact arithmetic, for two discs moving in straight lines over
the step. When their relative displacement is within the tolerance it reports whether they
overlap at the start and leaves `interp` as it was. Otherwise a reported fraction is the first
instant of the step at which the discs touch; discs that start apart and touch during the step
are reported; and discs that start overlapping are not. -/
theorem sweptCircleIntersection_first_contact (aPt1 aVelstep bPt1 bVelstep : Fin 2 → ℝ)
    (radiusA radiusB interp : ℝ) :
    (Real.sqrt (squaredNorm (aVelstep - bVelstep)) ≤ rayLengthTolerance →
      sweptCircleIntersection Real.sqrt aPt1 aVelstep bPt1 bVelstep radiusA radiusB interp =
        (decide (centerGap aPt1 aVelstep bPt1 bVelstep 0 ≤
          (radiusA + radiusB) * (radiusA + radiusB)), interp)) ∧
    (rayLengthTolerance < Real.sqrt (squaredNorm (aVelstep - bVelstep)) →
      (∀ τ, sweptCircleIntersection Real.sqrt aPt1 aVelstep bPt1 bVelstep radiusA radiusB interp =
          (true, τ) →
        0 ≤ τ ∧ τ ≤ 1 ∧
          centerGap aPt1 aVelstep bPt1 bVelstep τ = (radiusA + radiusB) * (radiusA + radiusB) ∧
          ∀ s, 0 ≤ s → s < τ →
            (radiusA + radiusB) * (radiusA + radiusB) < centerGap aPt1 aVelstep bPt1 bVelstep s) ∧
      ((radiusA + radiusB) * (radiusA + radiusB) < centerGap aPt1 aVelstep bPt1 bVelstep 0 →
        (∃ s, 0 ≤ s ∧ s ≤ 1 ∧
          centerGap aPt1 aVelstep bPt1 bVelstep s ≤ (radiusA + radiusB) * (radiusA + radiusB)) →
        (sweptCircleIntersection Real.sqrt aPt1 aVelstep bPt1 bVelstep radiusA radiusB
          interp).1 = true) ∧
      (centerGap aPt1 aVelstep bPt1 bVelstep 0 < (radiusA + radiusB) * (radiusA + radiusB) →
        (sweptCircleIntersection Real.sqrt aPt1 aVelstep bPt1 bVelstep radiusA radiusB
          interp).1 = false)) := by
  simp only [centerGap_eq, sweptCircleIntersection]
  refine ⟨fun hshort => ?_, fun hlong => ⟨fun τ h => ?_, fun hout hin => ?_, fun hin => ?_⟩⟩
  · simp only [circleRayIntersection, if_pos hshort, squaredNorm_rayPoint_zero]
  · exact circleRayIntersection_first_contact hlong h
  · exact circleRayIntersection_of_enters hlong hout hin
  · exact circleRayIntersection_of_inside hlong hin

end RmfTraffic
