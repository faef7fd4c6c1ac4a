import RmfTraffic.HandOff

/-!
# The sliced copies of `detect_approach`

When the vehicles part at an approach time `t`, `detect_approach` hands over to
`detect_invasion` on copies of both trajectories made by `slice_trajectory`: a waypoint at `t`
with the position and velocity the segment's spline gives there, followed by the waypoints from
the segment's end on. The copy's first segment is interpolated afresh, from the new waypoint to
the old segment's end.

## What is proved

`sliceTrajectory_motionAt`: for every cut `t` within a segment, the copy starts at `t`, finishes
with the trajectory, and at every time from `t` to the finish has the trajectory's position and
velocity. Two facts carry it.

- The re-interpolation is exact (`Spline.computePosition_cut`, `Spline.computeVelocity_cut`):
  a cubic restricted to a sub-interval is the cubic Hermite interpolant of its own values and
  slopes at the sub-interval's ends, and velocities are per second, so the slopes carry over
  from one duration to the other.
- Past the first segment the copy is the trajectory itself (`motionAt_of_drop_eq`).

What a trajectory's motion is between its waypoints, `Trajectory.motionAt`, is modelled from the
spec: the class is not among the sources.
-/

set_option autoImplicit false

namespace RmfTraffic

variable {K : Type} [LinearOrderedField K]

/-! ## Cubic Hermite interpolation -/

section Hermite

variable (x0 x1 v0 v1 : K)

@[simp] theorem evaluateSpline_hermite_zero : evaluateSpline (Spline.hermite x0 x1 v0 v1) 0 = x0 := by
  simp [evaluateSpline, Spline.hermite]

@[simp] theorem evaluateSpline_hermite_one : evaluateSpline (Spline.hermite x0 x1 v0 v1) 1 = x1 := by
  simp only [evaluateSpline, Spline.hermite]
  ring

@[simp] theorem evaluateDerivative_hermite_zero :
    evaluateDerivative (Spline.hermite x0 x1 v0 v1) 0 = v0 := by
  simp [evaluateDerivative, Spline.hermite]

@[simp] theorem evaluateDerivative_hermite_one :
    evaluateDerivative (Spline.hermite x0 x1 v0 v1) 1 = v1 := by
  simp only [evaluateDerivative, Spline.hermite]
  ring

variable (c : Fin 4 → K) (α β σ : K)

/-- Hermite interpolation is exact on cubics: the interpolant of a cubic's values and slopes at
`α` and `α + β`, over the normalised time of that interval, is the cubic itself. -/
theorem evaluateSpline_hermite_reparam :
    evaluateSpline (Spline.hermite (evaluateSpline c α) (evaluateSpline c (α + β))
      (β * evaluateDerivative c α) (β * evaluateDerivative c (α + β))) σ =
      evaluateSpline c (α + β * σ) := by
  simp only [evaluateSpline, evaluateDerivative, Spline.hermite]
  ring

theorem evaluateDerivative_hermite_reparam :
    evaluateDerivative (Spline.hermite (evaluateSpline c α) (evaluateSpline c (α + β))
      (β * evaluateDerivative c α) (β * evaluateDerivative c (α + β))) σ =
      β * evaluateDerivative c (α + β * σ) := by
  simp only [evaluateSpline, evaluateDerivative, Spline.hermite]
  ring

end Hermite

theorem toSeconds_sub_add (a t x : Int) :
    (toSeconds (x - a) : K) = toSeconds (t - a) + toSeconds (x - t) := by
  simp only [toSeconds]
  push_cast
  ring

theorem toSeconds_sub_ne_zero {a b : Int} (h : a < b) : (toSeconds (b - a) : K) ≠ 0 :=
  div_ne_zero (by exact_mod_cast (by omega)) (by norm_num)

/-! ## A spline at its ends, and cut short -/

namespace Spline

variable (s : Spline K)

omit [LinearOrderedField K] in
theorem hermite_congr [LinearOrderedField K] {x0 x0' x1 x1' v0 v0' v1 v1' : K} (h0 : x0 = x0')
    (h1 : x1 = x1') (h2 : v0 = v0') (h3 : v1 = v1') :
    hermite x0 x1 v0 v1 = hermite x0' x1' v0' v1' := by
  subst h0 h1 h2 h3
  rfl

theorem getParams_coeffs (i : Fin 3) :
    s.getParams.coeffs i = hermite (s.start.position i) (s.finish.position i)
      (s.getParams.deltaT * s.start.velocity i) (s.getParams.deltaT * s.finish.velocity i) := rfl

theorem scaledTime_startTime : s.scaledTime s.startTime = 0 := by
  simp [scaledTime, toSeconds]

theorem deltaT_ne_zero (h : s.startTime < s.finishTime) : s.getParams.deltaT ≠ 0 :=
  toSeconds_sub_ne_zero h

theorem scaledTime_finishTime (h : s.startTime < s.finishTime) : s.scaledTime s.finishTime = 1 :=
  div_self (s.deltaT_ne_zero h)

theorem computePosition_startTime : s.computePosition s.startTime = s.start.position := by
  funext i
  simp only [computePosition, scaledTime_startTime]
  exact evaluateSpline_hermite_zero _ _ _ _

theorem computePosition_finishTime (h : s.startTime < s.finishTime) :
    s.computePosition s.finishTime = s.finish.position := by
  funext i
  simp [computePosition, scaledTime_finishTime s h, getParams]

theorem computeVelocity_startTime (h : s.startTime < s.finishTime) :
    s.computeVelocity s.startTime = s.start.velocity := by
  funext i
  have := s.deltaT_ne_zero h
  simp only [computeVelocity, scaledTime_startTime] at this ⊢
  simp [getParams] at this ⊢
  field_simp

theorem computeVelocity_finishTime (h : s.startTime < s.finishTime) :
    s.computeVelocity s.finishTime = s.finish.velocity := by
  funext i
  have := s.deltaT_ne_zero h
  simp only [computeVelocity, scaledTime_finishTime s h] at this ⊢
  simp [getParams] at this ⊢
  field_simp

variable {s} {t : Int} (h0 : s.startTime < s.finishTime) (h1 : t < s.finishTime)
include h0 h1

omit h1 in
/-- The cubic of the spline cut at `t` is the old one seen over the rest of the segment: the
normalised time of the rest starts at `scaledTime t` and runs for the rest's share `β` of the
segment. -/
theorem getParams_cut (i : Fin 3) :
    let β : K := toSeconds (s.finishTime - t) / s.getParams.deltaT
    (Spline.mk ⟨t, s.computePosition t, s.computeVelocity t⟩ s.finish).getParams.coeffs i =
      hermite (evaluateSpline (s.getParams.coeffs i) (s.scaledTime t))
        (evaluateSpline (s.getParams.coeffs i) (s.scaledTime t + β))
        (β * evaluateDerivative (s.getParams.coeffs i) (s.scaledTime t))
        (β * evaluateDerivative (s.getParams.coeffs i) (s.scaledTime t + β)) := by
  intro β
  have hD := s.deltaT_ne_zero h0
  have hsum : s.scaledTime t + β = 1 := by
    rw [← s.scaledTime_finishTime h0]
    simp only [β, scaledTime, ← add_div, ← toSeconds_sub_add]
  rw [hsum]
  refine hermite_congr rfl (evaluateSpline_hermite_one _ _ _ _).symm ?_ ?_
  · simp only [computeVelocity, β, startTime, finishTime]
    ring
  · rw [getParams_coeffs, evaluateDerivative_hermite_one]
    simp only [β, startTime, finishTime]
    field_simp
    ring

omit h0 in
/-- Where a time falls in the segment, from where it falls in the rest after `t`. -/
theorem scaledTime_cut (x : Int) :
    s.scaledTime x = s.scaledTime t + toSeconds (s.finishTime - t) / s.getParams.deltaT *
      (Spline.mk ⟨t, s.computePosition t, s.computeVelocity t⟩ s.finish).scaledTime x := by
  show toSeconds (x - s.startTime) / s.getParams.deltaT =
    toSeconds (t - s.startTime) / s.getParams.deltaT + toSeconds (s.finishTime - t) /
      s.getParams.deltaT * (toSeconds (x - t) / toSeconds (s.finishTime - t))
  rw [div_mul_div_cancel₀' (toSeconds_sub_ne_zero h1), toSeconds_sub_add s.startTime t x, add_div]

/-- Re-interpolating from the spline's own state at `t` to its end gives the same positions. -/
theorem computePosition_cut (x : Int) :
    (Spline.mk ⟨t, s.computePosition t, s.computeVelocity t⟩ s.finish).computePosition x =
      s.computePosition x := by
  funext i
  simp only [computePosition, getParams_cut h0, evaluateSpline_hermite_reparam,
    ← scaledTime_cut h1]

/-- Re-interpolating from the spline's own state at `t` to its end gives the same velocities. -/
theorem computeVelocity_cut (x : Int) :
    (Spline.mk ⟨t, s.computePosition t, s.computeVelocity t⟩ s.finish).computeVelocity x =
      s.computeVelocity x := by
  funext i
  simp only [computeVelocity, getParams_cut h0, evaluateDerivative_hermite_reparam,
    ← scaledTime_cut h1]
  rw [show (Spline.mk ⟨t, s.computePosition t, s.computeVelocity t⟩ s.finish).getParams.deltaT =
    toSeconds (s.finishTime - t) from rfl, mul_div_right_comm,
    div_div_cancel_left' (toSeconds_sub_ne_zero h1), inv_mul_eq_div]

end Spline

/-! ## The motion along a trajectory -/

namespace Trajectory

/-- The position and velocity along a trajectory at time `s`: at a waypoint's time the
waypoint's own, and between two waypoints those of their segment's spline. -/
def motionAt (tr : Trajectory K) (s : Int) : (Fin 3 → K) × (Fin 3 → K) :=
  if tr.timeAt (tr.find s) = s then
    ((tr.get (tr.find s)).position, (tr.get (tr.find s)).velocity)
  else ((tr.spline (tr.find s)).computePosition s, (tr.spline (tr.find s)).computeVelocity s)

variable {tr : Trajectory K}

theorem find_timeAt {j : Nat} (hj : j < tr.size) : tr.find (tr.timeAt j) = j := by
  refine le_antisymm (tr.find_le_of_le le_rfl) (not_lt.mp fun hlt => ?_)
  have := tr.le_timeAt_find (by omega : tr.find (tr.timeAt j) < tr.size)
  exact absurd this (not_le.mpr (tr.timeAt_lt_timeAt hlt hj))

theorem find_eq_of_mem_segment {k : Nat} {s : Int} (hk1 : 1 ≤ k) (hk : k < tr.size)
    (h1 : tr.timeAt (k - 1) < s) (h2 : s ≤ tr.timeAt k) : tr.find s = k := by
  refine le_antisymm (tr.find_le_of_le h2) (not_lt.mp fun hlt => ?_)
  have := tr.le_timeAt_find (by omega : tr.find s < tr.size)
  have := tr.timeAt_le_timeAt (by omega : tr.find s ≤ k - 1) (by omega)
  omega

/-- Within a segment, waypoint times included, the motion is the segment's spline's. -/
theorem motionAt_of_mem_segment {k : Nat} {s : Int} (hk1 : 1 ≤ k) (hk : k < tr.size)
    (h1 : tr.timeAt (k - 1) ≤ s) (h2 : s ≤ tr.timeAt k) :
    tr.motionAt s = ((tr.spline k).computePosition s, (tr.spline k).computeVelocity s) := by
  have hseg : (tr.spline k).startTime < (tr.spline k).finishTime :=
    Trajectory.timeAt_pred_lt hk1 hk
  rcases h1.lt_or_eq with h1 | rfl
  · rw [motionAt, find_eq_of_mem_segment hk1 hk h1 h2]
    split_ifs with h
    · rw [← h, ← spline_finishTime, Spline.computePosition_finishTime _ hseg,
        Spline.computeVelocity_finishTime _ hseg]
      rfl
    · rfl
  · rw [motionAt, find_timeAt (by omega), if_pos rfl, ← spline_startTime,
      Spline.computePosition_startTime, Spline.computeVelocity_startTime _ hseg]
    rfl

/-- Copies that agree from the waypoint at `m` on. -/
theorem get_add_of_drop_eq {tr' : Trajectory K} {n m : Nat}
    (h : tr'.waypoints.drop n = tr.waypoints.drop m) (j : Nat) :
    tr'.get (n + j) = tr.get (m + j) := by
  simp only [get, List.getD_eq_getElem?_getD, ← List.getElem?_drop, h]

theorem timeAt_add_of_drop_eq {tr' : Trajectory K} {n m : Nat}
    (h : tr'.waypoints.drop n = tr.waypoints.drop m) (j : Nat) :
    tr'.timeAt (n + j) = tr.timeAt (m + j) := by
  rw [timeAt, timeAt, get_add_of_drop_eq h]

/-- A trajectory that agrees with another from the waypoint at `m` on moves as it does from
that waypoint's time on. -/
theorem motionAt_of_drop_eq {tr' : Trajectory K} {n m : Nat}
    (h : tr'.waypoints.drop n = tr.waypoints.drop m) (hm : m < tr.size) {s : Int}
    (hs0 : tr.timeAt m ≤ s) (hs1 : s ≤ tr.finishTime) : tr'.motionAt s = tr.motionAt s := by
  have hsize : tr'.size - n = tr.size - m := by
    simpa only [List.length_drop] using congrArg List.length h
  rcases hs0.lt_or_eq with hlt | rfl
  · have hstart : tr.startTime < s :=
      lt_of_le_of_lt (tr.timeAt_le_timeAt (Nat.zero_le m) hm) hlt
    obtain ⟨hk1, hks, hkl, hku⟩ := find_bounds_of_lt hstart hs1 (by omega)
    have hmk : m < tr.find s := by
      by_contra hle
      have := tr.timeAt_le_timeAt (not_lt.mp hle) hm
      omega
    have hlast : tr'.timeAt (n + (tr.find s - m) - 1) = tr.timeAt (tr.find s - 1) := by
      rw [show n + (tr.find s - m) - 1 = n + (tr.find s - m - 1) by omega,
        timeAt_add_of_drop_eq h, show m + (tr.find s - m - 1) = tr.find s - 1 by omega]
    have hnext : tr'.timeAt (n + (tr.find s - m)) = tr.timeAt (tr.find s) := by
      rw [timeAt_add_of_drop_eq h, show m + (tr.find s - m) = tr.find s by omega]
    have hfind : tr'.find s = n + (tr.find s - m) :=
      find_eq_of_mem_segment (by omega) (by omega) (hlast ▸ hkl) (hnext ▸ hku)
    have hspline : tr'.spline (n + (tr.find s - m)) = tr.spline (tr.find s) := by
      simp only [spline]
      rw [show n + (tr.find s - m) - 1 = n + (tr.find s - m - 1) by omega,
        get_add_of_drop_eq h, get_add_of_drop_eq h, show m + (tr.find s - m - 1) = tr.find s - 1 by omega,
        show m + (tr.find s - m) = tr.find s by omega]
    have hget : tr'.get (n + (tr.find s - m)) = tr.get (tr.find s) := by
      rw [get_add_of_drop_eq h, show m + (tr.find s - m) = tr.find s by omega]
    simp only [motionAt, hfind, hnext, hspline, hget]
  · have hn : tr'.timeAt n = tr.timeAt m := by simpa using timeAt_add_of_drop_eq h 0
    have hget : tr'.get n = tr.get m := by simpa using get_add_of_drop_eq h 0
    rw [motionAt, motionAt, ← hn, find_timeAt (by omega), hn, find_timeAt hm, hget, if_pos rfl,
      if_pos rfl]

theorem finishTime_of_drop_eq {tr' : Trajectory K} {n m : Nat}
    (h : tr'.waypoints.drop n = tr.waypoints.drop m) (hm : m < tr.size) :
    tr'.finishTime = tr.finishTime := by
  have hsize : tr'.size - n = tr.size - m := by
    simpa only [List.length_drop] using congrArg List.length h
  rw [finishTime, finishTime, show tr'.size - 1 = n + (tr.size - m - 1) by omega,
    timeAt_add_of_drop_eq h, show m + (tr.size - m - 1) = tr.size - 1 by omega]

end Trajectory

/-! ## The sliced copy -/

section Sliced

variable {trajectory : Trajectory K} {it : Nat} (hit1 : 1 ≤ it) (hit : it < trajectory.size)
include hit1 hit

/-- Cut at the end of the segment, the copy is the trajectory from `it` on: the spline is at the
waypoint there, and that waypoint is not inserted again. -/
theorem sliceTrajectory_waypoints_at_timeAt :
    (sliceTrajectory (trajectory.timeAt it) (trajectory.spline it) trajectory it).waypoints =
      trajectory.waypoints.drop it := by
  have hseg : (trajectory.spline it).startTime < (trajectory.spline it).finishTime :=
    Trajectory.timeAt_pred_lt hit1 hit
  have hit' : it < trajectory.waypoints.length := hit
  rw [@sliceTrajectory_waypoints_of_eq _ _ _ (trajectory.spline it) _ _ hit rfl,
    List.drop_eq_getElem_cons hit', ← Trajectory.get_eq_getElem hit]
  congr 1
  rw [← Trajectory.spline_finishTime, Spline.computePosition_finishTime _ hseg,
    Spline.computeVelocity_finishTime _ hseg]
  rfl

variable {t : Int} (ht0 : trajectory.timeAt (it - 1) ≤ t) (ht1 : t < trajectory.timeAt it)
include ht0 ht1

/-- Cut inside the segment, the copy's first segment re-interpolates the rest of the old one,
and after it the copy is the trajectory from `it` on. -/
theorem motionAt_sliceTrajectory_of_lt {s : Int} (hs0 : t ≤ s) (hs1 : s ≤ trajectory.finishTime) :
    (sliceTrajectory t (trajectory.spline it) trajectory it).motionAt s = trajectory.motionAt s := by
  have hw := @sliceTrajectory_waypoints_of_lt _ _ _ (trajectory.spline it) _ _ ht1
  set sliced := sliceTrajectory t (trajectory.spline it) trajectory it
  have hdrop : sliced.waypoints.drop 1 = trajectory.waypoints.drop it := by
    rw [hw, List.drop_one, List.tail_cons]
  by_cases hsit : trajectory.timeAt it ≤ s
  · exact Trajectory.motionAt_of_drop_eq hdrop hit hsit hs1
  have hget0 : sliced.get 0 =
      ⟨t, (trajectory.spline it).computePosition t, (trajectory.spline it).computeVelocity t⟩ := by
    simp only [Trajectory.get, hw, List.getD_cons_zero]
  have hget1 : sliced.get 1 = trajectory.get it := by
    simpa using Trajectory.get_add_of_drop_eq hdrop 0
  have hsize : 1 < sliced.size := by
    simp only [Trajectory.size, hw, List.length_cons, List.length_drop]
    simp only [Trajectory.size] at hit
    omega
  have hspline : sliced.spline 1 =
      ⟨⟨t, (trajectory.spline it).computePosition t, (trajectory.spline it).computeVelocity t⟩,
        (trajectory.spline it).finish⟩ := by
    rw [Trajectory.spline, Nat.sub_self, hget0, hget1]
    rfl
  have hseg : (trajectory.spline it).startTime < (trajectory.spline it).finishTime :=
    Trajectory.timeAt_pred_lt hit1 hit
  rw [Trajectory.motionAt_of_mem_segment le_rfl hsize
      (by rwa [Nat.sub_self, Trajectory.timeAt, hget0])
      (by rw [Trajectory.timeAt, hget1]; exact le_of_not_le hsit), hspline,
    Spline.computePosition_cut hseg ht1, Spline.computeVelocity_cut hseg ht1,
    Trajectory.motionAt_of_mem_segment hit1 hit (ht0.trans hs0) (le_of_not_le hsit)]

end Sliced

/-- The copy `slice_trajectory` makes of a trajectory cut at `t` within the segment that ends at
`it` starts at `t`, finishes with the trajectory, and from `t` to the finish moves exactly as
the trajectory does. -/
theorem sliceTrajectory_motionAt (trajectory : Trajectory K) {it : Nat} (hit1 : 1 ≤ it)
    (hit : it < trajectory.size) {t : Int} (ht0 : trajectory.timeAt (it - 1) ≤ t)
    (ht1 : t ≤ trajectory.timeAt it) :
    (sliceTrajectory t (trajectory.spline it) trajectory it).startTime = t ∧
      (sliceTrajectory t (trajectory.spline it) trajectory it).finishTime =
        trajectory.finishTime ∧
      ∀ s, t ≤ s → s ≤ trajectory.finishTime →
        (sliceTrajectory t (trajectory.spline it) trajectory it).motionAt s =
          trajectory.motionAt s := by
  rcases ht1.lt_or_eq with ht1 | rfl
  · have hw := @sliceTrajectory_waypoints_of_lt _ _ _ (trajectory.spline it) _ _ ht1
    have hdrop : (sliceTrajectory t (trajectory.spline it) trajectory it).waypoints.drop 1 =
        trajectory.waypoints.drop it := by
      rw [hw, List.drop_one, List.tail_cons]
    refine ⟨by simp only [Trajectory.startTime, Trajectory.timeAt, Trajectory.get, hw,
      List.getD_cons_zero], Trajectory.finishTime_of_drop_eq hdrop hit,
      fun s hs0 hs1 => motionAt_sliceTrajectory_of_lt hit1 hit ht0 ht1 hs0 hs1⟩
  · have hdrop : (sliceTrajectory (trajectory.timeAt it) (trajectory.spline it) trajectory
        it).waypoints.drop 0 = trajectory.waypoints.drop it :=
      sliceTrajectory_waypoints_at_timeAt hit1 hit
    exact ⟨by simpa using Trajectory.timeAt_add_of_drop_eq hdrop 0,
      Trajectory.finishTime_of_drop_eq hdrop hit,
      fun s hs0 hs1 => Trajectory.motionAt_of_drop_eq hdrop hit hs0 hs1⟩

/-- The slice the hand-off of `between_handOff_modes_differ` takes, at the turning point. -/
theorem sliceTrajectory_motionAt_turning :
    1 < turning.size ∧ turning.timeAt (1 - 1) ≤ 750000000 ∧ 750000000 ≤ turning.timeAt 1 ∧
      ∀ s, 750000000 ≤ s → s ≤ turning.finishTime →
        (sliceTrajectory 750000000 (turning.spline 1) turning 1).motionAt s =
          turning.motionAt s :=
  ⟨by decide, by decide, by decide,
    (sliceTrajectory_motionAt turning le_rfl (by decide) (by decide) (by decide)).2.2⟩

end RmfTraffic
