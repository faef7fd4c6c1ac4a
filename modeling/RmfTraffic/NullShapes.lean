import RmfTraffic.Windows
import RmfTraffic.Discs

/-!
# Null shapes

A profile's footprint may be a null pointer: a vehicle with no physical presence, only a
vicinity. The engine has two places that hand a shape to the collision library, and they treat
a null pointer differently.

- `detect_invasion` goes through the broadphase first, and the box of a null shape is
  `void_box()`, which overlaps nothing; so it dereferences a shape only when the pointer is
  set (`isSome_of_overlap_bounding`).
- `check_overlap`, which `close_start` and `detect_approach` call, dereferences both pointers of
  each pair with no guard.

## What is proved

`between_ne_nullShape`: when both input profiles have a footprint (after `convert_profile`
both then have a vicinity too), no call of `between` reaches a null dereference, whatever the
trajectories and the collision library. The proof carries "every `check_overlap` succeeds"
through the scan of approach times and the loop of `detect_approach`.

`between_fails_only_on_short_trajectories`: with a footprint on both sides, the only failures
are those of the checks for valid trajectories, each with its message.

`between_dereferences_absent_footprint`: a profile with a vicinity and no footprint, against
one with a footprint, passes every early exit of `between`, and `close_start` then
dereferences the null footprint.
-/

set_option autoImplicit false

namespace RmfTraffic

variable {K : Type}

/-- A profile whose footprint and vicinity pointers are both set. -/
structure Profile.Complete (profile : Profile K) : Prop where
  footprint : profile.footprint.isSome
  vicinity : profile.vicinity.isSome

/-- A footprint is all `convert_profile` needs to make a profile complete. -/
theorem convertProfile_complete {profile : Profile K} (h : profile.footprint.isSome) :
    (convertProfile profile).Complete := by
  refine ⟨by rwa [convertProfile_footprint], ?_⟩
  have := convertProfile_vicinity_isNone profile
  simp only [Option.isNone_iff_eq_none, ← Option.not_isSome_iff_eq_none] at this
  cases hv : (convertProfile profile).vicinity.isSome <;> simp_all

variable [LinearOrderedField K]

/-- Valid trajectories that overlap in time, for two vehicles with a footprint each, take no
early exit of `between`. -/
theorem engaged_of_footprints {inputProfileA inputProfileB : Profile K}
    {trajectoryA trajectoryB : Trajectory K} (ha : 2 ≤ trajectoryA.size)
    (hb : 2 ≤ trajectoryB.size) (hov : haveTimeOverlap trajectoryA trajectoryB = true)
    (hA : inputProfileA.footprint.isSome) (hB : inputProfileB.footprint.isSome) :
    Engaged inputProfileA trajectoryA inputProfileB trajectoryB :=
  ⟨ha, hb, .inl (convertProfile_complete hA).footprint, (convertProfile_complete hA).vicinity,
    (convertProfile_complete hB).vicinity, hov⟩

/-- `void_box()` is the guard of `detect_invasion`: a test passes the broadphase only when both
of its shapes are present. -/
theorem isSome_of_overlap_bounding {sqrt : K → K} {splineA splineB : Spline K}
    {shapeA shapeB : Option (FinalConvexShape K)}
    (h : overlap (shapeA.map fun f => adjustBoundingBox (getBoundingBox sqrt splineA)
        f.characteristicLength)
      (shapeB.map fun f => adjustBoundingBox (getBoundingBox sqrt splineB)
        f.characteristicLength) = true) :
    shapeA.isSome ∧ shapeB.isSome := by
  simpa using isSome_of_overlap h

/-! ## `check_overlap` on complete profiles -/

theorem collidePair_ok (o : Oracle K) {shapeA shapeB : Option (FinalConvexShape K)}
    (ha : shapeA.isSome) (hb : shapeB.isSome) (splineA splineB : Spline K) (time : Int) :
    ∃ b, collidePair o shapeA splineA shapeB splineB time = .ok b := by
  obtain ⟨a, rfl⟩ := Option.isSome_iff_exists.mp ha
  obtain ⟨b, rfl⟩ := Option.isSome_iff_exists.mp hb
  exact ⟨_, rfl⟩

section Complete

variable (o : Oracle K) {profileA profileB : Profile K} (hA : profileA.Complete)
  (hB : profileB.Complete)
include hA hB

theorem checkOverlap_ok (splineA splineB : Spline K) (time : Int) :
    ∃ b, checkOverlap o profileA splineA profileB splineB time = .ok b := by
  obtain ⟨b, hb⟩ := collidePair_ok o hA.footprint hB.vicinity splineA splineB time
  obtain ⟨c, hc⟩ := collidePair_ok o hA.vicinity hB.footprint splineA splineB time
  rw [checkOverlap, hb]
  cases b
  exacts [⟨c, hc⟩, ⟨true, rfl⟩]

variable [FloorRing K] (trajectoryA trajectoryB : Trajectory K)

theorem approachScan_ok (aIt bIt : Nat) (ts : List Int) (out : Option (List Conflict)) :
    ∃ r, approachScan o profileA trajectoryA profileB trajectoryB aIt bIt ts out = .ok r := by
  induction ts generalizing out with
  | nil => exact ⟨_, rfl⟩
  | cons t ts ih =>
    obtain ⟨b, hb⟩ := checkOverlap_ok o hA hB (trajectoryA.spline aIt) (trajectoryB.spline bIt) t
    rw [approachScan, hb]
    cases b
    · exact ⟨_, rfl⟩
    · cases record out [⟨⟨.caller, aIt⟩, ⟨.caller, bIt⟩, t⟩]
      exacts [⟨_, rfl⟩, ih _]

theorem approachStep_ok (aIt bIt : Nat) (out : Option (List Conflict)) :
    ∃ r, approachStep o profileA trajectoryA profileB trajectoryB aIt bIt out = .ok r := by
  unfold approachStep
  dsimp only
  split
  · exact ⟨_, rfl⟩
  · exact approachScan_ok o hA hB trajectoryA trajectoryB aIt bIt _ _

/-- With complete profiles the loop of `detect_approach` runs to its end. -/
theorem approachSweep_ok (aIt bIt : Nat) (out : Option (List Conflict)) :
    ∃ outcome, approachSweep o profileA trajectoryA profileB trajectoryB aIt bIt out =
      .ok outcome := by
  induction aIt, bIt using sweepPairs.induct trajectoryA trajectoryB generalizing out with
  | case1 aIt bIt h ih =>
    obtain ⟨r, hr⟩ := approachStep_ok o hA hB trajectoryA trajectoryB aIt bIt out
    rw [approachSweep_of_lt h, hr]
    rcases r with outcome | out'
    · exact ⟨outcome, rfl⟩
    obtain ⟨b, hb⟩ := checkOverlap_ok o hA hB (trajectoryA.spline aIt) (trajectoryB.spline bIt)
      (window (trajectoryA.spline aIt) (trajectoryB.spline bIt)).2
    simp only [Except.bind, hb]
    cases b
    exacts [⟨_, rfl⟩, ih out']
  | case2 aIt bIt h => exact ⟨_, approachSweep_of_not_lt h out⟩

/-- `close_start`, and then either mode, runs to its end. -/
theorem engage_ok (out : Option (List Conflict)) :
    ∃ outcome, engage o profileA trajectoryA profileB trajectoryB out = .ok outcome := by
  obtain ⟨close, hc⟩ := checkOverlap_ok o hA hB
    (trajectoryA.spline (getInitialIterators trajectoryA trajectoryB).1)
    (trajectoryB.spline (getInitialIterators trajectoryA trajectoryB).2)
    (max (trajectoryA.spline (getInitialIterators trajectoryA trajectoryB).1).startTime
      (trajectoryB.spline (getInitialIterators trajectoryA trajectoryB).2).startTime)
  simp only [engage, closeStart, hc]
  cases close
  · exact ⟨_, rfl⟩
  · exact approachSweep_ok o hA hB trajectoryA trajectoryB _ _ out

end Complete

/-! ## `between` -/

variable [FloorRing K]

/-- With a footprint on both sides and valid trajectories, `between` returns: past the checks
on the trajectories it either takes an early exit or runs `engage` to its end. -/
theorem between_ok_of_footprints (o : Oracle K) {inputProfileA inputProfileB : Profile K}
    (hA : inputProfileA.footprint.isSome) (hB : inputProfileB.footprint.isSome)
    {trajectoryA trajectoryB : Trajectory K} (ha : 2 ≤ trajectoryA.size)
    (hb : 2 ≤ trajectoryB.size) (out : Option (List Conflict)) :
    ∃ outcome, DetectConflict.Implementation.between o inputProfileA trajectoryA inputProfileB
      trajectoryB out = .ok outcome := by
  by_cases h : Engaged inputProfileA trajectoryA inputProfileB trajectoryB
  · rw [between_of_engaged h]
    exact engage_ok o (convertProfile_complete hA) (convertProfile_complete hB) trajectoryA
      trajectoryB out
  · exact ⟨_, between_of_not_engaged ha hb h⟩

/-- With a footprint on both sides, `between` never dereferences a null shape. -/
theorem between_ne_nullShape (o : Oracle K) {inputProfileA inputProfileB : Profile K}
    (hA : inputProfileA.footprint.isSome) (hB : inputProfileB.footprint.isSome)
    (trajectoryA trajectoryB : Trajectory K) (out : Option (List Conflict)) :
    DetectConflict.Implementation.between o inputProfileA trajectoryA inputProfileB trajectoryB
      out ≠ .error .nullShape := by
  by_cases ha : 2 ≤ trajectoryA.size
  · by_cases hb : 2 ≤ trajectoryB.size
    · obtain ⟨outcome, h⟩ := between_ok_of_footprints o hA hB ha hb out
      rw [h]
      nofun
    · rw [DetectConflict.Implementation.between, if_neg (by omega), if_pos (by omega)]
      nofun
  · rw [DetectConflict.Implementation.between, if_pos (by omega)]
    nofun

theorem between_ne_nullShape_standing :
    (⟨some ⟨0, 1⟩, none⟩ : Profile ℚ).footprint.isSome ∧
      (⟨some ⟨1, 1⟩, none⟩ : Profile ℚ).footprint.isSome ∧
      DetectConflict.Implementation.between (discOracle Rat.sqrt)
        ⟨some ⟨0, 1⟩, none⟩ standing ⟨some ⟨1, 1⟩, none⟩ standing none ≠ .error .nullShape :=
  ⟨rfl, rfl, between_ne_nullShape _ (by rfl) (by rfl) standing standing none⟩

/-- With a footprint on both sides, `between` fails only on a trajectory of fewer than two
waypoints, with the segment-number message naming that trajectory's size, and the first
trajectory is checked first; on valid trajectories it always returns, whatever the collision
library and the distance differential. -/
theorem between_fails_only_on_short_trajectories (o : Oracle K)
    {inputProfileA inputProfileB : Profile K} (hA : inputProfileA.footprint.isSome)
    (hB : inputProfileB.footprint.isSome) (trajectoryA trajectoryB : Trajectory K)
    (out : Option (List Conflict)) :
    (trajectoryA.size < 2 →
      DetectConflict.Implementation.between o inputProfileA trajectoryA inputProfileB trajectoryB
          out =
        .error (.invalidTrajectory (makeSegmentNumError trajectoryA.size 912 "between"))) ∧
      (2 ≤ trajectoryA.size → trajectoryB.size < 2 →
        DetectConflict.Implementation.between o inputProfileA trajectoryA inputProfileB
            trajectoryB out =
          .error (.invalidTrajectory (makeSegmentNumError trajectoryB.size 919 "between"))) ∧
      (2 ≤ trajectoryA.size → 2 ≤ trajectoryB.size → ∃ outcome,
        DetectConflict.Implementation.between o inputProfileA trajectoryA inputProfileB
          trajectoryB out = .ok outcome) := by
  refine ⟨fun ha => ?_, fun ha hb => ?_, fun ha hb => between_ok_of_footprints o hA hB ha hb out⟩
  · rw [DetectConflict.Implementation.between, if_pos ha]
  · rw [DetectConflict.Implementation.between, if_neg (not_lt.mpr ha), if_pos hb]

/-- Two standing vehicles with footprints: the call returns, and a one-waypoint trajectory in
either place is reported with its size. -/
theorem between_fails_only_on_short_trajectories_standing :
    (⟨some ⟨0, 1⟩, none⟩ : Profile ℚ).footprint.isSome ∧
      (⟨some ⟨1, 1⟩, none⟩ : Profile ℚ).footprint.isSome ∧
      ((standing.size < 2 →
        DetectConflict.Implementation.between (discOracle Rat.sqrt)
          ⟨some ⟨0, 1⟩, none⟩ standing ⟨some ⟨1, 1⟩, none⟩ standing none =
          .error (.invalidTrajectory (makeSegmentNumError standing.size 912 "between"))) ∧
        (2 ≤ standing.size → standing.size < 2 →
          DetectConflict.Implementation.between (discOracle Rat.sqrt)
            ⟨some ⟨0, 1⟩, none⟩ standing ⟨some ⟨1, 1⟩, none⟩ standing none =
            .error (.invalidTrajectory (makeSegmentNumError standing.size 919 "between"))) ∧
        (2 ≤ standing.size → 2 ≤ standing.size → ∃ outcome,
          DetectConflict.Implementation.between (discOracle Rat.sqrt)
            ⟨some ⟨0, 1⟩, none⟩ standing ⟨some ⟨1, 1⟩, none⟩ standing none = .ok outcome)) :=
  ⟨rfl, rfl, between_fails_only_on_short_trajectories _ (by rfl) (by rfl) standing standing none⟩

/-- A profile with only a vicinity, against one with only a footprint: `convert_profile` gives
the second its footprint as vicinity, so no early exit is taken, and `close_start` dereferences
the first one's null footprint, for every collision library and every list. -/
theorem between_dereferences_absent_footprint (o : Oracle ℚ) (out : Option (List Conflict)) :
    DetectConflict.Implementation.between o ⟨none, some ⟨0, 1⟩⟩ standing ⟨some ⟨1, 1⟩, none⟩
      standing out = .error .nullShape := by
  rfl

end RmfTraffic
