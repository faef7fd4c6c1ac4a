import RmfTraffic.Approach

/-!
# `DetectConflict::between`

The entry point of the conflict engine. It refuses a trajectory of fewer than two waypoints,
normalises both profiles (`convert_profile`), returns `nullopt` early when there is no geometry
to test or the trajectories do not overlap in time, and otherwise aligns the two trajectories
at the later of their start times (`get_initial_iterators`). If the vehicles start close
(`close_start`) it runs `detect_approach`, and `detect_invasion` otherwise.

`DetectConflict::Implementation::between` takes an optional output list; the public
`DetectConflict::between` is the same call without one.
-/

set_option autoImplicit false

namespace RmfTraffic

variable {K : Type} [LinearOrderedField K]

/-- `have_time_overlap`: neither trajectory finishes before the other starts. -/
def haveTimeOverlap (trajectoryA trajectoryB : Trajectory K) : Bool :=
  !(trajectoryB.finishTime < trajectoryA.startTime) &&
    !(trajectoryA.finishTime < trajectoryB.startTime)

/-- `get_initial_iterators`: the trajectory that starts first is sought to the segment that
holds the other's start, and the other begins at its second waypoint; on a tie both do. -/
def getInitialIterators (trajectoryA trajectoryB : Trajectory K) : Nat × Nat :=
  if trajectoryA.startTime < trajectoryB.startTime then
    (trajectoryA.find trajectoryB.startTime, 1)
  else if trajectoryB.startTime < trajectoryA.startTime then
    (1, trajectoryB.find trajectoryA.startTime)
  else (1, 1)

/-- `invalid_trajectory_error::Implementation::make_segment_num_error`: the `what()` text. -/
def makeSegmentNumError (numSegments line : Nat) (function : String) : String :=
  "[rmf_traffic::invalid_trajectory_error] Attempted to check a " ++
    "conflict with a Trajectory that has [" ++ toString numSegments ++
    "] segments. This is not supported. Trajectories must have at least " ++
    "2 segments to check them for conflicts. " ++ function ++ ":" ++ toString line

variable [FloorRing K]

/-- `close_start`: do the vehicles overlap at the later of the two splines' start times? -/
def closeStart (o : Oracle K) (profileA : Profile K) (trajectoryA : Trajectory K) (aIt : Nat)
    (profileB : Profile K) (trajectoryB : Trajectory K) (bIt : Nat) : Except Failure Bool :=
  let splineA := trajectoryA.spline aIt
  let splineB := trajectoryB.spline bIt
  checkOverlap o profileA splineA profileB splineB (max splineA.startTime splineB.startTime)

namespace DetectConflict

/-- `DetectConflict::Implementation::between`, with `output_conflicts` as its last argument.
The `Interpolate` argument is unused by the code and left out. -/
def Implementation.between (o : Oracle K) (inputProfileA : Profile K)
    (trajectoryA : Trajectory K) (inputProfileB : Profile K) (trajectoryB : Trajectory K)
    (out : Option (List Conflict)) : Except Failure Outcome :=
  if trajectoryA.size < 2 then
    .error (.invalidTrajectory (makeSegmentNumError trajectoryA.size 912 "between"))
  else if trajectoryB.size < 2 then
    .error (.invalidTrajectory (makeSegmentNumError trajectoryB.size 919 "between"))
  else
    let profileA := convertProfile inputProfileA
    let profileB := convertProfile inputProfileB
    if profileA.footprint.isNone && profileB.footprint.isNone then pure ⟨none, out⟩
    else if profileA.vicinity.isNone || profileB.vicinity.isNone then pure ⟨none, out⟩
    else if !haveTimeOverlap trajectoryA trajectoryB then pure ⟨none, out⟩
    else do
      let (aIt, bIt) := getInitialIterators trajectoryA trajectoryB
      if ← closeStart o profileA trajectoryA aIt profileB trajectoryB bIt then
        detectApproach o profileA trajectoryA profileB trajectoryB aIt bIt out
      else
        pure (detectInvasion o profileA trajectoryA profileB trajectoryB .caller aIt bIt out)

/-- `DetectConflict::between`: the same call without an output list. -/
def between (o : Oracle K) (profileA : Profile K) (trajectoryA : Trajectory K)
    (profileB : Profile K) (trajectoryB : Trajectory K) : Except Failure (Option Int) :=
  (Implementation.between o profileA trajectoryA profileB trajectoryB none).map (·.result)

end DetectConflict

/-! ## Past the early exits -/

/-- The early exits of `between`, passed: both trajectories have two waypoints, there is a
footprint on one side and a vicinity on both after `convert_profile`, and the trajectories
overlap in time. -/
structure Engaged (inputProfileA : Profile K) (trajectoryA : Trajectory K)
    (inputProfileB : Profile K) (trajectoryB : Trajectory K) : Prop where
  validA : 2 ≤ trajectoryA.size
  validB : 2 ≤ trajectoryB.size
  footprint : (convertProfile inputProfileA).footprint.isSome ∨
    (convertProfile inputProfileB).footprint.isSome
  vicinityA : (convertProfile inputProfileA).vicinity.isSome
  vicinityB : (convertProfile inputProfileB).vicinity.isSome
  timeOverlap : haveTimeOverlap trajectoryA trajectoryB = true

/-- What `between` runs past its early exits: the mode chosen at the aligned start, run from
there. -/
def engage (o : Oracle K) (profileA : Profile K) (trajectoryA : Trajectory K)
    (profileB : Profile K) (trajectoryB : Trajectory K) (out : Option (List Conflict)) :
    Except Failure Outcome :=
  let its := getInitialIterators trajectoryA trajectoryB
  (closeStart o profileA trajectoryA its.1 profileB trajectoryB its.2).bind fun close =>
    if close then detectApproach o profileA trajectoryA profileB trajectoryB its.1 its.2 out
    else .ok (detectInvasion o profileA trajectoryA profileB trajectoryB .caller its.1 its.2 out)

variable {o : Oracle K} {inputProfileA inputProfileB : Profile K}
  {trajectoryA trajectoryB : Trajectory K} {out : Option (List Conflict)}

theorem between_of_engaged (h : Engaged inputProfileA trajectoryA inputProfileB trajectoryB) :
    DetectConflict.Implementation.between o inputProfileA trajectoryA inputProfileB trajectoryB
      out = engage o (convertProfile inputProfileA) trajectoryA (convertProfile inputProfileB)
        trajectoryB out := by
  obtain ⟨ha, hb, hf, hva, hvb, hov⟩ := h
  have hf' : ((convertProfile inputProfileA).footprint.isNone &&
      (convertProfile inputProfileB).footprint.isNone) = false := by
    rcases hf with hf | hf <;> simp [Option.isNone_iff_eq_none, Option.isSome_iff_ne_none] at hf ⊢ <;>
      simp [hf]
  have hv : ((convertProfile inputProfileA).vicinity.isNone ||
      (convertProfile inputProfileB).vicinity.isNone) = false := by
    simp [Option.isNone_iff_eq_none, ← Option.isSome_iff_ne_none, hva, hvb]
  simp only [DetectConflict.Implementation.between, engage, if_neg (Nat.not_lt.mpr ha),
    if_neg (Nat.not_lt.mpr hb), hf', hv, hov, Bool.not_true, Bool.false_eq_true, if_false]
  rfl

/-- Past the early exits, vehicles that do not start close are handed to `detect_invasion` at
the aligned start. -/
theorem between_of_not_closeStart (h : Engaged inputProfileA trajectoryA inputProfileB trajectoryB)
    (hc : closeStart o (convertProfile inputProfileA) trajectoryA
      (getInitialIterators trajectoryA trajectoryB).1 (convertProfile inputProfileB) trajectoryB
      (getInitialIterators trajectoryA trajectoryB).2 = .ok false) :
    DetectConflict.Implementation.between o inputProfileA trajectoryA inputProfileB trajectoryB
      out = .ok (detectInvasion o (convertProfile inputProfileA) trajectoryA
        (convertProfile inputProfileB) trajectoryB .caller
        (getInitialIterators trajectoryA trajectoryB).1
        (getInitialIterators trajectoryA trajectoryB).2 out) := by
  rw [between_of_engaged h, engage, hc]
  rfl

/-- Valid trajectories that miss an early exit's condition give `nullopt` and leave the list as
the caller passed it. -/
theorem between_of_not_engaged (ha : 2 ≤ trajectoryA.size) (hb : 2 ≤ trajectoryB.size)
    (h : ¬ Engaged inputProfileA trajectoryA inputProfileB trajectoryB) :
    DetectConflict.Implementation.between o inputProfileA trajectoryA inputProfileB trajectoryB
      out = .ok ⟨none, out⟩ := by
  unfold DetectConflict.Implementation.between
  rw [if_neg (Nat.not_lt.mpr ha), if_neg (Nat.not_lt.mpr hb)]
  dsimp only
  split_ifs with h1 h2 h3
  · rfl
  · rfl
  · rfl
  · simp only [Bool.and_eq_true, Bool.or_eq_true, not_and_or, not_or, Bool.not_eq_true',
      Option.isNone_iff_eq_none, ← ne_eq, ← Option.isSome_iff_ne_none, Bool.not_eq_false] at h1 h2 h3
    exact absurd ⟨ha, hb, h1, h2.1, h2.2, h3⟩ h

end RmfTraffic
