import RmfTraffic.HandOff
import RmfTraffic.Region

/-!
# Shifting both trajectories in time

The engine compares times only with each other, and measures a segment by its duration, so
running it on two trajectories shifted by the same `d` should shift every conflict by `d` and
change nothing else. What is not among the sources has to agree: the collision library and the
distance differential must see the splines relative to their own start times
(`Oracle.ShiftInvariant`), with the approach times reported in the caller's clock.

## What is proved

One lemma per function of the engine says that it commutes with the shift: the sweep visits
the same pairs, each test and each check gives the same answer, a slice of the shifted
trajectory is the shifted slice, and every conflict and every returned time moves by `d`.
`between_shift` puts them together for every call of `between`, with any list, early exits and
errors included.

The region check is the same story with one trajectory: shifting it and the region's time
bounds moves the window and every clipped window by `d`, the loop visits the same segments
(`segments_shift`), and `detectConflicts_commutes_with_time_shift` follows, for a region test
that sees the spline relative to its own start time (`Oracle.RegionShiftInvariant`).
-/

set_option autoImplicit false

namespace RmfTraffic

/-- A conflict `d` nanoseconds later, at the same segments. -/
def Conflict.shift (d : Int) (c : Conflict) : Conflict := { c with time := c.time + d }

/-- The content of an output list, every entry `d` nanoseconds later. -/
def shiftConflicts (d : Int) (out : Option (List Conflict)) : Option (List Conflict) :=
  out.map (List.map (Conflict.shift d))

/-- What a call leaves, `d` nanoseconds later. -/
def Outcome.shift (d : Int) (outcome : Outcome) : Outcome :=
  ⟨outcome.result.map (· + d), shiftConflicts d outcome.conflicts⟩

theorem record_shift (d : Int) (out : Option (List Conflict)) (found : List Conflict) :
    record (shiftConflicts d out) (found.map (Conflict.shift d)) =
      Sum.map (· + d) (shiftConflicts d) (record out found) := by
  cases out <;> cases found <;> simp [record, shiftConflicts, Conflict.shift]

theorem afterLoop_shift (d : Int) (out : Option (List Conflict)) :
    afterLoop (shiftConflicts d out) = (afterLoop out).shift d := by
  cases out with
  | none => rfl
  | some l => cases l <;> rfl

/-! ## Waypoints and splines -/

variable {K : Type}

@[simp] theorem Waypoint.time_shift (d : Int) (w : Waypoint K) : (w.shift d).time = w.time + d :=
  rfl

section Pieces

variable (d : Int) (splineA splineB : Spline K)

theorem window_shift :
    window (splineA.shift d) (splineB.shift d) =
      ((window splineA splineB).1 + d, (window splineA splineB).2 + d) := by
  simp only [window, Spline.startTime_shift, Spline.finishTime_shift, max_add_add_right,
    min_add_add_right]

theorem advance_shift (aIt bIt : Nat) :
    advance (splineA.shift d) (splineB.shift d) aIt bIt = advance splineA splineB aIt bIt := by
  simp only [advance, Spline.finishTime_shift, add_lt_add_iff_right]

@[simp] theorem Trajectory.waypoints_shift (tr : Trajectory K) :
    (tr.shift d).waypoints = tr.waypoints.map (Waypoint.shift d) := rfl

theorem Trajectory.eq_of_waypoints {tr tr' : Trajectory K} (h : tr.waypoints = tr'.waypoints) :
    tr = tr' := by
  cases tr
  cases tr'
  cases h
  rfl

theorem insertWaypoint_shift (w : Waypoint K) :
    ∀ xs : List (Waypoint K), Trajectory.insertWaypoint (w.shift d) (xs.map (Waypoint.shift d)) =
      (Trajectory.insertWaypoint w xs).map (Waypoint.shift d)
  | [] => rfl
  | x :: xs => by
    simp only [List.map_cons, Trajectory.insertWaypoint, Waypoint.time_shift, add_lt_add_iff_right]
    split_ifs
    · rfl
    · rw [insertWaypoint_shift w xs, List.map_cons]
    · rfl

theorem foldl_insertWaypoint_shift :
    ∀ ys l : List (Waypoint K),
      (ys.map (Waypoint.shift d)).foldl (fun acc w => Trajectory.insertWaypoint w acc)
          (l.map (Waypoint.shift d)) =
        (ys.foldl (fun acc w => Trajectory.insertWaypoint w acc) l).map (Waypoint.shift d)
  | [], _ => rfl
  | y :: ys, l => by
    rw [List.map_cons, List.foldl_cons, List.foldl_cons, insertWaypoint_shift,
      foldl_insertWaypoint_shift ys]

end Pieces

/-! ## What the engine asks of the oracle -/

variable [LinearOrderedField K]

/-- The collision library and the distance differential see the splines relative to their own
start times: shifting both splines (and the window) changes no contact fraction and no
approaching state, and moves every approach time by the shift. `fcl::collide` places shapes at
poses, which carry no time, so it needs no assumption. -/
structure Oracle.ShiftInvariant (o : Oracle K) : Prop where
  continuousCollide : ∀ (d : Int) shapeA (splineA : Spline K) shapeB (splineB : Spline K)
    (startTime finishTime : Int),
    o.continuousCollide shapeA (splineA.shift d) shapeB (splineB.shift d)
        (startTime + d) (finishTime + d) =
      o.continuousCollide shapeA splineA shapeB splineB startTime finishTime
  initiallyApproaching : ∀ (d : Int) (splineA splineB : Spline K),
    o.initiallyApproaching (splineA.shift d) (splineB.shift d) =
      o.initiallyApproaching splineA splineB
  approachTimes : ∀ (d : Int) (splineA splineB : Spline K),
    o.approachTimes (splineA.shift d) (splineB.shift d) =
      (o.approachTimes splineA splineB).map (· + d)

/-- The disc library's answers depend on the splines only through their positions and velocities
relative to the window, so it sees no shift. -/
theorem discOracle_shiftInvariant (sqrt : K → K) : (discOracle sqrt).ShiftInvariant where
  continuousCollide d shapeA splineA shapeB splineB startTime finishTime := by
    simp only [discOracle, firstContact, add_sub_add_right_eq_sub, add_right_comm startTime d,
      Spline.computePosition_shift]
  initiallyApproaching d splineA splineB := by
    simp only [discOracle, window_shift, distanceRate, Spline.computePosition_shift,
      Spline.computeVelocity_shift]
  approachTimes d splineA splineB := by
    have hgrid : ∀ startTime finishTime : Int,
        nanosecondsAfter (startTime + d) (finishTime + d) =
          (nanosecondsAfter startTime finishTime).map (· + d) := fun startTime finishTime => by
      simp only [nanosecondsAfter, add_sub_add_right_eq_sub, List.map_map]
      exact List.map_congr_left fun k _ => by simp only [Function.comp_apply]; ring
    simp only [discOracle, window_shift, hgrid, List.filter_map]
    congr 2
    funext t
    simp only [Function.comp_apply, distanceRate, add_right_comm t d 1,
      Spline.computePosition_shift, Spline.computeVelocity_shift]

/-! ## Trajectories -/

namespace Trajectory

variable (d : Int) {tr : Trajectory K} (h : 0 < tr.size)
include h

theorem startTime_shift : (tr.shift d).startTime = tr.startTime + d :=
  timeAt_shift d h

theorem finishTime_shift : (tr.shift d).finishTime = tr.finishTime + d := by
  simp only [finishTime, size_shift]
  exact timeAt_shift d (by omega)

end Trajectory

theorem haveTimeOverlap_shift (d : Int) {trajectoryA trajectoryB : Trajectory K}
    (ha : 0 < trajectoryA.size) (hb : 0 < trajectoryB.size) :
    haveTimeOverlap (trajectoryA.shift d) (trajectoryB.shift d) =
      haveTimeOverlap trajectoryA trajectoryB := by
  simp only [haveTimeOverlap, Trajectory.startTime_shift d ha, Trajectory.startTime_shift d hb,
    Trajectory.finishTime_shift d ha, Trajectory.finishTime_shift d hb, add_lt_add_iff_right]

theorem getInitialIterators_shift (d : Int) {trajectoryA trajectoryB : Trajectory K}
    (ha : 0 < trajectoryA.size) (hb : 0 < trajectoryB.size) :
    getInitialIterators (trajectoryA.shift d) (trajectoryB.shift d) =
      getInitialIterators trajectoryA trajectoryB := by
  simp only [getInitialIterators, Trajectory.startTime_shift d ha, Trajectory.startTime_shift d hb,
    add_lt_add_iff_right, Trajectory.find_shift]

/-- Shifting changes neither the sizes nor the overlap in time, so the early exits of `between`
are taken for the shifted trajectories exactly when they are for the originals. -/
theorem engaged_shift (d : Int) {inputProfileA inputProfileB : Profile K}
    {trajectoryA trajectoryB : Trajectory K} :
    Engaged inputProfileA (trajectoryA.shift d) inputProfileB (trajectoryB.shift d) ↔
      Engaged inputProfileA trajectoryA inputProfileB trajectoryB := by
  constructor
  · rintro ⟨ha, hb, hf, hva, hvb, hov⟩
    rw [Trajectory.size_shift] at ha hb
    rw [haveTimeOverlap_shift d (by omega) (by omega)] at hov
    exact ⟨ha, hb, hf, hva, hvb, hov⟩
  · rintro ⟨ha, hb, hf, hva, hvb, hov⟩
    refine ⟨by simpa using ha, by simpa using hb, hf, hva, hvb, ?_⟩
    rwa [haveTimeOverlap_shift d (by omega) (by omega)]

theorem sweepPairs_shift (d : Int) (trajectoryA trajectoryB : Trajectory K) (aIt bIt : Nat) :
    sweepPairs (trajectoryA.shift d) (trajectoryB.shift d) aIt bIt =
      sweepPairs trajectoryA trajectoryB aIt bIt := by
  induction aIt, bIt using sweepPairs.induct trajectoryA trajectoryB with
  | case1 aIt bIt h ih =>
    rw [sweepPairs_of_lt (by simpa using h), sweepPairs_of_lt h, Trajectory.spline_shift d h.1,
      Trajectory.spline_shift d h.2, advance_shift, ih]
  | case2 aIt bIt h =>
    rw [sweepPairs_of_not_lt (by simpa using h), sweepPairs_of_not_lt h]

/-! ## The sliced copy -/

/-- The slice of the shifted trajectory at the shifted time is the shifted slice. -/
theorem sliceTrajectory_shift (d t : Int) (spline : Spline K) (trajectory : Trajectory K)
    (it : Nat) :
    sliceTrajectory (t + d) (spline.shift d) (trajectory.shift d) it =
      (sliceTrajectory t spline trajectory it).shift d := by
  have hw : (⟨t + d, (spline.shift d).computePosition (t + d),
      (spline.shift d).computeVelocity (t + d)⟩ : Waypoint K) =
      Waypoint.shift d ⟨t, spline.computePosition t, spline.computeVelocity t⟩ := by
    simp [Waypoint.shift]
  apply Trajectory.eq_of_waypoints
  simp only [sliceTrajectory, Trajectory.waypoints_shift, waypoints_foldl_insert]
  rw [hw, ← List.map_drop]
  exact foldl_insertWaypoint_shift d _ [_]

/-! ## One segment pair -/

section Pair

variable (d : Int) (splineA splineB : Spline K)

theorem getBoundingProfile_shift (sqrt : K → K) (profile : Profile K) :
    getBoundingProfile sqrt (splineA.shift d) profile = getBoundingProfile sqrt splineA profile := by
  simp only [getBoundingProfile, getBoundingBox, Spline.getParams_shift]

theorem collidePair_shift (o : Oracle K) (shapeA shapeB : Option (FinalConvexShape K))
    (time : Int) :
    collidePair o shapeA (splineA.shift d) shapeB (splineB.shift d) (time + d) =
      collidePair o shapeA splineA shapeB splineB time := by
  simp only [collidePair, Spline.computePosition_shift]

theorem checkOverlap_shift (o : Oracle K) (profileA profileB : Profile K) (time : Int) :
    checkOverlap o profileA (splineA.shift d) profileB (splineB.shift d) (time + d) =
      checkOverlap o profileA splineA profileB splineB time := by
  simp only [checkOverlap, collidePair_shift]

variable [FloorRing K]

theorem computeTime_shift (x : K) (startTime finishTime : Int) :
    computeTime x (startTime + d) (finishTime + d) = computeTime x startTime finishTime + d := by
  simp only [computeTime, add_sub_add_right_eq_sub]
  ring

variable {o : Oracle K} (ho : o.ShiftInvariant)
include ho

theorem invasionTest_shift (shapeA shapeB : Option (FinalConvexShape K))
    (boxA boxB : Option (BoundingBox K)) (aIt bIt : Iter) :
    invasionTest o shapeA boxA (splineA.shift d) shapeB boxB (splineB.shift d) aIt bIt =
      (invasionTest o shapeA boxA splineA shapeB boxB splineB aIt bIt).map (Conflict.shift d) := by
  unfold invasionTest
  split_ifs
  · rcases shapeA with _ | x <;> rcases shapeB with _ | y
    all_goals try rfl
    simp only [window_shift, checkCollision, ho.continuousCollide, computeTime_shift]
    cases o.continuousCollide x splineA y splineB (window splineA splineB).1
      (window splineA splineB).2 <;> rfl
  · rfl

theorem invasionHits_shift (profileA profileB : Profile K) (aIt bIt : Iter) :
    invasionHits o profileA (splineA.shift d) profileB (splineB.shift d) aIt bIt =
      (invasionHits o profileA splineA profileB splineB aIt bIt).map (Conflict.shift d) := by
  simp only [invasionHits, getBoundingProfile_shift, invasionTest_shift d _ _ ho, List.map_append]
  split_ifs <;> rfl

end Pair

/-! ## The sweeps -/

section Sweeps

variable (d : Int) [FloorRing K] {o : Oracle K} (ho : o.ShiftInvariant)
  (profileA : Profile K) (trajectoryA : Trajectory K) (profileB : Profile K)
  (trajectoryB : Trajectory K)
include ho

theorem invasionFound_shift (owner : Owner) (aIt bIt : Nat) :
    invasionFound o profileA (trajectoryA.shift d) profileB (trajectoryB.shift d) owner aIt bIt =
      (invasionFound o profileA trajectoryA profileB trajectoryB owner aIt bIt).map
        (Conflict.shift d) := by
  rw [invasionFound, invasionFound, sweepPairs_shift, List.map_flatMap]
  refine List.flatMap_congr fun p hp => ?_
  obtain ⟨ha, hb⟩ := lt_size_of_mem_sweepPairs hp
  rw [Trajectory.spline_shift d ha, Trajectory.spline_shift d hb, invasionHits_shift d _ _ ho]

theorem detectInvasion_shift (owner : Owner) (aIt bIt : Nat) (out : Option (List Conflict)) :
    detectInvasion o profileA (trajectoryA.shift d) profileB (trajectoryB.shift d) owner aIt bIt
        (shiftConflicts d out) =
      (detectInvasion o profileA trajectoryA profileB trajectoryB owner aIt bIt out).shift d := by
  cases out with
  | none =>
    simp only [shiftConflicts, Option.map_none', detectInvasion_none, invasionFound_shift d ho,
      Outcome.shift, List.head?_map, Option.map_map]
    rfl
  | some l =>
    rw [shiftConflicts, Option.map_some', detectInvasion_some, detectInvasion_some,
      invasionFound_shift d ho]
    exact afterLoop_shift d (some _)

section Segment

variable {trajectoryA trajectoryB} {aIt bIt : Nat} (ha : aIt < trajectoryA.size)
  (hb : bIt < trajectoryB.size)
include ha hb

theorem handOff_shift (t : Int) (out : Option (List Conflict)) :
    handOff o profileA (trajectoryA.shift d) profileB (trajectoryB.shift d) (t + d) aIt bIt
        (shiftConflicts d out) =
      (handOff o profileA trajectoryA profileB trajectoryB t aIt bIt out).shift d := by
  rw [handOff, handOff, Trajectory.spline_shift d ha, Trajectory.spline_shift d hb,
    sliceTrajectory_shift, sliceTrajectory_shift, detectInvasion_shift d ho]

theorem approachScan_shift (ts : List Int) (out : Option (List Conflict)) :
    approachScan o profileA (trajectoryA.shift d) profileB (trajectoryB.shift d) aIt bIt
        (ts.map (· + d)) (shiftConflicts d out) =
      (approachScan o profileA trajectoryA profileB trajectoryB aIt bIt ts out).map
        (Sum.map (Outcome.shift d) (shiftConflicts d)) := by
  induction ts generalizing out with
  | nil => rfl
  | cons t ts ih =>
    rw [List.map_cons, approachScan, approachScan, Trajectory.spline_shift d ha,
      Trajectory.spline_shift d hb, checkOverlap_shift]
    cases checkOverlap o profileA (trajectoryA.spline aIt) profileB (trajectoryB.spline bIt) t with
    | error e => rfl
    | ok close =>
      cases close
      · exact congrArg (fun outcome => Except.ok (Sum.inl outcome))
          (handOff_shift d ho profileA profileB ha hb t out)
      · rw [show [(⟨⟨.caller, aIt⟩, ⟨.caller, bIt⟩, t + d⟩ : Conflict)] =
          [(⟨⟨.caller, aIt⟩, ⟨.caller, bIt⟩, t⟩ : Conflict)].map (Conflict.shift d) from rfl]
        rw [record_shift]
        cases record out [⟨⟨.caller, aIt⟩, ⟨.caller, bIt⟩, t⟩] with
        | inl time => rfl
        | inr out => exact ih out

theorem approachStep_shift (out : Option (List Conflict)) :
    approachStep o profileA (trajectoryA.shift d) profileB (trajectoryB.shift d) aIt bIt
        (shiftConflicts d out) =
      (approachStep o profileA trajectoryA profileB trajectoryB aIt bIt out).map
        (Sum.map (Outcome.shift d) (shiftConflicts d)) := by
  have hinitial : ∀ b : Bool, (if b then [(⟨⟨.caller, aIt⟩, ⟨.caller, bIt⟩,
      (window (trajectoryA.spline aIt) (trajectoryB.spline bIt)).1 + d⟩ : Conflict)] else []) =
      (if b then [(⟨⟨.caller, aIt⟩, ⟨.caller, bIt⟩,
        (window (trajectoryA.spline aIt) (trajectoryB.spline bIt)).1⟩ : Conflict)] else []).map
        (Conflict.shift d) := by
    intro b
    cases b <;> rfl
  simp only [approachStep, Trajectory.spline_shift d ha, Trajectory.spline_shift d hb,
    ho.initiallyApproaching, ho.approachTimes, window_shift, hinitial, record_shift]
  cases record out _ with
  | inl time => rfl
  | inr out => exact approachScan_shift d ho profileA profileB ha hb _ out

end Segment

/-- The loop of `detect_approach` on the shifted trajectories runs through the same segment
pairs, takes the same exits and records every conflict `d` later. -/
theorem approachSweep_shift (aIt bIt : Nat) (out : Option (List Conflict)) :
    approachSweep o profileA (trajectoryA.shift d) profileB (trajectoryB.shift d) aIt bIt
        (shiftConflicts d out) =
      (approachSweep o profileA trajectoryA profileB trajectoryB aIt bIt out).map
        (Outcome.shift d) := by
  induction aIt, bIt using sweepPairs.induct trajectoryA trajectoryB generalizing out with
  | case1 aIt bIt h ih =>
    rw [approachSweep_of_lt (by simpa using h), approachSweep_of_lt h,
      approachStep_shift d ho profileA profileB h.1 h.2, Trajectory.spline_shift d h.1,
      Trajectory.spline_shift d h.2, window_shift, checkOverlap_shift, advance_shift]
    rcases approachStep o profileA trajectoryA profileB trajectoryB aIt bIt out with
      e | outcome | out
    · rfl
    · rfl
    · rcases checkOverlap o profileA (trajectoryA.spline aIt) profileB (trajectoryB.spline bIt)
        (window (trajectoryA.spline aIt) (trajectoryB.spline bIt)).2 with e | _ | _
      · rfl
      · exact congrArg Except.ok (detectInvasion_shift d ho profileA trajectoryA profileB
          trajectoryB .caller _ _ out)
      · exact ih out
  | case2 aIt bIt h =>
    rw [approachSweep_of_not_lt (by simpa using h), approachSweep_of_not_lt h, afterLoop_shift]
    rfl

/-- Past the early exits, `close_start` is asked at the shifted aligned start and answers the
same, so the same mode runs. -/
theorem engage_shift (hA : 2 ≤ trajectoryA.size) (hB : 2 ≤ trajectoryB.size)
    (hov : haveTimeOverlap trajectoryA trajectoryB = true) (out : Option (List Conflict)) :
    engage o profileA (trajectoryA.shift d) profileB (trajectoryB.shift d) (shiftConflicts d out) =
      (engage o profileA trajectoryA profileB trajectoryB out).map (Outcome.shift d) := by
  obtain ⟨-, ha, hb, -⟩ := aligned_getInitialIterators hA hB hov
  simp only [engage, closeStart, getInitialIterators_shift d (by omega : 0 < trajectoryA.size)
      (by omega : 0 < trajectoryB.size), Trajectory.spline_shift d ha,
    Trajectory.spline_shift d hb, Spline.startTime_shift, max_add_add_right, checkOverlap_shift]
  rcases checkOverlap o profileA (trajectoryA.spline (getInitialIterators trajectoryA trajectoryB).1)
    profileB (trajectoryB.spline (getInitialIterators trajectoryA trajectoryB).2) _ with e | _ | _
  · rfl
  · exact congrArg Except.ok
      (detectInvasion_shift d ho profileA trajectoryA profileB trajectoryB .caller _ _ out)
  · exact approachSweep_shift d ho profileA trajectoryA profileB trajectoryB _ _ out

/-- Every call of `DetectConflict::Implementation::between` on shifted trajectories, with the
list shifted: the same failure, or the outcome shifted. -/
theorem DetectConflict.Implementation.between_shift (inputProfileA inputProfileB : Profile K)
    (out : Option (List Conflict)) :
    DetectConflict.Implementation.between o inputProfileA (trajectoryA.shift d) inputProfileB
        (trajectoryB.shift d) (shiftConflicts d out) =
      (DetectConflict.Implementation.between o inputProfileA trajectoryA inputProfileB trajectoryB
        out).map (Outcome.shift d) := by
  by_cases h : Engaged inputProfileA trajectoryA inputProfileB trajectoryB
  · rw [between_of_engaged ((engaged_shift d).mpr h), between_of_engaged h]
    exact engage_shift d ho _ _ _ _ h.validA h.validB h.timeOverlap out
  by_cases hA : 2 ≤ trajectoryA.size
  · by_cases hB : 2 ≤ trajectoryB.size
    · rw [between_of_not_engaged (by simpa using hA) (by simpa using hB)
        (mt (engaged_shift d).mp h), between_of_not_engaged hA hB h]
      rfl
    · rw [DetectConflict.Implementation.between, DetectConflict.Implementation.between,
        Trajectory.size_shift, Trajectory.size_shift, if_neg (by omega), if_pos (by omega),
        if_neg (by omega), if_pos (by omega)]
      rfl
  · rw [DetectConflict.Implementation.between, DetectConflict.Implementation.between,
      Trajectory.size_shift, if_pos (by omega), if_pos (by omega)]
    rfl

/-- `DetectConflict::between` on shifted trajectories returns the time shifted. -/
theorem DetectConflict.between_shift (profileA profileB : Profile K) :
    DetectConflict.between o profileA (trajectoryA.shift d) profileB (trajectoryB.shift d) =
      (DetectConflict.between o profileA trajectoryA profileB trajectoryB).map
        (Option.map (· + d)) := by
  have h := DetectConflict.Implementation.between_shift d ho trajectoryA trajectoryB profileA
    profileB none
  simp only [shiftConflicts, Option.map_none'] at h
  rw [DetectConflict.between, DetectConflict.between, h]
  cases DetectConflict.Implementation.between o profileA trajectoryA profileB trajectoryB none <;>
    rfl

end Sweeps

/-! ## `internal::detect_conflicts` -/

/-- The same region, its time bounds `d` nanoseconds later. -/
def Spacetime.shift {K : Type} (d : Int) (region : Spacetime K) : Spacetime K :=
  { region with
    lowerTimeBound := region.lowerTimeBound.map (· + d)
    upperTimeBound := region.upperTimeBound.map (· + d) }

@[simp] theorem Spacetime.pose_shift {K : Type} (d : Int) (region : Spacetime K) :
    (region.shift d).pose = region.pose := rfl

@[simp] theorem Spacetime.shape_shift {K : Type} (d : Int) (region : Spacetime K) :
    (region.shift d).shape = region.shape := rfl

/-- The region test sees the spline relative to its own start time: shifting the spline and the
window changes no contact fraction. The region itself is held still, so it carries no time. -/
def Oracle.RegionShiftInvariant (o : Oracle K) : Prop :=
  ∀ (d : Int) vicinity (spline : Spline K) (startTime finishTime : Int) piece pose,
    o.regionCollide vicinity (spline.shift d) (startTime + d) (finishTime + d) piece pose =
      o.regionCollide vicinity spline startTime finishTime piece pose

namespace Internal

section Window

variable (d : Int) {trajectory : Trajectory K} (region : Spacetime K) (h : 0 < trajectory.size)
include h

theorem startTime_shift :
    startTime (trajectory.shift d) (region.shift d) = startTime trajectory region + d := by
  unfold startTime Spacetime.shift
  cases region.lowerTimeBound <;>
    simp only [Option.map_none', Option.map_some', Trajectory.startTime_shift d h,
      max_add_add_right]

theorem finishTime_shift :
    finishTime (trajectory.shift d) (region.shift d) = finishTime trajectory region + d := by
  unfold finishTime Spacetime.shift
  cases region.upperTimeBound <;>
    simp only [Option.map_none', Option.map_some', Trajectory.finishTime_shift d h,
      min_add_add_right]

/-- The shifted loop visits the same segments. -/
theorem segments_shift :
    segments (trajectory.shift d) (region.shift d) = segments trajectory region := by
  simp only [segments, beginIt, endIt, startTime_shift d region h, finishTime_shift d region h,
    Trajectory.startTime_shift d h, Trajectory.finishTime_shift d h, add_lt_add_iff_right,
    Trajectory.find_shift, Trajectory.size_shift]

variable [FloorRing K] {o : Oracle K} (ho : o.RegionShiftInvariant)
include ho

/-- Each segment of the shifted trajectory yields its conflicts `d` later. -/
theorem segmentHits_shift (vicinity : FinalConvexShape K) {it : Nat} (hit : it < trajectory.size) :
    segmentHits (trajectory.shift d) (region.shift d) o vicinity it =
      (segmentHits trajectory region o vicinity it).map (Conflict.shift d) := by
  have ho' : ∀ (spline : Spline K) (startTime finishTime : Int) piece pose,
      o.regionCollide vicinity (spline.shift d) (startTime + d) (finishTime + d) piece pose =
        o.regionCollide vicinity spline startTime finishTime piece pose := ho d vicinity
  simp only [segmentHits, splineWindow, startTime_shift d region h, finishTime_shift d region h,
    Trajectory.spline_shift d hit, Spline.startTime_shift, Spline.finishTime_shift,
    max_add_add_right, min_add_add_right, ho', computeTime_shift, List.map_filterMap,
    Option.map_map, Spacetime.pose_shift, Spacetime.shape_shift]
  rfl

end Window

/-- The loop over the same segments, with every conflict `d` later, returns the same boolean
and leaves every entry `d` later. -/
theorem regionSweep_shift (d : Int) {hits hits' : Nat → List Conflict} :
    ∀ {its : List Nat}, (∀ it ∈ its, hits' it = (hits it).map (Conflict.shift d)) →
      ∀ out, regionSweep hits' its (shiftConflicts d out) =
        ((regionSweep hits its out).1, shiftConflicts d (regionSweep hits its out).2)
  | [], _, out => by rcases out with _ | _ | _ <;> rfl
  | it :: its, h, out => by
    rw [regionSweep, regionSweep, h it (List.mem_cons_self _ _), record_shift]
    cases record out (hits it) with
    | inl time => rfl
    | inr out => exact regionSweep_shift d (fun i hi => h i (List.mem_cons_of_mem _ hi)) out

end Internal

/-- Shifting the trajectory and the region's time bounds by `d` leaves the boolean
`detect_conflicts` returns as it is and moves every conflict it leaves in the list by `d`
(the list passed in moved too, for the early returns that keep it); failures stay the same. -/
theorem detectConflicts_commutes_with_time_shift [FloorRing K] (o : Oracle K)
    (ho : o.RegionShiftInvariant) (profile : Profile K) (trajectory : Trajectory K)
    (region : Spacetime K) (d : Int) (out : Option (List Conflict)) :
    Internal.detectConflicts (trajectory.shift d) (region.shift d) o profile
        (shiftConflicts d out) =
      (Internal.detectConflicts trajectory region o profile out).map
        fun r => (r.1, shiftConflicts d r.2) := by
  by_cases h2 : trajectory.size < 2
  · simp only [Internal.detectConflicts, Trajectory.size_shift, if_pos h2]
    rfl
  have h2' : 2 ≤ (trajectory.shift d).size := by simpa using not_lt.mp h2
  have hs : 0 < trajectory.size := by omega
  have hwin : Internal.finishTime (trajectory.shift d) (region.shift d) <
      Internal.startTime (trajectory.shift d) (region.shift d) ↔
        Internal.finishTime trajectory region < Internal.startTime trajectory region := by
    rw [Internal.finishTime_shift d region hs, Internal.startTime_shift d region hs,
      add_lt_add_iff_right]
  by_cases hearly : profile.normalizedVicinity = none ∨
      Internal.finishTime trajectory region < Internal.startTime trajectory region
  · rw [Internal.detectConflicts_of_early _ o h2' (hearly.imp_right hwin.mpr),
      Internal.detectConflicts_of_early _ o (not_lt.mp h2) hearly]
    rfl
  obtain ⟨v, hv⟩ := Option.ne_none_iff_exists'.mp fun h => hearly (.inl h)
  have hle := not_lt.mp fun h => hearly (.inr h)
  rw [Internal.detectConflicts_of_window h2' (not_lt.mp fun h => hearly (.inr (hwin.mp h))) o hv,
    Internal.detectConflicts_of_window (not_lt.mp h2) hle o hv, Internal.segments_shift d region hs,
    show (shiftConflicts d out).map (fun _ => []) = shiftConflicts d (out.map fun _ => []) by
      cases out <;> rfl,
    Internal.regionSweep_shift d (fun it hit => Internal.segmentHits_shift d region hs ho v
      (Internal.bounds_of_mem_segments (not_lt.mp h2) hle hit).2.1)]
  rfl

theorem detectConflicts_commutes_with_time_shift_standing :
    let o : Oracle ℚ := ⟨fun _ _ _ _ _ _ => none, fun _ _ _ _ => false, fun _ _ => false,
      fun _ _ => [], fun _ _ _ _ _ _ => some (1 / 2), id⟩
    o.RegionShiftInvariant ∧
      Internal.detectConflicts (standing.shift 1000000000)
          ((⟨none, some 1, 0, [0]⟩ : Spacetime ℚ).shift 1000000000) o ⟨none, some ⟨0, 1⟩⟩
          (shiftConflicts 1000000000 (some [])) =
        (Internal.detectConflicts standing ⟨none, some 1, 0, [0]⟩ o ⟨none, some ⟨0, 1⟩⟩
          (some [])).map fun r => (r.1, shiftConflicts 1000000000 r.2) := by
  intro o
  have ho : o.RegionShiftInvariant := fun _ _ _ _ _ _ _ => rfl
  exact ⟨ho, detectConflicts_commutes_with_time_shift o ho _ standing _ 1000000000 _⟩

/-! ## `between` -/

variable [FloorRing K]

/-- Shifting both trajectories by `d` shifts the time `between` returns by `d` (`nullopt` stays
`nullopt`), and, with a list, every conflict it leaves there; failures stay the same. -/
theorem between_commutes_with_time_shift (o : Oracle K) (ho : o.ShiftInvariant)
    (profileA profileB : Profile K) (trajectoryA trajectoryB : Trajectory K) (d : Int) :
    DetectConflict.between o profileA (trajectoryA.shift d) profileB (trajectoryB.shift d) =
        (DetectConflict.between o profileA trajectoryA profileB trajectoryB).map
          (Option.map (· + d)) ∧
      ∀ out, DetectConflict.Implementation.between o profileA (trajectoryA.shift d) profileB
          (trajectoryB.shift d) (shiftConflicts d out) =
        (DetectConflict.Implementation.between o profileA trajectoryA profileB trajectoryB
          out).map (Outcome.shift d) :=
  ⟨DetectConflict.between_shift d ho trajectoryA trajectoryB profileA profileB,
    DetectConflict.Implementation.between_shift d ho trajectoryA trajectoryB profileA profileB⟩

/-- The arriving and the standing vehicle of `between_complement_out_of_order`, a second
later. -/
theorem between_commutes_with_time_shift_arriving :
    (discOracle Rat.sqrt).ShiftInvariant ∧
      DetectConflict.between (discOracle Rat.sqrt) ⟨some ⟨0, 1⟩, some ⟨1, 3⟩⟩
          (arriving.shift 1000000000) ⟨some ⟨2, 1⟩, some ⟨3, 2⟩⟩ (standing.shift 1000000000) =
        (DetectConflict.between (discOracle Rat.sqrt) ⟨some ⟨0, 1⟩, some ⟨1, 3⟩⟩ arriving
          ⟨some ⟨2, 1⟩, some ⟨3, 2⟩⟩ standing).map (Option.map (· + 1000000000)) :=
  ⟨discOracle_shiftInvariant _, (between_commutes_with_time_shift _ (discOracle_shiftInvariant _)
    _ _ arriving standing 1000000000).1⟩

end RmfTraffic
