import RmfTraffic.Invasion

/-!
# `detect_approach`: vehicles that start close

When two vehicles start inside each other's vicinity, being close is not yet a conflict:
`detect_approach` only flags them getting closer. For each pair of concurrent segments it asks
the distance differential whether they are approaching at the start of the window (a
conflict at that start) and at which later instants they begin to approach. At such an
instant it checks, with `check_overlap`, whether they are still close: if so the instant is a
conflict, if not the vehicles have left each other's vicinity and the call hands over to
`detect_invasion` on copies of both trajectories sliced at that instant. After the segment
pair, if they are no longer close at the window's end, it hands over to `detect_invasion` from
the next segments.

`check_overlap` places the shapes at the splines' positions and asks the collision library
whether they collide, first `a`'s footprint with `b`'s vicinity, then `a`'s vicinity with `b`'s
footprint. It dereferences both pointers of a pair unguarded, so an absent shape there is
undefined behaviour in the code; here it is the failure `Failure.nullShape`, and the calls
that reach `check_overlap` return in `Except Failure`.

`DistanceDifferential` is not among the sources. Its window is modelled from the spec, the
`[t₀, t₁]` the two splines share (`window`); what its root finding reports is the oracle's.
-/

set_option autoImplicit false

namespace RmfTraffic

/-- How a call ends without returning. -/
inductive Failure
  /-- `invalid_trajectory_error`, with the text of its `what()`. -/
  | invalidTrajectory (what : String)
  /-- `*pair[i]` in `check_overlap` on a null shape pointer. -/
  | nullShape
  deriving DecidableEq, Repr

variable {K : Type} [LinearOrderedField K]

/-- `get_collision(*shape)`: the shape behind a pointer that must not be null. -/
def deref (shape : Option (FinalConvexShape K)) : Except Failure (FinalConvexShape K) :=
  match shape with
  | some shape => .ok shape
  | none => .error .nullShape

/-- One pair of `check_overlap`'s loop: both shapes placed at their spline's pose at `time`. -/
def collidePair (o : Oracle K) (shapeA : Option (FinalConvexShape K)) (splineA : Spline K)
    (shapeB : Option (FinalConvexShape K)) (splineB : Spline K) (time : Int) :
    Except Failure Bool := do
  let objA ← deref shapeA
  let objB ← deref shapeB
  pure (o.collide objA (splineA.computePosition time) objB (splineB.computePosition time))

/-- `check_overlap`: is `a`'s footprint in `b`'s vicinity, or `a`'s vicinity on `b`'s footprint,
at `time`? The loop returns at the first pair that collides. -/
def checkOverlap (o : Oracle K) (profileA : Profile K) (splineA : Spline K)
    (profileB : Profile K) (splineB : Spline K) (time : Int) : Except Failure Bool := do
  if ← collidePair o profileA.footprint splineA profileB.vicinity splineB time then
    pure true
  else
    collidePair o profileA.vicinity splineA profileB.footprint splineB time

/-- `slice_trajectory`: a copy of the trajectory from `startTime` on, a waypoint with the
spline's position and velocity at `startTime` followed by the waypoints from `it` to the end. -/
def sliceTrajectory (startTime : Int) (spline : Spline K) (trajectory : Trajectory K)
    (it : Nat) : Trajectory K :=
  (trajectory.waypoints.drop it).foldl Trajectory.insert
    (Trajectory.empty.insert
      ⟨startTime, spline.computePosition startTime, spline.computeVelocity startTime⟩)

/-! ## The sliced copy -/

omit [LinearOrderedField K] in
theorem waypoints_foldl_insert (ys : List (Waypoint K)) (trajectory : Trajectory K) :
    (ys.foldl Trajectory.insert trajectory).waypoints =
      ys.foldl (fun acc w => Trajectory.insertWaypoint w acc) trajectory.waypoints := by
  induction ys generalizing trajectory with
  | nil => rfl
  | cons y ys ih => exact ih _

omit [LinearOrderedField K] in
theorem insertWaypoint_of_lt {w : Waypoint K} :
    ∀ {xs : List (Waypoint K)}, (∀ x ∈ xs, x.time < w.time) →
      Trajectory.insertWaypoint w xs = xs ++ [w]
  | [], _ => rfl
  | x :: xs, h => by
    have hx := h x (List.mem_cons_self _ _)
    simp only [Trajectory.insertWaypoint, if_neg (not_lt.mpr hx.le), if_pos hx, List.cons_append]
    rw [insertWaypoint_of_lt fun y hy => h y (List.mem_cons_of_mem _ hy)]

omit [LinearOrderedField K] in
/-- Waypoints that all come later, inserted in order, are appended. -/
theorem foldl_insertWaypoint_of_lt :
    ∀ (ys l : List (Waypoint K)), ys.Pairwise (fun w w' => w.time < w'.time) →
      (∀ x ∈ l, ∀ y ∈ ys, x.time < y.time) →
      ys.foldl (fun acc w => Trajectory.insertWaypoint w acc) l = l ++ ys
  | [], l, _, _ => by simp
  | y :: ys, l, hys, h => by
    obtain ⟨hy, hys⟩ := List.pairwise_cons.mp hys
    rw [List.foldl_cons, insertWaypoint_of_lt fun x hx => h x hx y (List.mem_cons_self _ _),
      foldl_insertWaypoint_of_lt ys _ hys, List.append_assoc, List.singleton_append]
    intro x hx z hz
    rcases List.mem_append.mp hx with hx | hx
    · exact h x hx z (List.mem_cons_of_mem _ hz)
    · exact (List.mem_singleton.mp hx) ▸ hy z hz

omit [LinearOrderedField K] in
/-- The waypoints a trajectory keeps after iterator `it`. -/
theorem pairwise_drop (trajectory : Trajectory K) (it : Nat) :
    (trajectory.waypoints.drop it).Pairwise fun w w' => w.time < w'.time :=
  trajectory.ordered.sublist (List.drop_sublist _ _)

/-- A waypoint kept after iterator `it` comes at or after the waypoint at `it`. -/
theorem timeAt_le_of_mem_drop {trajectory : Trajectory K} {it : Nat} {y : Waypoint K}
    (hy : y ∈ trajectory.waypoints.drop it) :
    it < trajectory.size ∧ trajectory.timeAt it ≤ y.time := by
  obtain ⟨j, hj, rfl⟩ := List.getElem_of_mem hy
  rw [List.getElem_drop]
  have hj' : it + j < trajectory.size := by simp [Trajectory.size] at hj ⊢; omega
  rw [← Trajectory.timeAt_eq_getElem hj']
  exact ⟨by omega, Trajectory.timeAt_le_timeAt (Nat.le_add_right it j) hj'⟩

/-- Sliced before the waypoint at `it`, the copy is the new waypoint and the rest from `it`. -/
theorem sliceTrajectory_waypoints_of_lt {t : Int} {spline : Spline K}
    {trajectory : Trajectory K} {it : Nat} (ht : t < trajectory.timeAt it) :
    (sliceTrajectory t spline trajectory it).waypoints =
      ⟨t, spline.computePosition t, spline.computeVelocity t⟩ :: trajectory.waypoints.drop it := by
  rw [sliceTrajectory, waypoints_foldl_insert]
  exact foldl_insertWaypoint_of_lt _ [_] (pairwise_drop trajectory it)
    fun x hx y hy => (List.mem_singleton.mp hx) ▸ ht.trans_le (timeAt_le_of_mem_drop hy).2

/-- Sliced at the time of the waypoint at `it`, that waypoint is not inserted again. -/
theorem sliceTrajectory_waypoints_of_eq {t : Int} {spline : Spline K}
    {trajectory : Trajectory K} {it : Nat} (hit : it < trajectory.size)
    (ht : t = trajectory.timeAt it) :
    (sliceTrajectory t spline trajectory it).waypoints =
      ⟨t, spline.computePosition t, spline.computeVelocity t⟩ ::
        trajectory.waypoints.drop (it + 1) := by
  have hit' : it < trajectory.waypoints.length := hit
  rw [sliceTrajectory, waypoints_foldl_insert, List.drop_eq_getElem_cons hit', List.foldl_cons]
  have hget : trajectory.waypoints[it].time = t := by
    rw [ht, Trajectory.timeAt_eq_getElem]
  simp only [Trajectory.empty, Trajectory.insert, Trajectory.insertWaypoint, hget, lt_irrefl,
    if_false]
  exact foldl_insertWaypoint_of_lt _ [_] (pairwise_drop trajectory (it + 1))
    fun x hx y hy => by
      obtain ⟨hs, hle⟩ := timeAt_le_of_mem_drop hy
      exact (List.mem_singleton.mp hx) ▸
        (ht ▸ Trajectory.timeAt_lt_timeAt (Nat.lt_succ_self it) hs).trans_le hle

variable [FloorRing K]

section Approach

variable (o : Oracle K) (profileA : Profile K) (trajectoryA : Trajectory K)
  (profileB : Profile K) (trajectoryB : Trajectory K)

/-- The hand-over at an approach time `t` where the vehicles are no longer close:
`detect_invasion` on both trajectories sliced at `t`, from their first segment. -/
def handOff (t : Int) (aIt bIt : Nat) (out : Option (List Conflict)) : Outcome :=
  detectInvasion o profileA (sliceTrajectory t (trajectoryA.spline aIt) trajectoryA aIt)
    profileB (sliceTrajectory t (trajectoryB.spline bIt) trajectoryB bIt) .slice 1 1 out

/-- The scan over `approach_times` of one segment pair: `.inl` is the outcome the call
returns, `.inr` the list it carries on with. -/
def approachScan (aIt bIt : Nat) :
    List Int → Option (List Conflict) → Except Failure (Outcome ⊕ Option (List Conflict))
  | [], out => pure (.inr out)
  | t :: ts, out => do
    if !(← checkOverlap o profileA (trajectoryA.spline aIt) profileB (trajectoryB.spline bIt) t)
    then
      pure (.inl (handOff o profileA trajectoryA profileB trajectoryB t aIt bIt out))
    else
      match record out [⟨⟨.caller, aIt⟩, ⟨.caller, bIt⟩, t⟩] with
      | .inl time => pure (.inl ⟨some time, none⟩)
      | .inr out => approachScan aIt bIt ts out

/-- The body of `detect_approach`'s loop for one segment pair, up to `still_close`. The
distance differential's start time is the start of the window the splines share. -/
def approachStep (aIt bIt : Nat) (out : Option (List Conflict)) :
    Except Failure (Outcome ⊕ Option (List Conflict)) :=
  let splineA := trajectoryA.spline aIt
  let splineB := trajectoryB.spline bIt
  let initial : List Conflict :=
    if o.initiallyApproaching splineA splineB then
      [⟨⟨.caller, aIt⟩, ⟨.caller, bIt⟩, (window splineA splineB).1⟩]
    else []
  match record out initial with
  | .inl time => pure (.inl ⟨some time, none⟩)
  | .inr out =>
    approachScan o profileA trajectoryA profileB trajectoryB aIt bIt
      (o.approachTimes splineA splineB) out

/-- The loop of `detect_approach`. `still_close` is checked at the distance differential's
finish time, the end of the shared window; if the vehicles are apart there, the call hands
over to `detect_invasion` from the next segments. -/
def approachSweep (aIt bIt : Nat) (out : Option (List Conflict)) : Except Failure Outcome :=
  if _h : aIt < trajectoryA.size ∧ bIt < trajectoryB.size then do
    let splineA := trajectoryA.spline aIt
    let splineB := trajectoryB.spline bIt
    match ← approachStep o profileA trajectoryA profileB trajectoryB aIt bIt out with
    | .inl outcome => pure outcome
    | .inr out =>
      let stillClose ← checkOverlap o profileA splineA profileB splineB
        (window splineA splineB).2
      if !stillClose then
        pure (detectInvasion o profileA trajectoryA profileB trajectoryB .caller
          (advance splineA splineB aIt bIt).1 (advance splineA splineB aIt bIt).2 out)
      else
        approachSweep (advance splineA splineB aIt bIt).1 (advance splineA splineB aIt bIt).2 out
  else pure (afterLoop out)
termination_by trajectoryA.size - aIt + (trajectoryB.size - bIt)
decreasing_by
  have := advance_bounds (trajectoryA.spline aIt) (trajectoryB.spline bIt) aIt bIt
  omega

/-- `detect_approach`. -/
def detectApproach (aIt bIt : Nat) (out : Option (List Conflict)) : Except Failure Outcome :=
  approachSweep o profileA trajectoryA profileB trajectoryB aIt bIt out

variable {o profileA trajectoryA profileB trajectoryB}

theorem approachSweep_of_lt {aIt bIt : Nat}
    (h : aIt < trajectoryA.size ∧ bIt < trajectoryB.size) (out : Option (List Conflict)) :
    approachSweep o profileA trajectoryA profileB trajectoryB aIt bIt out =
      (approachStep o profileA trajectoryA profileB trajectoryB aIt bIt out).bind fun
        | .inl outcome => .ok outcome
        | .inr out =>
          (checkOverlap o profileA (trajectoryA.spline aIt) profileB (trajectoryB.spline bIt)
            (window (trajectoryA.spline aIt) (trajectoryB.spline bIt)).2).bind fun stillClose =>
          if !stillClose then
            .ok (detectInvasion o profileA trajectoryA profileB trajectoryB .caller
              (advance (trajectoryA.spline aIt) (trajectoryB.spline bIt) aIt bIt).1
              (advance (trajectoryA.spline aIt) (trajectoryB.spline bIt) aIt bIt).2 out)
          else
            approachSweep o profileA trajectoryA profileB trajectoryB
              (advance (trajectoryA.spline aIt) (trajectoryB.spline bIt) aIt bIt).1
              (advance (trajectoryA.spline aIt) (trajectoryB.spline bIt) aIt bIt).2 out := by
  rw [approachSweep, dif_pos h]
  rfl

theorem approachSweep_of_not_lt {aIt bIt : Nat}
    (h : ¬ (aIt < trajectoryA.size ∧ bIt < trajectoryB.size)) (out : Option (List Conflict)) :
    approachSweep o profileA trajectoryA profileB trajectoryB aIt bIt out = .ok (afterLoop out) := by
  rw [approachSweep, dif_neg h]
  rfl

end Approach

end RmfTraffic
