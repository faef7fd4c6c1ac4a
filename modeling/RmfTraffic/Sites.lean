import RmfTraffic.Region

/-!
# The iterators every `Spline` is built from

`Spline(it)` interpolates between the waypoint before `it` and the waypoint at `it`, so an
iterator a spline is built from must be neither `begin()` nor `end()` of its trajectory. The
engine builds splines in `close_start`, at the top of the lock-step loops of `detect_invasion`
and `detect_approach`, in `detect_invasion` again on the copies `detect_approach` slices at a
hand-off, and in the loop of `internal::detect_conflicts`.

Each of these functions has a traced twin here, `…Traced`, which returns what the function
returns together with the `SplineSite`s, the iterators it builds a spline from, in the order it
builds them. A twin is its function with the sites written down, and an erasure lemma for each
(`invasionSweepTraced_fst`, …) says that its first component is the function itself.

## What is proved

- `inside_of_mem_invasionSweepTraced`, the run lemma of the lock-step loop: from iterators past
  `begin()`, every site is inside its trajectory, since the loop's test
  `a_it != a_end && b_it != b_end` stops it at `end()` and the iterators only move forward.
- The same for the loop of `detect_approach`, with its hand-offs to `detect_invasion`, from the
  next segments or on the sliced copies from `++begin()`, and for `between`, whose
  `get_initial_iterators` starts past `begin()` and before `end()` once the early exits are
  passed.
- `inside_of_mem_detectConflictsTraced`: the loop of `detect_conflicts` visits only segments.
- `splines_built_from_consecutive_waypoints`: every `Spline` built during `between` or
  `detect_conflicts` is built from two existing consecutive waypoints of its trajectory.
-/

set_option autoImplicit false

namespace RmfTraffic

/-- An iterator a `Spline` is built from: the trajectory it points into, and its position. -/
structure SplineSite (K : Type) where
  trajectory : Trajectory K
  it : Nat

variable {K : Type}

namespace SplineSite

/-- The iterator is past `begin()` and before `end()`. -/
def Inside (s : SplineSite K) : Prop :=
  1 ≤ s.it ∧ s.it < s.trajectory.size

instance : DecidablePred (@Inside K) := fun _ => inferInstanceAs (Decidable (_ ∧ _))

/-- The two splines of a segment pair are built inside when both iterators are. -/
theorem inside_of_mem_pair {trajectoryA trajectoryB : Trajectory K} {aIt bIt : Nat}
    (ha : 1 ≤ aIt ∧ aIt < trajectoryA.size) (hb : 1 ≤ bIt ∧ bIt < trajectoryB.size) :
    ∀ s ∈ ([⟨trajectoryA, aIt⟩, ⟨trajectoryB, bIt⟩] : List (SplineSite K)), s.Inside :=
  List.forall_mem_cons.mpr ⟨ha, List.forall_mem_singleton.mpr hb⟩

variable [LinearOrderedField K]

/-- `Spline(it)` reads the trajectory's waypoints before `it` and at `it`. -/
def ReadsWaypoints (s : SplineSite K) : Prop :=
  s.trajectory.waypoints[s.it - 1]? = some (s.trajectory.spline s.it).start ∧
    s.trajectory.waypoints[s.it]? = some (s.trajectory.spline s.it).finish

/-- A spline built from an iterator inside its trajectory reads two existing waypoints. -/
theorem readsWaypoints_of_inside {s : SplineSite K} (h : s.Inside) : s.ReadsWaypoints := by
  have h1 : s.it - 1 < s.trajectory.size := lt_of_le_of_lt (Nat.sub_le _ _) h.2
  refine ⟨?_, ?_⟩
  · show _ = some (s.trajectory.get (s.it - 1))
    rw [Trajectory.get_eq_getElem h1]
    exact List.getElem?_eq_getElem h1
  · show _ = some (s.trajectory.get s.it)
    rw [Trajectory.get_eq_getElem h.2]
    exact List.getElem?_eq_getElem h.2

end SplineSite

variable [LinearOrderedField K] [FloorRing K]

/-! ## `detect_invasion` -/

section Invasion

variable (o : Oracle K) (profileA : Profile K) (trajectoryA : Trajectory K)
  (profileB : Profile K) (trajectoryB : Trajectory K) (owner : Owner)

/-- `invasionSweep`, with the iterators of `Spline(a_it)` and `Spline(b_it)` at the top of each
pass of the loop. -/
def invasionSweepTraced (aIt bIt : Nat) (out : Option (List Conflict)) :
    Outcome × List (SplineSite K) :=
  if _h : aIt < trajectoryA.size ∧ bIt < trajectoryB.size then
    let splineA := trajectoryA.spline aIt
    let splineB := trajectoryB.spline bIt
    let built : List (SplineSite K) := [⟨trajectoryA, aIt⟩, ⟨trajectoryB, bIt⟩]
    match record out (invasionHits o profileA splineA profileB splineB ⟨owner, aIt⟩
        ⟨owner, bIt⟩) with
    | .inl time => (⟨some time, none⟩, built)
    | .inr out =>
      let rest := invasionSweepTraced (advance splineA splineB aIt bIt).1
        (advance splineA splineB aIt bIt).2 out
      (rest.1, built ++ rest.2)
  else (afterLoop out, [])
termination_by trajectoryA.size - aIt + (trajectoryB.size - bIt)
decreasing_by
  have := advance_bounds (trajectoryA.spline aIt) (trajectoryB.spline bIt) aIt bIt
  omega

/-- `detect_invasion`, traced. -/
def detectInvasionTraced (aIt bIt : Nat) (out : Option (List Conflict)) :
    Outcome × List (SplineSite K) :=
  invasionSweepTraced o profileA trajectoryA profileB trajectoryB owner aIt bIt
    (out.map fun _ => [])

variable {o profileA trajectoryA profileB trajectoryB owner}

@[simp] theorem invasionSweepTraced_fst (aIt bIt : Nat) (out : Option (List Conflict)) :
    (invasionSweepTraced o profileA trajectoryA profileB trajectoryB owner aIt bIt out).1 =
      invasionSweep o profileA trajectoryA profileB trajectoryB owner aIt bIt out := by
  induction aIt, bIt using sweepPairs.induct trajectoryA trajectoryB generalizing out with
  | case1 aIt bIt h ih =>
    rw [invasionSweepTraced, dif_pos h, invasionSweep_of_lt h]
    dsimp only
    cases record out (invasionHits o profileA (trajectoryA.spline aIt) profileB
      (trajectoryB.spline bIt) ⟨owner, aIt⟩ ⟨owner, bIt⟩)
    · rfl
    · exact ih _
  | case2 aIt bIt h => rw [invasionSweepTraced, dif_neg h, invasionSweep_of_not_lt h]

/-- The run lemma of the lock-step loop: from iterators past `begin()`, every spline is built
inside its trajectory. -/
theorem inside_of_mem_invasionSweepTraced {aIt bIt : Nat} (ha : 1 ≤ aIt) (hb : 1 ≤ bIt)
    (out : Option (List Conflict)) :
    ∀ s ∈ (invasionSweepTraced o profileA trajectoryA profileB trajectoryB owner aIt bIt out).2,
      s.Inside := by
  induction aIt, bIt using sweepPairs.induct trajectoryA trajectoryB generalizing out with
  | case1 aIt bIt h ih =>
    have hbuilt := SplineSite.inside_of_mem_pair ⟨ha, h.1⟩ ⟨hb, h.2⟩
    have := advance_bounds (trajectoryA.spline aIt) (trajectoryB.spline bIt) aIt bIt
    rw [invasionSweepTraced, dif_pos h]
    dsimp only
    cases record out (invasionHits o profileA (trajectoryA.spline aIt) profileB
      (trajectoryB.spline bIt) ⟨owner, aIt⟩ ⟨owner, bIt⟩)
    · exact hbuilt
    · exact List.forall_mem_append.mpr ⟨hbuilt, ih (by omega) (by omega) _⟩
  | case2 aIt bIt h =>
    rw [invasionSweepTraced, dif_neg h]
    simp

end Invasion

/-! ## `detect_approach` -/

section Approach

variable (o : Oracle K) (profileA : Profile K) (trajectoryA : Trajectory K)
  (profileB : Profile K) (trajectoryB : Trajectory K)

/-- `handOff`, traced: the splines `detect_invasion` builds on the two sliced copies. -/
def handOffTraced (t : Int) (aIt bIt : Nat) (out : Option (List Conflict)) :
    Outcome × List (SplineSite K) :=
  detectInvasionTraced o profileA (sliceTrajectory t (trajectoryA.spline aIt) trajectoryA aIt)
    profileB (sliceTrajectory t (trajectoryB.spline bIt) trajectoryB bIt) .slice 1 1 out

/-- `approachScan`, traced. It builds no spline of its own; a hand-off builds those of the
sliced copies. -/
def approachScanTraced (aIt bIt : Nat) :
    List Int → Option (List Conflict) →
      Except Failure (Outcome ⊕ Option (List Conflict)) × List (SplineSite K)
  | [], out => (pure (.inr out), [])
  | t :: ts, out =>
    match checkOverlap o profileA (trajectoryA.spline aIt) profileB (trajectoryB.spline bIt) t
    with
    | .error e => (.error e, [])
    | .ok false =>
      let handed := handOffTraced o profileA trajectoryA profileB trajectoryB t aIt bIt out
      (pure (.inl handed.1), handed.2)
    | .ok true =>
      match record out [⟨⟨.caller, aIt⟩, ⟨.caller, bIt⟩, t⟩] with
      | .inl time => (pure (.inl ⟨some time, none⟩), [])
      | .inr out => approachScanTraced aIt bIt ts out

/-- `approachStep`, traced. -/
def approachStepTraced (aIt bIt : Nat) (out : Option (List Conflict)) :
    Except Failure (Outcome ⊕ Option (List Conflict)) × List (SplineSite K) :=
  let splineA := trajectoryA.spline aIt
  let splineB := trajectoryB.spline bIt
  let initial : List Conflict :=
    if o.initiallyApproaching splineA splineB then
      [⟨⟨.caller, aIt⟩, ⟨.caller, bIt⟩, (window splineA splineB).1⟩]
    else []
  match record out initial with
  | .inl time => (pure (.inl ⟨some time, none⟩), [])
  | .inr out =>
    approachScanTraced o profileA trajectoryA profileB trajectoryB aIt bIt
      (o.approachTimes splineA splineB) out

/-- `approachSweep`, with the iterators of `Spline(a_it)` and `Spline(b_it)` at the top of each
pass of the loop, then those of a hand-off to `detect_invasion`. -/
def approachSweepTraced (aIt bIt : Nat) (out : Option (List Conflict)) :
    Except Failure Outcome × List (SplineSite K) :=
  if _h : aIt < trajectoryA.size ∧ bIt < trajectoryB.size then
    let splineA := trajectoryA.spline aIt
    let splineB := trajectoryB.spline bIt
    let built : List (SplineSite K) := [⟨trajectoryA, aIt⟩, ⟨trajectoryB, bIt⟩]
    let step := approachStepTraced o profileA trajectoryA profileB trajectoryB aIt bIt out
    match step.1 with
    | .error e => (.error e, built ++ step.2)
    | .ok (.inl outcome) => (pure outcome, built ++ step.2)
    | .ok (.inr out) =>
      match checkOverlap o profileA splineA profileB splineB (window splineA splineB).2 with
      | .error e => (.error e, built ++ step.2)
      | .ok stillClose =>
        if !stillClose then
          let handed := detectInvasionTraced o profileA trajectoryA profileB trajectoryB .caller
            (advance splineA splineB aIt bIt).1 (advance splineA splineB aIt bIt).2 out
          (pure handed.1, built ++ step.2 ++ handed.2)
        else
          let rest := approachSweepTraced (advance splineA splineB aIt bIt).1
            (advance splineA splineB aIt bIt).2 out
          (rest.1, built ++ step.2 ++ rest.2)
  else (pure (afterLoop out), [])
termination_by trajectoryA.size - aIt + (trajectoryB.size - bIt)
decreasing_by
  have := advance_bounds (trajectoryA.spline aIt) (trajectoryB.spline bIt) aIt bIt
  omega

variable {o profileA trajectoryA profileB trajectoryB}

@[simp] theorem handOffTraced_fst (t : Int) (aIt bIt : Nat) (out : Option (List Conflict)) :
    (handOffTraced o profileA trajectoryA profileB trajectoryB t aIt bIt out).1 =
      handOff o profileA trajectoryA profileB trajectoryB t aIt bIt out :=
  invasionSweepTraced_fst 1 1 _

@[simp] theorem approachScanTraced_fst (aIt bIt : Nat) (ts : List Int)
    (out : Option (List Conflict)) :
    (approachScanTraced o profileA trajectoryA profileB trajectoryB aIt bIt ts out).1 =
      approachScan o profileA trajectoryA profileB trajectoryB aIt bIt ts out := by
  induction ts generalizing out with
  | nil => rfl
  | cons t ts ih =>
    simp only [approachScanTraced, approachScan]
    cases checkOverlap o profileA (trajectoryA.spline aIt) profileB (trajectoryB.spline bIt) t
      with
    | error e => rfl
    | ok close =>
      cases close
      · simp only [handOffTraced_fst]
        rfl
      · cases record out [⟨⟨.caller, aIt⟩, ⟨.caller, bIt⟩, t⟩]
        · rfl
        · exact ih _

@[simp] theorem approachStepTraced_fst (aIt bIt : Nat) (out : Option (List Conflict)) :
    (approachStepTraced o profileA trajectoryA profileB trajectoryB aIt bIt out).1 =
      approachStep o profileA trajectoryA profileB trajectoryB aIt bIt out := by
  simp only [approachStepTraced, approachStep]
  split <;> rename_i h <;> simp only [h, approachScanTraced_fst]

@[simp] theorem approachSweepTraced_fst (aIt bIt : Nat) (out : Option (List Conflict)) :
    (approachSweepTraced o profileA trajectoryA profileB trajectoryB aIt bIt out).1 =
      approachSweep o profileA trajectoryA profileB trajectoryB aIt bIt out := by
  induction aIt, bIt using sweepPairs.induct trajectoryA trajectoryB generalizing out with
  | case1 aIt bIt h ih =>
    rw [approachSweepTraced, dif_pos h, approachSweep_of_lt h, ← approachStepTraced_fst]
    dsimp only
    cases (approachStepTraced o profileA trajectoryA profileB trajectoryB aIt bIt out).1 with
    | error e => rfl
    | ok r =>
      rcases r with outcome | out'
      · rfl
      · cases checkOverlap o profileA (trajectoryA.spline aIt) profileB (trajectoryB.spline bIt)
          (window (trajectoryA.spline aIt) (trajectoryB.spline bIt)).2 with
        | error e => rfl
        | ok stillClose =>
          cases stillClose
          · exact congrArg Except.ok (invasionSweepTraced_fst _ _ _)
          · exact ih _
  | case2 aIt bIt h =>
    rw [approachSweepTraced, dif_neg h, approachSweep_of_not_lt h]
    rfl

/-- A hand-off, a scan and a step build splines only on the sliced copies, from `++begin()`. -/
theorem inside_of_mem_approachScanTraced (aIt bIt : Nat) :
    ∀ (ts : List Int) (out : Option (List Conflict)),
      ∀ s ∈ (approachScanTraced o profileA trajectoryA profileB trajectoryB aIt bIt ts out).2,
        s.Inside
  | [], _ => by simp [approachScanTraced]
  | t :: ts, out => by
    simp only [approachScanTraced]
    cases checkOverlap o profileA (trajectoryA.spline aIt) profileB (trajectoryB.spline bIt) t
      with
    | error e => simp
    | ok close =>
      cases close
      · exact inside_of_mem_invasionSweepTraced le_rfl le_rfl _
      · cases record out [⟨⟨.caller, aIt⟩, ⟨.caller, bIt⟩, t⟩]
        · simp
        · exact inside_of_mem_approachScanTraced aIt bIt ts _

theorem inside_of_mem_approachStepTraced (aIt bIt : Nat) (out : Option (List Conflict)) :
    ∀ s ∈ (approachStepTraced o profileA trajectoryA profileB trajectoryB aIt bIt out).2,
      s.Inside := by
  simp only [approachStepTraced]
  split
  · simp
  · exact inside_of_mem_approachScanTraced _ _ _ _

/-- The run lemma of `detect_approach`'s loop: from iterators past `begin()`, every spline it
builds, or a hand-off from it builds, is built inside its trajectory. -/
theorem inside_of_mem_approachSweepTraced {aIt bIt : Nat} (ha : 1 ≤ aIt) (hb : 1 ≤ bIt)
    (out : Option (List Conflict)) :
    ∀ s ∈ (approachSweepTraced o profileA trajectoryA profileB trajectoryB aIt bIt out).2,
      s.Inside := by
  induction aIt, bIt using sweepPairs.induct trajectoryA trajectoryB generalizing out with
  | case1 aIt bIt h ih =>
    have hfirst : ∀ s ∈ [⟨trajectoryA, aIt⟩, ⟨trajectoryB, bIt⟩] ++
        (approachStepTraced o profileA trajectoryA profileB trajectoryB aIt bIt out).2,
        SplineSite.Inside s :=
      List.forall_mem_append.mpr ⟨SplineSite.inside_of_mem_pair ⟨ha, h.1⟩ ⟨hb, h.2⟩,
        inside_of_mem_approachStepTraced aIt bIt out⟩
    have := advance_bounds (trajectoryA.spline aIt) (trajectoryB.spline bIt) aIt bIt
    rw [approachSweepTraced, dif_pos h]
    dsimp only
    cases (approachStepTraced o profileA trajectoryA profileB trajectoryB aIt bIt out).1 with
    | error e => exact hfirst
    | ok r =>
      rcases r with outcome | out'
      · exact hfirst
      · cases checkOverlap o profileA (trajectoryA.spline aIt) profileB (trajectoryB.spline bIt)
          (window (trajectoryA.spline aIt) (trajectoryB.spline bIt)).2 with
        | error e => exact hfirst
        | ok stillClose =>
          cases stillClose
          · exact List.forall_mem_append.mpr
              ⟨hfirst, inside_of_mem_invasionSweepTraced (by omega) (by omega) _⟩
          · exact List.forall_mem_append.mpr ⟨hfirst, ih (by omega) (by omega) _⟩
  | case2 aIt bIt h =>
    rw [approachSweepTraced, dif_neg h]
    simp

end Approach

/-! ## `between` -/

section Between

variable (o : Oracle K)

/-- `engage`, traced: `close_start` builds the splines of the iterators from
`get_initial_iterators`, then the mode it chooses builds its own. -/
def engageTraced (profileA : Profile K) (trajectoryA : Trajectory K) (profileB : Profile K)
    (trajectoryB : Trajectory K) (out : Option (List Conflict)) :
    Except Failure Outcome × List (SplineSite K) :=
  let its := getInitialIterators trajectoryA trajectoryB
  let built : List (SplineSite K) := [⟨trajectoryA, its.1⟩, ⟨trajectoryB, its.2⟩]
  match closeStart o profileA trajectoryA its.1 profileB trajectoryB its.2 with
  | .error e => (.error e, built)
  | .ok true =>
    let approached :=
      approachSweepTraced o profileA trajectoryA profileB trajectoryB its.1 its.2 out
    (approached.1, built ++ approached.2)
  | .ok false =>
    let invaded :=
      detectInvasionTraced o profileA trajectoryA profileB trajectoryB .caller its.1 its.2 out
    (pure invaded.1, built ++ invaded.2)

instance (inputProfileA : Profile K) (trajectoryA : Trajectory K) (inputProfileB : Profile K)
    (trajectoryB : Trajectory K) :
    Decidable (Engaged inputProfileA trajectoryA inputProfileB trajectoryB) :=
  decidable_of_iff (2 ≤ trajectoryA.size ∧ 2 ≤ trajectoryB.size ∧
      ((convertProfile inputProfileA).footprint.isSome ∨
        (convertProfile inputProfileB).footprint.isSome) ∧
      (convertProfile inputProfileA).vicinity.isSome ∧
      (convertProfile inputProfileB).vicinity.isSome ∧
      haveTimeOverlap trajectoryA trajectoryB = true)
    ⟨fun ⟨a, b, c, d, e, f⟩ => ⟨a, b, c, d, e, f⟩, fun ⟨a, b, c, d, e, f⟩ => ⟨a, b, c, d, e, f⟩⟩

/-- `DetectConflict::Implementation::between`, traced: its early exits come before any spline
is built; past them, the call is `engage`. -/
def DetectConflict.Implementation.betweenTraced (inputProfileA : Profile K)
    (trajectoryA : Trajectory K) (inputProfileB : Profile K) (trajectoryB : Trajectory K)
    (out : Option (List Conflict)) : Except Failure Outcome × List (SplineSite K) :=
  if Engaged inputProfileA trajectoryA inputProfileB trajectoryB then
    engageTraced o (convertProfile inputProfileA) trajectoryA (convertProfile inputProfileB)
      trajectoryB out
  else
    (DetectConflict.Implementation.between o inputProfileA trajectoryA inputProfileB trajectoryB
      out, [])

variable {o} {profileA profileB : Profile K} {trajectoryA trajectoryB : Trajectory K}
  (out : Option (List Conflict))

@[simp] theorem engageTraced_fst :
    (engageTraced o profileA trajectoryA profileB trajectoryB out).1 =
      engage o profileA trajectoryA profileB trajectoryB out := by
  unfold engageTraced engage
  dsimp only
  cases closeStart o profileA trajectoryA (getInitialIterators trajectoryA trajectoryB).1
    profileB trajectoryB (getInitialIterators trajectoryA trajectoryB).2 with
  | error e => rfl
  | ok close =>
    cases close
    · exact congrArg Except.ok (invasionSweepTraced_fst _ _ _)
    · exact approachSweepTraced_fst _ _ _

/-- Once the early exits are passed, `get_initial_iterators` starts both loops past `begin()`
and before `end()`, so every spline of the call is built inside its trajectory. -/
theorem inside_of_mem_engageTraced (ha : 2 ≤ trajectoryA.size) (hb : 2 ≤ trajectoryB.size)
    (hov : haveTimeOverlap trajectoryA trajectoryB = true) :
    ∀ s ∈ (engageTraced o profileA trajectoryA profileB trajectoryB out).2, s.Inside := by
  obtain ⟨hal, hA, hB, -⟩ := aligned_getInitialIterators ha hb hov
  have hbuilt := SplineSite.inside_of_mem_pair ⟨hal.one_le_left, hA⟩ ⟨hal.one_le_right, hB⟩
  unfold engageTraced
  dsimp only
  cases closeStart o profileA trajectoryA (getInitialIterators trajectoryA trajectoryB).1
    profileB trajectoryB (getInitialIterators trajectoryA trajectoryB).2 with
  | error e => exact hbuilt
  | ok close =>
    cases close
    · exact List.forall_mem_append.mpr ⟨hbuilt,
        inside_of_mem_invasionSweepTraced hal.one_le_left hal.one_le_right _⟩
    · exact List.forall_mem_append.mpr ⟨hbuilt,
        inside_of_mem_approachSweepTraced hal.one_le_left hal.one_le_right _⟩

@[simp] theorem betweenTraced_fst :
    (DetectConflict.Implementation.betweenTraced o profileA trajectoryA profileB trajectoryB
      out).1 = DetectConflict.Implementation.between o profileA trajectoryA profileB trajectoryB
        out := by
  unfold DetectConflict.Implementation.betweenTraced
  split_ifs with h
  · rw [between_of_engaged h]
    exact engageTraced_fst out
  · rfl

theorem inside_of_mem_betweenTraced :
    ∀ s ∈ (DetectConflict.Implementation.betweenTraced o profileA trajectoryA profileB
      trajectoryB out).2, s.Inside := by
  unfold DetectConflict.Implementation.betweenTraced
  split_ifs with h
  · exact inside_of_mem_engageTraced out h.validA h.validB h.timeOverlap
  · simp

end Between

/-! ## `detect_conflicts` -/

/-- `regionSweep`, with the segments whose `Spline(it)` it builds: every segment it visits, up
to the one at which it returns early. -/
def regionSweepTraced (hits : Nat → List Conflict) :
    List Nat → Option (List Conflict) → (Bool × Option (List Conflict)) × List Nat
  | [], out =>
    ((match out with
      | none => false
      | some l => !l.isEmpty, out), [])
  | it :: its, out =>
    match record out (hits it) with
    | .inl _ => ((true, none), [it])
    | .inr out =>
      let rest := regionSweepTraced hits its out
      (rest.1, it :: rest.2)

section Region

variable (hits : Nat → List Conflict)

@[simp] theorem regionSweepTraced_fst (its : List Nat) (out : Option (List Conflict)) :
    (regionSweepTraced hits its out).1 = regionSweep hits its out := by
  induction its generalizing out with
  | nil => rfl
  | cons it its ih =>
    simp only [regionSweepTraced, regionSweep]
    cases record out (hits it)
    · rfl
    · exact ih _

/-- The loop builds splines only for the segments it is given. -/
theorem mem_of_mem_regionSweepTraced {it : Nat} :
    ∀ {its : List Nat} {out : Option (List Conflict)}, it ∈ (regionSweepTraced hits its out).2 →
      it ∈ its
  | [], _, h => by simp [regionSweepTraced] at h
  | i :: its, out, h => by
    simp only [regionSweepTraced] at h
    cases hr : record out (hits i) <;> rw [hr] at h
    · exact List.mem_singleton.mp h ▸ List.mem_cons_self _ _
    · rcases List.mem_cons.mp h with rfl | h
      · exact List.mem_cons_self _ _
      · exact List.mem_cons_of_mem _ (mem_of_mem_regionSweepTraced h)

end Region

namespace Internal

variable (trajectory : Trajectory K) (region : Spacetime K) (o : Oracle K) (profile : Profile K)
  (out : Option (List Conflict))

/-- `internal::detect_conflicts`, with the iterators of the `Spline(it)` its loop builds. -/
def detectConflictsTraced :
    Except Failure (Bool × Option (List Conflict)) × List (SplineSite K) :=
  if trajectory.size < 2 then
    (.error (.invalidTrajectory (makeSegmentNumError trajectory.size 0 "")), [])
  else
    match profile.normalizedVicinity with
    | none => (pure (false, out), [])
    | some vicinity =>
      if finishTime trajectory region < startTime trajectory region then (pure (false, out), [])
      else
        let swept := regionSweepTraced (segmentHits trajectory region o vicinity)
          (segments trajectory region) (out.map fun _ => [])
        (pure swept.1, swept.2.map fun it => ⟨trajectory, it⟩)

@[simp] theorem detectConflictsTraced_fst :
    (detectConflictsTraced trajectory region o profile out).1 =
      detectConflicts trajectory region o profile out := by
  unfold detectConflictsTraced detectConflicts
  split_ifs
  · rfl
  · cases profile.normalizedVicinity <;> rfl
  · cases profile.normalizedVicinity with
    | none => rfl
    | some vicinity =>
      dsimp only
      rw [regionSweepTraced_fst]

/-- The loop of `detect_conflicts` builds splines only for segments of the trajectory. -/
theorem inside_of_mem_detectConflictsTraced :
    ∀ s ∈ (detectConflictsTraced trajectory region o profile out).2, s.Inside := by
  unfold detectConflictsTraced
  split_ifs with h2 hwin
  · simp
  · cases profile.normalizedVicinity <;> simp
  · cases profile.normalizedVicinity with
    | none => simp
    | some vicinity =>
      intro s hs
      obtain ⟨it, hit, rfl⟩ := List.mem_map.mp hs
      obtain ⟨h1, hsize, -, -⟩ := bounds_of_mem_segments (by omega) (not_lt.mp hwin)
        (mem_of_mem_regionSweepTraced _ hit)
      exact ⟨h1, hsize⟩

end Internal

/-! ## Every spline is built from two waypoints -/

/-- Every `Spline` built during `DetectConflict::Implementation::between`, by `close_start`,
`detect_invasion`, `detect_approach` or `detect_invasion` on the sliced copies, and every one
built during `internal::detect_conflicts`, comes from an iterator that is neither `begin()`
nor `end()` of its trajectory, so it reads two existing consecutive waypoints. The traced
calls return what the calls themselves return. -/
theorem splines_built_from_consecutive_waypoints (o : Oracle K) (profileA : Profile K)
    (trajectoryA : Trajectory K) (profileB : Profile K) (trajectoryB : Trajectory K)
    (out : Option (List Conflict)) (profile : Profile K) (trajectory : Trajectory K)
    (region : Spacetime K) (regionOut : Option (List Conflict)) :
    (DetectConflict.Implementation.betweenTraced o profileA trajectoryA profileB trajectoryB
        out).1 =
      DetectConflict.Implementation.between o profileA trajectoryA profileB trajectoryB out ∧
    (∀ s ∈ (DetectConflict.Implementation.betweenTraced o profileA trajectoryA profileB
        trajectoryB out).2, s.Inside ∧ s.ReadsWaypoints) ∧
    (Internal.detectConflictsTraced trajectory region o profile regionOut).1 =
      Internal.detectConflicts trajectory region o profile regionOut ∧
    ∀ s ∈ (Internal.detectConflictsTraced trajectory region o profile regionOut).2,
      s.Inside ∧ s.ReadsWaypoints :=
  ⟨betweenTraced_fst out,
    fun s hs => ⟨inside_of_mem_betweenTraced out s hs,
      SplineSite.readsWaypoints_of_inside (inside_of_mem_betweenTraced out s hs)⟩,
    Internal.detectConflictsTraced_fst trajectory region o profile regionOut,
    fun s hs => ⟨Internal.inside_of_mem_detectConflictsTraced trajectory region o profile
        regionOut s hs,
      SplineSite.readsWaypoints_of_inside
        (Internal.inside_of_mem_detectConflictsTraced trajectory region o profile regionOut s hs)⟩⟩

end RmfTraffic
