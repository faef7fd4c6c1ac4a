import RmfTraffic.Broadphase

/-!
# `detect_invasion`: the lock-step sweep

`detect_invasion` walks the segments of two trajectories in lock-step by finish time. For each
pair of concurrent segments it takes their common window `[max start, min finish]`, tests `a`'s
footprint against `b`'s vicinity and, when the profiles have vicinities of their own
(`test_complement`), `a`'s vicinity against `b`'s footprint: each test is a broadphase box
check and then, if the boxes overlap, the collision library's continuous test. A contact
becomes a conflict at `compute_time` of its fraction of the window. Then the segment that
finishes first is advanced, or both on a tie.

A call made without a list (`output_conflicts == nullptr`) returns the first conflict's time at
once; a call with a list clears it, appends every conflict, and returns the time of the first
entry. `record` is that fork, and `Outcome` is what a call leaves: the time it returns and the
content of the list.

## The abstract sweep

`sweepPairs` lists the segment pairs the loop visits when nothing cuts it short, and
`invasionFound` the conflicts they yield, in order. `invasionSweep_some` and
`invasionSweep_none` say that the sweep computes exactly these, in both modes: the list mode
appends all of them, and the early-return mode returns the first one's time. Every other result
about `detect_invasion` is read off this list.
-/

set_option autoImplicit false

namespace RmfTraffic

/-- Which trajectory an iterator points into: one the caller passed to `between`, or one of the
copies `slice_trajectory` makes inside `detect_approach`, which are destroyed when it returns. -/
inductive Owner
  | caller
  | slice
  deriving DecidableEq, Repr

/-- A `Trajectory::const_iterator`: the trajectory it belongs to and its position there. -/
structure Iter where
  owner : Owner
  index : Nat
  deriving DecidableEq, Repr

/-- `DetectConflict::Implementation::Conflict`: the segments of `a` and `b`, named by their
iterators, and the time of the conflict. -/
structure Conflict where
  aIt : Iter
  bIt : Iter
  time : Int
  deriving DecidableEq, Repr

/-- What a call leaves behind: the time it returns, and the content of `output_conflicts` when
it returns (`none` when the caller passed `nullptr`). -/
structure Outcome where
  result : Option Int
  conflicts : Option (List Conflict)
  deriving DecidableEq, Repr

/-- Recording the conflicts just found: without a list the first of them is returned at once
(`.inl`, the early `return time`), with a list they are appended and the loop goes on. -/
def record : Option (List Conflict) → List Conflict → Int ⊕ Option (List Conflict)
  | none, c :: _ => .inl c.time
  | none, [] => .inr none
  | some l, found => .inr (some (l ++ found))

/-- The end of both loops: no list, or an empty one, returns `nullopt`; otherwise the time of
the list's first entry. -/
def afterLoop (out : Option (List Conflict)) : Outcome :=
  ⟨out.bind fun l => l.head?.map (·.time), out⟩

variable {K : Type}

/-- The step of both lock-step loops: advance the segment that finishes first, or both. -/
def advance (splineA splineB : Spline K) (aIt bIt : Nat) : Nat × Nat :=
  if splineA.finishTime < splineB.finishTime then (aIt + 1, bIt)
  else if splineB.finishTime < splineA.finishTime then (aIt, bIt + 1)
  else (aIt + 1, bIt + 1)

/-- Each step moves at least one iterator, and each by at most one. -/
theorem advance_bounds (splineA splineB : Spline K) (aIt bIt : Nat) :
    aIt ≤ (advance splineA splineB aIt bIt).1 ∧ (advance splineA splineB aIt bIt).1 ≤ aIt + 1 ∧
      bIt ≤ (advance splineA splineB aIt bIt).2 ∧ (advance splineA splineB aIt bIt).2 ≤ bIt + 1 ∧
      aIt + bIt < (advance splineA splineB aIt bIt).1 + (advance splineA splineB aIt bIt).2 := by
  unfold advance
  split_ifs <;> simp only <;> omega

section Pairs

variable [LinearOrderedField K] (trajectoryA trajectoryB : Trajectory K)

/-- The segment pairs the lock-step loop visits from `(aIt, bIt)` when no `return` cuts it
short. -/
def sweepPairs (aIt bIt : Nat) : List (Nat × Nat) :=
  if _h : aIt < trajectoryA.size ∧ bIt < trajectoryB.size then
    (aIt, bIt) :: sweepPairs (advance (trajectoryA.spline aIt) (trajectoryB.spline bIt) aIt bIt).1
      (advance (trajectoryA.spline aIt) (trajectoryB.spline bIt) aIt bIt).2
  else []
termination_by trajectoryA.size - aIt + (trajectoryB.size - bIt)
decreasing_by
  have := advance_bounds (trajectoryA.spline aIt) (trajectoryB.spline bIt) aIt bIt
  omega

variable {trajectoryA trajectoryB}

theorem sweepPairs_of_lt {aIt bIt : Nat} (h : aIt < trajectoryA.size ∧ bIt < trajectoryB.size) :
    sweepPairs trajectoryA trajectoryB aIt bIt =
      (aIt, bIt) :: sweepPairs trajectoryA trajectoryB
        (advance (trajectoryA.spline aIt) (trajectoryB.spline bIt) aIt bIt).1
        (advance (trajectoryA.spline aIt) (trajectoryB.spline bIt) aIt bIt).2 := by
  rw [sweepPairs, dif_pos h]

theorem sweepPairs_of_not_lt {aIt bIt : Nat}
    (h : ¬ (aIt < trajectoryA.size ∧ bIt < trajectoryB.size)) :
    sweepPairs trajectoryA trajectoryB aIt bIt = [] := by
  rw [sweepPairs, dif_neg h]

end Pairs

variable [LinearOrderedField K] [FloorRing K]

/-- `Duration::rep(x)`: a `double` converted to an integer count, toward zero. -/
def truncate (x : K) : Int := if 0 ≤ x then ⌊x⌋ else ⌈x⌉

/-- `compute_time`: the time a fraction of the window `[startTime, finishTime]` stands for. -/
def computeTime (scaledTime : K) (startTime finishTime : Int) : Int :=
  startTime + truncate (scaledTime * ((finishTime - startTime : Int) : K))

/-- The window two concurrent splines share: `[max start, min finish]`. -/
def window (splineA splineB : Spline K) : Int × Int :=
  (max splineA.startTime splineB.startTime, min splineA.finishTime splineB.finishTime)

/-- `check_collision`: the collision library's continuous test of two shapes moving along
their splines over the window, as the fraction of the window at first contact. -/
def checkCollision (o : Oracle K) (shapeA : FinalConvexShape K) (splineA : Spline K)
    (shapeB : FinalConvexShape K) (splineB : Spline K) (startTime finishTime : Int) :
    Option K :=
  o.continuousCollide shapeA splineA shapeB splineB startTime finishTime

/-- One test of `detect_invasion`: the narrowphase runs only when the boxes overlap. A shape is
dereferenced only behind that check, and the box of an absent shape, `void_box()`, overlaps
nothing, so the last arm is never reached. -/
def invasionTest (o : Oracle K) (shapeA : Option (FinalConvexShape K))
    (boxA : Option (BoundingBox K)) (splineA : Spline K) (shapeB : Option (FinalConvexShape K))
    (boxB : Option (BoundingBox K)) (splineB : Spline K) (aIt bIt : Iter) : List Conflict :=
  if overlap boxA boxB then
    match shapeA, shapeB with
    | some x, some y =>
      let (startTime, finishTime) := window splineA splineB
      ((checkCollision o x splineA y splineB startTime finishTime).map fun collision =>
        ⟨aIt, bIt, computeTime collision startTime finishTime⟩).toList
    | _, _ => []
  else []

/-- `test_complement`: a profile whose vicinity is not its footprint needs the second test. -/
def testComplement (profileA profileB : Profile K) : Bool :=
  profileA.vicinity != profileA.footprint || profileB.vicinity != profileB.footprint

/-- The conflicts one segment pair yields, in the order `detect_invasion` finds them. -/
def invasionHits (o : Oracle K) (profileA : Profile K) (splineA : Spline K)
    (profileB : Profile K) (splineB : Spline K) (aIt bIt : Iter) : List Conflict :=
  let boundA := getBoundingProfile o.sqrt splineA profileA
  let boundB := getBoundingProfile o.sqrt splineB profileB
  invasionTest o profileA.footprint boundA.footprint splineA profileB.vicinity boundB.vicinity
      splineB aIt bIt ++
    if testComplement profileA profileB then
      invasionTest o profileA.vicinity boundA.vicinity splineA profileB.footprint
        boundB.footprint splineB aIt bIt
    else []

section Sweep

variable (o : Oracle K) (profileA : Profile K) (trajectoryA : Trajectory K)
  (profileB : Profile K) (trajectoryB : Trajectory K) (owner : Owner)

/-- The loop of `detect_invasion`, from the iterators `aIt` and `bIt` of trajectories that
belong to `owner`. -/
def invasionSweep (aIt bIt : Nat) (out : Option (List Conflict)) : Outcome :=
  if _h : aIt < trajectoryA.size ∧ bIt < trajectoryB.size then
    let splineA := trajectoryA.spline aIt
    let splineB := trajectoryB.spline bIt
    match record out (invasionHits o profileA splineA profileB splineB ⟨owner, aIt⟩
        ⟨owner, bIt⟩) with
    | .inl time => ⟨some time, none⟩
    | .inr out =>
      invasionSweep (advance splineA splineB aIt bIt).1 (advance splineA splineB aIt bIt).2 out
  else afterLoop out
termination_by trajectoryA.size - aIt + (trajectoryB.size - bIt)
decreasing_by
  have := advance_bounds (trajectoryA.spline aIt) (trajectoryB.spline bIt) aIt bIt
  omega

/-- `detect_invasion`: clear the list, then sweep. -/
def detectInvasion (aIt bIt : Nat) (out : Option (List Conflict)) : Outcome :=
  invasionSweep o profileA trajectoryA profileB trajectoryB owner aIt bIt (out.map fun _ => [])

/-- The conflicts the sweep finds from `(aIt, bIt)`, in the order it finds them. -/
def invasionFound (aIt bIt : Nat) : List Conflict :=
  (sweepPairs trajectoryA trajectoryB aIt bIt).flatMap fun p =>
    invasionHits o profileA (trajectoryA.spline p.1) profileB (trajectoryB.spline p.2)
      ⟨owner, p.1⟩ ⟨owner, p.2⟩

variable {o profileA trajectoryA profileB trajectoryB owner}

theorem invasionSweep_of_lt {aIt bIt : Nat} (h : aIt < trajectoryA.size ∧ bIt < trajectoryB.size)
    (out : Option (List Conflict)) :
    invasionSweep o profileA trajectoryA profileB trajectoryB owner aIt bIt out =
      match record out (invasionHits o profileA (trajectoryA.spline aIt) profileB
          (trajectoryB.spline bIt) ⟨owner, aIt⟩ ⟨owner, bIt⟩) with
      | .inl time => ⟨some time, none⟩
      | .inr out => invasionSweep o profileA trajectoryA profileB trajectoryB owner
          (advance (trajectoryA.spline aIt) (trajectoryB.spline bIt) aIt bIt).1
          (advance (trajectoryA.spline aIt) (trajectoryB.spline bIt) aIt bIt).2 out := by
  rw [invasionSweep, dif_pos h]

theorem invasionSweep_of_not_lt {aIt bIt : Nat}
    (h : ¬ (aIt < trajectoryA.size ∧ bIt < trajectoryB.size)) (out : Option (List Conflict)) :
    invasionSweep o profileA trajectoryA profileB trajectoryB owner aIt bIt out = afterLoop out := by
  rw [invasionSweep, dif_neg h]

/-! ## The sweep computes the conflicts found -/

/-- With a list, the sweep appends every conflict found and returns the first entry's time. -/
theorem invasionSweep_some (aIt bIt : Nat) (l : List Conflict) :
    invasionSweep o profileA trajectoryA profileB trajectoryB owner aIt bIt (some l) =
      afterLoop (some (l ++ invasionFound o profileA trajectoryA profileB trajectoryB owner
        aIt bIt)) := by
  induction aIt, bIt using sweepPairs.induct trajectoryA trajectoryB generalizing l with
  | case1 aIt bIt h ih =>
    rw [invasionSweep_of_lt h, invasionFound, sweepPairs_of_lt h, List.flatMap_cons,
      ← List.append_assoc]
    exact ih _
  | case2 aIt bIt h =>
    rw [invasionSweep_of_not_lt h, invasionFound, sweepPairs_of_not_lt h]
    simp

/-- Without a list, the sweep returns the time of the first conflict found. -/
theorem invasionSweep_none (aIt bIt : Nat) :
    invasionSweep o profileA trajectoryA profileB trajectoryB owner aIt bIt none =
      ⟨(invasionFound o profileA trajectoryA profileB trajectoryB owner aIt bIt).head?.map
        (·.time), none⟩ := by
  induction aIt, bIt using sweepPairs.induct trajectoryA trajectoryB with
  | case1 aIt bIt h ih =>
    rw [invasionSweep_of_lt h, invasionFound, sweepPairs_of_lt h, List.flatMap_cons]
    cases hhits : invasionHits o profileA (trajectoryA.spline aIt) profileB
      (trajectoryB.spline bIt) ⟨owner, aIt⟩ ⟨owner, bIt⟩ with
    | nil => exact ih
    | cons c cs => rfl
  | case2 aIt bIt h =>
    rw [invasionSweep_of_not_lt h, invasionFound, sweepPairs_of_not_lt h]
    rfl

end Sweep

end RmfTraffic
