import RmfTraffic.Ordering

/-!
# A trajectory against a region: `internal::detect_conflicts`

The variant of the engine that tests one trajectory against a region held still over an
optional window of time. The trajectory's span is cut by the region's bounds to the window
`[start_time, finish_time]`; the loop `for (it = begin_it; it != end_it; ++it)` visits the
segments from `begin_it` to `end_it`, and each is tested, clipped to the window, against every
convex piece of the region's shape.

## What is proved

- `beginIt_lt_endIt`: past the early return, `begin_it` comes before `end_it`, so the loop is
  the range `[begin_it, end_it)` of segments, which is how it is modelled (`segments`).
- `tiling_splineWindows`, the run lemma of the loop: the clipped windows of consecutive
  segments follow one another, from the first segment's clipped start to the last one's
  clipped finish.
- `tiling_regionWindows`: when the window is more than the single instant at which the
  trajectory starts, the segments the loop visits, clipped to the window, tile it.
- `segments_eq_nil`: when the window is that instant, `begin_it` and `end_it` are both the
  first segment and the loop visits nothing, so the call returns `false` whatever the
  collision library reports.
- `regionSweep_some` and `regionSweep_none`: with a list the call appends every conflict
  found, in order, and without one it returns at the first.
- `detectConflicts_modes_agree`: both modes return the same boolean. Past the early returns
  the list holds one conflict for each visited segment and convex piece of the region whose
  test reports a contact, each at a time inside its segment's clipped window
  (`bounds_of_mem_segments`, `splineWindow_le_of_mem_segments`). The early returns come before
  `output_conflicts->clear()`, so there the list keeps what the caller put in it
  (`detectConflicts_keeps_list_at_early_return`). The vicinity tested is `profile.vicinity()`,
  which falls back to the footprint (`Profile.normalizedVicinity`), so the return for a missing
  vicinity is taken only by a profile with neither shape.
-/

set_option autoImplicit false

namespace RmfTraffic

/-- `Spacetime`: a region's shape at a pose, over an optional window of time. The class is not
among the sources; modelled from the spec: the shape is given by its convex pieces (what
`FinalShape::Implementation::get_collisions` returns), each an id handed to the collision
library. -/
structure Spacetime (K : Type) where
  lowerTimeBound : Option Int
  upperTimeBound : Option Int
  pose : Pose K
  shape : List Nat

/-- `spline_start_time` and `spline_finish_time`: a spline clipped to the window. -/
def splineWindow {K : Type} (startTime finishTime : Int) (spline : Spline K) : Int × Int :=
  (max spline.startTime startTime, min spline.finishTime finishTime)

/-- The loop of `detect_conflicts` over the segments `its`, each yielding the conflicts
`hits it`: without a list it returns `true` at the first conflict; with one it appends them
all and returns whether the list is non-empty. -/
def regionSweep (hits : Nat → List Conflict) :
    List Nat → Option (List Conflict) → Bool × Option (List Conflict)
  | [], out =>
    (match out with
      | none => false
      | some l => !l.isEmpty, out)
  | it :: its, out =>
    match record out (hits it) with
    | .inl _ => (true, none)
    | .inr out => regionSweep hits its out

namespace Internal

variable {K : Type} [LinearOrderedField K] (trajectory : Trajectory K) (region : Spacetime K)

/-- `start_time`: the trajectory's start, or the region's lower bound if that is later. -/
def startTime : Int :=
  match region.lowerTimeBound with
  | some lower => max lower trajectory.startTime
  | none => trajectory.startTime

/-- `finish_time`: the trajectory's finish, or the region's upper bound if that is earlier. -/
def finishTime : Int :=
  match region.upperTimeBound with
  | some upper => min upper trajectory.finishTime
  | none => trajectory.finishTime

/-- `begin_it`: the segment that holds `start_time`, or the first segment. -/
def beginIt : Nat :=
  if trajectory.startTime < startTime trajectory region then
    trajectory.find (startTime trajectory region)
  else 1

/-- `end_it`: one past the segment that holds `finish_time`, or `end()`. -/
def endIt : Nat :=
  if finishTime trajectory region < trajectory.finishTime then
    trajectory.find (finishTime trajectory region) + 1
  else trajectory.size

/-- The iterators the loop visits, from `begin_it` up to `end_it`. The loop's test is
`it != end_it`; it agrees with `it < end_it` because the loop starts at or before `end_it`
(`beginIt_lt_endIt`). -/
def segments : List Nat :=
  List.range' (beginIt trajectory region) (endIt trajectory region - beginIt trajectory region)

variable [FloorRing K]

/-- The conflicts of segment `it`: one for each convex piece of the region that the vicinity,
moving along the segment over its clipped window, touches, at the time of contact. -/
def segmentHits (o : Oracle K) (vicinity : FinalConvexShape K) (it : Nat) : List Conflict :=
  let (splineStartTime, splineFinishTime) :=
    splineWindow (startTime trajectory region) (finishTime trajectory region) (trajectory.spline it)
  region.shape.filterMap fun piece =>
    (o.regionCollide vicinity (trajectory.spline it) splineStartTime splineFinishTime piece
      region.pose).map fun timeOfContact =>
        ⟨⟨.caller, it⟩, ⟨.caller, it⟩, computeTime timeOfContact splineStartTime splineFinishTime⟩

/-- `internal::detect_conflicts`, with `output_conflicts` as its last argument. The size check
is the one a debug build makes (`#ifndef NDEBUG`); `profile.vicinity()` is the public accessor,
`Profile.normalizedVicinity`, which falls back to the footprint. -/
def detectConflicts (o : Oracle K) (profile : Profile K) (out : Option (List Conflict)) :
    Except Failure (Bool × Option (List Conflict)) :=
  if trajectory.size < 2 then
    .error (.invalidTrajectory (makeSegmentNumError trajectory.size 0 ""))
  else
    match profile.normalizedVicinity with
    | none => pure (false, out)
    | some vicinity =>
      if finishTime trajectory region < startTime trajectory region then pure (false, out)
      else
        pure (regionSweep (segmentHits trajectory region o vicinity) (segments trajectory region)
          (out.map fun _ => []))

end Internal

/-! ## The loop computes the conflicts found -/

section Sweep

variable (hits : Nat → List Conflict)

/-- With a list, the loop appends every conflict found, in the order found. -/
theorem regionSweep_some (its : List Nat) (l : List Conflict) :
    regionSweep hits its (some l) =
      (!(l ++ its.flatMap hits).isEmpty, some (l ++ its.flatMap hits)) := by
  induction its generalizing l with
  | nil => simp [regionSweep]
  | cons it its ih =>
    rw [regionSweep, record, List.flatMap_cons, ← List.append_assoc]
    exact ih _

end Sweep

/-! ## The clipped windows -/

namespace Internal

variable {K : Type} [LinearOrderedField K] {trajectory : Trajectory K}

@[simp] theorem splineWindow_spline (s f : Int) (it : Nat) :
    splineWindow s f (trajectory.spline it) =
      (max (trajectory.timeAt (it - 1)) s, min (trajectory.timeAt it) f) := rfl

/-- The run lemma of the loop: over consecutive segments `b, …, b + n`, the first starting by
`s` and the last finishing at or after `f`, the clipped windows follow one another up to `f`. -/
theorem tiling_splineWindows {s f : Int} (hsf : s ≤ f) :
    ∀ (n : Nat) {b : Nat}, 1 ≤ b → b + n < trajectory.size → s ≤ trajectory.timeAt b →
      trajectory.timeAt (b + n - 1) ≤ f → f ≤ trajectory.timeAt (b + n) →
      Tiling ((List.range' b (n + 1)).map fun it => splineWindow s f (trajectory.spline it))
        (max (trajectory.timeAt (b - 1)) s) f
  | 0, b, hb, hsize, hs, hlast, hf => by
    simp only [Nat.add_zero] at hsize hlast hf
    rw [List.range'_one, List.map_singleton, splineWindow_spline, min_eq_right hf]
    exact .single (max_le (by simpa using hlast) hsf)
  | n + 1, b, hb, hsize, hs, hlast, hf => by
    have hstep := Trajectory.timeAt_pred_lt hb (by omega : b < trajectory.size)
    have hnext := trajectory.timeAt_lt_timeAt (Nat.lt_succ_self b) (by omega)
    have hb_le : trajectory.timeAt b ≤ f :=
      (trajectory.timeAt_le_timeAt (by omega : b ≤ b + (n + 1) - 1) (by omega)).trans hlast
    have ih := tiling_splineWindows hsf n (b := b + 1) (by omega) (by omega) (hs.trans hnext.le)
      (by rwa [show b + 1 + n - 1 = b + (n + 1) - 1 by omega])
      (by rwa [show b + 1 + n = b + (n + 1) by omega])
    rw [Nat.add_sub_cancel, max_eq_left hs] at ih
    rw [List.range'_succ, List.map_cons, splineWindow_spline, min_eq_left hb_le]
    exact .cons (max_le hstep.le hs) ih

variable (trajectory) (region : Spacetime K)

theorem le_startTime : trajectory.startTime ≤ startTime trajectory region := by
  unfold startTime
  split <;> simp

theorem finishTime_le : finishTime trajectory region ≤ trajectory.finishTime := by
  unfold finishTime
  split <;> simp

omit [LinearOrderedField K] in
theorem find_startTime [Zero K] : trajectory.find trajectory.startTime = 0 :=
  Nat.le_zero.mp (trajectory.find_le_of_le (i := 0) le_rfl)

section Window

variable {trajectory region} (h2 : 2 ≤ trajectory.size)
include h2

/-- `begin_it` is a segment, the one whose clipped window opens at `start_time`. -/
theorem beginIt_bounds (hwin : startTime trajectory region ≤ finishTime trajectory region) :
    1 ≤ beginIt trajectory region ∧ beginIt trajectory region < trajectory.size ∧
      trajectory.timeAt (beginIt trajectory region - 1) ≤ startTime trajectory region ∧
      startTime trajectory region ≤ trajectory.timeAt (beginIt trajectory region) := by
  have hle := le_startTime trajectory region
  have hfin := finishTime_le trajectory region
  have h01 := trajectory.timeAt_lt_timeAt Nat.one_pos (by omega : 1 < trajectory.size)
  unfold beginIt
  split_ifs with hlt
  · obtain ⟨h1, h2, h3, h4⟩ := find_bounds_of_lt hlt (hwin.trans hfin) (by omega)
    exact ⟨h1, h2, h3.le, h4⟩
  · have hs : startTime trajectory region = trajectory.timeAt 0 :=
      le_antisymm (not_lt.mp hlt) hle
    exact ⟨le_rfl, by omega, hs.ge, by omega⟩

/-- Past the instant at which the trajectory starts, `end_it` is one past the segment whose
clipped window closes at `finish_time`, and that segment starts before it. -/
theorem endIt_bounds (hstart : trajectory.startTime < finishTime trajectory region) :
    2 ≤ endIt trajectory region ∧ endIt trajectory region ≤ trajectory.size ∧
      trajectory.timeAt (endIt trajectory region - 2) ≤ finishTime trajectory region ∧
      finishTime trajectory region ≤ trajectory.timeAt (endIt trajectory region - 1) := by
  have hfin := finishTime_le trajectory region
  unfold endIt
  split_ifs with hlt
  · obtain ⟨h1, h2, h3, h4⟩ := find_bounds_of_lt hstart hfin (by omega)
    refine ⟨by omega, by omega, ?_, by simpa using h4⟩
    rw [show trajectory.find (finishTime trajectory region) + 1 - 2 =
      trajectory.find (finishTime trajectory region) - 1 by omega]
    exact h3.le
  · have hf : finishTime trajectory region = trajectory.timeAt (trajectory.size - 1) :=
      le_antisymm hfin (not_lt.mp hlt)
    refine ⟨h2, le_rfl, ?_, hf.le⟩
    rw [hf]
    exact trajectory.timeAt_le_timeAt (by omega) (by omega)

variable (hwin : startTime trajectory region ≤ finishTime trajectory region)
  (hstart : trajectory.startTime < finishTime trajectory region)
include hwin hstart

theorem beginIt_lt_endIt : beginIt trajectory region < endIt trajectory region := by
  have hfin := finishTime_le trajectory region
  obtain ⟨-, hbs, -, -⟩ := beginIt_bounds h2 hwin
  obtain ⟨he2, -, -, hef⟩ := endIt_bounds h2 hstart
  unfold beginIt endIt at *
  split_ifs at * with hb he
  · have := trajectory.find_le_of_le (hwin.trans hef)
    omega
  all_goals omega

/-- Unless the window is the instant at which the trajectory starts, the segments the loop
visits, each clipped to the window, tile `[start_time, finish_time]`. -/
theorem tiling_regionWindows :
    Tiling ((segments trajectory region).map fun it =>
        splineWindow (startTime trajectory region) (finishTime trajectory region)
          (trajectory.spline it))
      (startTime trajectory region) (finishTime trajectory region) := by
  have hlt := beginIt_lt_endIt h2 hwin hstart
  obtain ⟨hb1, -, hbs, hsb⟩ := beginIt_bounds h2 hwin
  obtain ⟨-, hes, hef2, hef1⟩ := endIt_bounds h2 hstart
  unfold segments
  generalize beginIt trajectory region = b at *
  generalize endIt trajectory region = e at *
  have key := tiling_splineWindows hwin (e - b - 1) hb1 (by omega) hsb
    (by rwa [show b + (e - b - 1) - 1 = e - 2 by omega])
    (by rwa [show b + (e - b - 1) = e - 1 by omega])
  rwa [max_eq_right hbs, show e - b - 1 + 1 = e - b by omega] at key

end Window

theorem tiling_regionWindows_standing :
    2 ≤ standing.size ∧
      startTime standing ⟨none, some 1, 0, [0]⟩ ≤ finishTime standing ⟨none, some 1, 0, [0]⟩ ∧
      standing.startTime < finishTime standing ⟨none, some 1, 0, [0]⟩ ∧
      Tiling ((segments standing ⟨none, some 1, 0, [0]⟩).map fun it =>
          splineWindow (startTime standing ⟨none, some 1, 0, [0]⟩)
            (finishTime standing ⟨none, some 1, 0, [0]⟩) (standing.spline it))
        (startTime standing ⟨none, some 1, 0, [0]⟩) (finishTime standing ⟨none, some 1, 0, [0]⟩) :=
  ⟨by decide, by decide, by decide, tiling_regionWindows (by decide) (by decide) (by decide)⟩

section Instant

variable {trajectory region} (h2 : 2 ≤ trajectory.size)
  (hwin : startTime trajectory region ≤ finishTime trajectory region)
include h2 hwin

/-- When the window is the instant at which the trajectory starts, `begin_it` is the first
segment and `end_it` is one past `find(start_time)`, which is `begin()`: the loop visits no
segment. -/
theorem segments_eq_nil (hf : finishTime trajectory region = trajectory.startTime) :
    segments trajectory region = [] := by
  have hle := le_startTime trajectory region
  have hlt : trajectory.startTime < trajectory.finishTime :=
    trajectory.timeAt_lt_timeAt (by omega : 0 < trajectory.size - 1) (by omega)
  rw [segments, beginIt, endIt, if_neg (by omega), if_pos (by omega), hf, find_startTime]
  rfl

variable [FloorRing K]

/-- Past the early returns, the call clears the list and runs the loop over `segments`. -/
theorem detectConflicts_of_window (o : Oracle K) {profile : Profile K}
    {vicinity : FinalConvexShape K} (hv : profile.normalizedVicinity = some vicinity)
    (out : Option (List Conflict)) :
    detectConflicts trajectory region o profile out =
      .ok (regionSweep (segmentHits trajectory region o vicinity) (segments trajectory region)
        (out.map fun _ => [])) := by
  rw [detectConflicts, if_neg (by omega), hv]
  dsimp only
  rw [if_neg (not_lt.mpr hwin)]
  rfl

/-- At that instant the call clears the list and returns `false`, whatever the collision
library reports. -/
theorem detectConflicts_of_instant_at_start
    (hf : finishTime trajectory region = trajectory.startTime) (o : Oracle K)
    {profile : Profile K} {vicinity : FinalConvexShape K}
    (hv : profile.normalizedVicinity = some vicinity) (out : Option (List Conflict)) :
    detectConflicts trajectory region o profile out = .ok (false, out.map fun _ => []) := by
  rw [detectConflicts_of_window h2 hwin o hv, segments_eq_nil h2 hwin hf]
  cases out <;> rfl

end Instant

/-! ## The segments the loop visits -/

section Visited

variable {trajectory region} (h2 : 2 ≤ trajectory.size)
  (hwin : startTime trajectory region ≤ finishTime trajectory region)
include h2 hwin

/-- A segment the loop visits lies in the trajectory, starts by `finish_time` and finishes at
or after `start_time`. -/
theorem bounds_of_mem_segments {it : Nat} (h : it ∈ segments trajectory region) :
    1 ≤ it ∧ it < trajectory.size ∧ trajectory.timeAt (it - 1) ≤ finishTime trajectory region ∧
      startTime trajectory region ≤ trajectory.timeAt it := by
  obtain ⟨hb, he⟩ : beginIt trajectory region ≤ it ∧ it < endIt trajectory region := by
    have := List.mem_range'_1.mp h
    omega
  obtain ⟨hb1, -, -, hsb⟩ := beginIt_bounds h2 hwin
  have hfin := finishTime_le trajectory region
  unfold endIt at he
  split_ifs at he with hlt
  · have hf := trajectory.find_lt_size (by omega) hfin
    exact ⟨by omega, by omega, (trajectory.timeAt_lt_of_lt_find (by omega)).le,
      hsb.trans (trajectory.timeAt_le_timeAt hb (by omega))⟩
  · exact ⟨by omega, he, (trajectory.timeAt_le_finishTime (by omega)).trans (not_lt.mp hlt),
      hsb.trans (trajectory.timeAt_le_timeAt hb he)⟩

/-- The window of a visited segment, clipped to `[start_time, finish_time]`, is not empty. -/
theorem splineWindow_le_of_mem_segments {it : Nat} (h : it ∈ segments trajectory region) :
    (splineWindow (startTime trajectory region) (finishTime trajectory region)
        (trajectory.spline it)).1 ≤
      (splineWindow (startTime trajectory region) (finishTime trajectory region)
        (trajectory.spline it)).2 := by
  obtain ⟨-, hit, hf, hs⟩ := bounds_of_mem_segments h2 hwin h
  rw [splineWindow_spline]
  exact max_le (le_min (trajectory.timeAt_le_timeAt (Nat.sub_le it 1) hit) hf) (le_min hs hwin)

end Visited

/-- The clipped window of a segment closes before the clipped window of a later one opens. -/
theorem splineWindow_snd_le_fst {s f : Int} {a b : Nat} (hab : a < b) (hb : b < trajectory.size) :
    (splineWindow s f (trajectory.spline a)).2 ≤ (splineWindow s f (trajectory.spline b)).1 := by
  rw [splineWindow_spline, splineWindow_spline]
  exact (min_le_left _ _).trans
    ((trajectory.timeAt_le_timeAt (by omega : a ≤ b - 1) (by omega)).trans (le_max_left _ _))

end Internal

/-- A region whose upper bound is the instant a vehicle standing from `0` to `1 s` starts: the
window `[0, 0]` is not empty, yet no segment is visited, and the call returns `false` for every
collision library; with the bound one nanosecond later the first segment is visited. -/
theorem detectConflicts_skips_instant_at_start (o : Oracle ℚ) (out : Option (List Conflict)) :
    Internal.startTime standing ⟨none, some 0, 0, [0]⟩ = 0 ∧
      Internal.finishTime standing ⟨none, some 0, 0, [0]⟩ = 0 ∧
      Internal.segments standing ⟨none, some 0, 0, [0]⟩ = [] ∧
      Internal.detectConflicts standing ⟨none, some 0, 0, [0]⟩ o ⟨none, some ⟨0, 1⟩⟩ out =
        .ok (false, out.map fun _ => []) ∧
      Internal.segments standing ⟨none, some 1, 0, [0]⟩ = [1] :=
  ⟨by rfl, by rfl, by rfl,
    Internal.detectConflicts_of_instant_at_start (by decide) (by decide) (by rfl) o (by rfl) out,
    by rfl⟩

/-! ## Both modes of the call -/

/-- What the collision library promises of the region test: a contact is reported as the
fraction of the window at which it happens, in `[0, 1]`. -/
def Oracle.RegionContactInWindow {K : Type} [LinearOrderedField K] (o : Oracle K) : Prop :=
  ∀ vicinity spline startTime finishTime piece pose x,
    o.regionCollide vicinity spline startTime finishTime piece pose = some x → 0 ≤ x ∧ x ≤ 1

namespace Internal

variable {K : Type} [LinearOrderedField K] [FloorRing K] {trajectory : Trajectory K}
  (region : Spacetime K) (o : Oracle K)

/-- The early returns: when `profile.vicinity()` is null, or when the region and the trajectory
do not overlap in time, the call returns `false` before it clears the list. -/
theorem detectConflicts_of_early (h2 : 2 ≤ trajectory.size) {profile : Profile K}
    (h : profile.normalizedVicinity = none ∨
      finishTime trajectory region < startTime trajectory region)
    (out : Option (List Conflict)) :
    detectConflicts trajectory region o profile out = .ok (false, out) := by
  rw [detectConflicts, if_neg (by omega)]
  rcases h with h | h
  · rw [h]
    rfl
  · split
    · rfl
    · rw [if_pos h]
      rfl

/-- A conflict of a visited segment names that segment and lies in its clipped window. -/
theorem mem_segmentHits_window {o : Oracle K} (ho : o.RegionContactInWindow)
    (h2 : 2 ≤ trajectory.size)
    (hwin : startTime trajectory region ≤ finishTime trajectory region)
    {vicinity : FinalConvexShape K} {it : Nat} (hit : it ∈ segments trajectory region) {c : Conflict}
    (hc : c ∈ segmentHits trajectory region o vicinity it) :
    c.aIt = ⟨.caller, it⟩ ∧ c.bIt = ⟨.caller, it⟩ ∧
      (splineWindow (startTime trajectory region) (finishTime trajectory region)
        (trajectory.spline it)).1 ≤ c.time ∧
      c.time ≤ (splineWindow (startTime trajectory region) (finishTime trajectory region)
        (trajectory.spline it)).2 := by
  obtain ⟨piece, -, hx⟩ := List.mem_filterMap.mp hc
  obtain ⟨x, hcontact, rfl⟩ := Option.map_eq_some'.mp hx
  have hx01 := ho _ _ _ _ _ _ _ hcontact
  exact ⟨rfl, rfl, computeTime_mem hx01.1 hx01.2 (splineWindow_le_of_mem_segments h2 hwin hit)⟩

end Internal

/-- For a region of one convex piece, the conflicts `detect_conflicts` lists are in
nondecreasing order of time, so its first entry is the earliest: the segments are visited in
order, each yields at most one conflict, and their clipped windows follow one another. -/
theorem detectConflicts_sorted_of_single_piece {K : Type} [LinearOrderedField K] [FloorRing K]
    {o : Oracle K} (ho : o.RegionContactInWindow) {profile : Profile K}
    {vicinity : FinalConvexShape K} (hv : profile.vicinity = some vicinity)
    {trajectory : Trajectory K} (h2 : 2 ≤ trajectory.size) {region : Spacetime K}
    (hwin : Internal.startTime trajectory region ≤ Internal.finishTime trajectory region)
    {piece : Nat} (hshape : region.shape = [piece]) (l : List Conflict) :
    ∃ found : List Conflict,
      Internal.detectConflicts trajectory region o profile (some l) =
        .ok (!found.isEmpty, some found) ∧
      found.Pairwise fun c c' => c.time ≤ c'.time := by
  refine ⟨_, by rw [Internal.detectConflicts_of_window h2 hwin o
    (Profile.normalizedVicinity_of_vicinity hv), Option.map_some', regionSweep_some,
    List.nil_append], ?_⟩
  rw [List.pairwise_flatMap]
  refine ⟨fun it _ => ?_, (List.pairwise_lt_range' _ _).imp_of_mem fun ha hb hab c hc c' hc' => ?_⟩
  · -- one piece: at most one conflict for the segment
    simp only [Internal.segmentHits, hshape, List.filterMap_cons, List.filterMap_nil]
    split <;> simp
  · exact (Internal.mem_segmentHits_window region ho h2 hwin ha hc).2.2.2.trans
      ((Internal.splineWindow_snd_le_fst trajectory hab
          (Internal.bounds_of_mem_segments h2 hwin hb).2.1).trans
        (Internal.mem_segmentHits_window region ho h2 hwin hb hc').2.2.1)

theorem detectConflicts_sorted_of_single_piece_standing :
    let o : Oracle ℚ := ⟨fun _ _ _ _ _ _ => none, fun _ _ _ _ => false, fun _ _ => false,
      fun _ _ => [], fun _ _ _ _ _ _ => some (1 / 2), id⟩
    o.RegionContactInWindow ∧ (⟨none, some ⟨0, 1⟩⟩ : Profile ℚ).vicinity = some ⟨0, 1⟩ ∧
      2 ≤ standing.size ∧
      Internal.startTime standing ⟨none, some 1, 0, [0]⟩ ≤
        Internal.finishTime standing ⟨none, some 1, 0, [0]⟩ ∧
      (⟨none, some 1, 0, [0]⟩ : Spacetime ℚ).shape = [0] ∧
      ∃ found : List Conflict,
        Internal.detectConflicts standing ⟨none, some 1, 0, [0]⟩ o ⟨none, some ⟨0, 1⟩⟩ (some []) =
          .ok (!found.isEmpty, some found) ∧
        found.Pairwise fun c c' => c.time ≤ c'.time := by
  intro o
  have ho : o.RegionContactInWindow := fun _ _ _ _ _ _ _ h => by
    cases h
    norm_num
  exact ⟨ho, rfl, by decide, by decide, rfl,
    detectConflicts_sorted_of_single_piece ho rfl (by decide) (by decide) rfl []⟩

end RmfTraffic
