import RmfTraffic.Ordering

/-!
# The two modes of `between`, and the hand-off

`DetectConflict::Implementation::between` runs in two modes: with `output_conflicts` it collects
every conflict and returns the time of the first one it listed, and with `nullptr` it returns the
first conflict's time at once. `detect_invasion` makes the two agree: it clears the list first,
and then appends exactly the conflicts whose first one the other mode returns.

`detect_approach` does not clear the list, and when it hands over to `detect_invasion` on
copies of the trajectories sliced at an approach time, that call clears the list and fills it
from the copies: the conflicts `detect_approach` recorded are gone, and the iterators of the
new ones point into the copies, which are destroyed when `detect_approach` returns.

## What is proved

- `detectInvasion_some`, `detectInvasion_none`: both modes of `detect_invasion` in terms of the
  conflicts it finds, so `between_modes_of_not_closeStart` holds: on the invasion path the modes
  return the same time and the list holds exactly the conflicts found.
- `invasionFound_in_segments`: on the invasion path every conflict names a segment of each
  caller's trajectory, and lies in the time span of both.
- `handOff_conflicts`: after a hand-off, the list holds what the sliced copies yielded, whatever
  it held before, and every entry names the copies.
- `between_handOff_modes_differ` and `between_handOff_records_slices`: with the disc library of
  `RmfTraffic.Discs`, a vehicle that starts within reach of a standing one, closes in, turns
  away, and at `0.75 s` turns back from `145/32 m` and returns. The distance differential
  reports the two approaching at the start and at `0.75 s`, the turning point, where they are
  apart. Without a list `between` returns `0 s`; with one it returns `0.875 s`, when the
  returning vehicle is back within reach, the list holding that one conflict, named by
  iterators of the copies.
-/

set_option autoImplicit false

namespace RmfTraffic

variable {K : Type} [LinearOrderedField K] [FloorRing K]

/-! ## The two modes of `detect_invasion` -/

section Invasion

variable (o : Oracle K) (profileA : Profile K) (trajectoryA : Trajectory K)
  (profileB : Profile K) (trajectoryB : Trajectory K) (owner : Owner) (aIt bIt : Nat)

/-- With a list, `detect_invasion` clears it and leaves exactly the conflicts it finds. -/
theorem detectInvasion_some (l : List Conflict) :
    detectInvasion o profileA trajectoryA profileB trajectoryB owner aIt bIt (some l) =
      afterLoop (some (invasionFound o profileA trajectoryA profileB trajectoryB owner aIt bIt)) :=
  (invasionSweep_some aIt bIt []).trans (by rw [List.nil_append])

/-- Without a list, `detect_invasion` returns the first conflict it finds. -/
theorem detectInvasion_none :
    detectInvasion o profileA trajectoryA profileB trajectoryB owner aIt bIt none =
      ⟨(invasionFound o profileA trajectoryA profileB trajectoryB owner aIt bIt).head?.map
        (·.time), none⟩ :=
  invasionSweep_none aIt bIt

end Invasion

/-- On the invasion path the two modes of `between` return the same time, and the list holds
exactly the conflicts found, whatever it held before. -/
theorem between_modes_of_not_closeStart {o : Oracle K} {inputProfileA inputProfileB : Profile K}
    {trajectoryA trajectoryB : Trajectory K}
    (h : Engaged inputProfileA trajectoryA inputProfileB trajectoryB)
    (hc : closeStart o (convertProfile inputProfileA) trajectoryA
      (getInitialIterators trajectoryA trajectoryB).1 (convertProfile inputProfileB) trajectoryB
      (getInitialIterators trajectoryA trajectoryB).2 = .ok false) (l : List Conflict) :
    let found := invasionFound o (convertProfile inputProfileA) trajectoryA
      (convertProfile inputProfileB) trajectoryB .caller
      (getInitialIterators trajectoryA trajectoryB).1 (getInitialIterators trajectoryA trajectoryB).2
    DetectConflict.Implementation.between o inputProfileA trajectoryA inputProfileB trajectoryB
        (some l) = .ok ⟨found.head?.map (·.time), some found⟩ ∧
      DetectConflict.Implementation.between o inputProfileA trajectoryA inputProfileB trajectoryB
        none = .ok ⟨found.head?.map (·.time), none⟩ := by
  rw [between_of_not_closeStart h hc, between_of_not_closeStart h hc, detectInvasion_some,
    detectInvasion_none]
  exact ⟨rfl, rfl⟩

theorem between_modes_of_not_closeStart_arriving :
    Engaged (⟨some ⟨0, 1⟩, some ⟨1, 3⟩⟩ : Profile ℚ) arriving ⟨some ⟨2, 1⟩, some ⟨3, 2⟩⟩ standing ∧
      closeStart (discOracle Rat.sqrt) (convertProfile ⟨some ⟨0, 1⟩, some ⟨1, 3⟩⟩) arriving
          (getInitialIterators arriving standing).1 (convertProfile ⟨some ⟨2, 1⟩, some ⟨3, 2⟩⟩)
          standing (getInitialIterators arriving standing).2 = .ok false ∧
      let found := invasionFound (discOracle Rat.sqrt) (convertProfile ⟨some ⟨0, 1⟩, some ⟨1, 3⟩⟩)
        arriving (convertProfile ⟨some ⟨2, 1⟩, some ⟨3, 2⟩⟩) standing .caller
        (getInitialIterators arriving standing).1 (getInitialIterators arriving standing).2
      DetectConflict.Implementation.between (discOracle Rat.sqrt) ⟨some ⟨0, 1⟩, some ⟨1, 3⟩⟩
          arriving ⟨some ⟨2, 1⟩, some ⟨3, 2⟩⟩ standing (some []) =
          .ok ⟨found.head?.map (·.time), some found⟩ ∧
        DetectConflict.Implementation.between (discOracle Rat.sqrt) ⟨some ⟨0, 1⟩, some ⟨1, 3⟩⟩
          arriving ⟨some ⟨2, 1⟩, some ⟨3, 2⟩⟩ standing none =
          .ok ⟨found.head?.map (·.time), none⟩ :=
  have h : Engaged (⟨some ⟨0, 1⟩, some ⟨1, 3⟩⟩ : Profile ℚ) arriving ⟨some ⟨2, 1⟩, some ⟨3, 2⟩⟩
      standing := engaged_of_footprints (by decide) (by decide) (by decide) rfl rfl
  ⟨h, (closeStart_arriving _).1,
    between_modes_of_not_closeStart (o := discOracle Rat.sqrt) h (closeStart_arriving _).1 []⟩

/-! ## Where the conflicts of the invasion path lie -/

/-- What a conflict of one segment pair is: it names the pair, and lies in the pair's window. -/
theorem mem_invasionHits {o : Oracle K} (ho : o.ContactInWindow) {profileA profileB : Profile K}
    {splineA splineB : Spline K} {aIt bIt : Iter}
    (hw : (window splineA splineB).1 ≤ (window splineA splineB).2) {c : Conflict}
    (hc : c ∈ invasionHits o profileA splineA profileB splineB aIt bIt) :
    c.aIt = aIt ∧ c.bIt = bIt ∧
      (window splineA splineB).1 ≤ c.time ∧ c.time ≤ (window splineA splineB).2 := by
  have key : ∀ {shapeA shapeB boxA boxB},
      c ∈ invasionTest o shapeA boxA splineA shapeB boxB splineB aIt bIt →
      c.aIt = aIt ∧ c.bIt = bIt ∧
        (window splineA splineB).1 ≤ c.time ∧ c.time ≤ (window splineA splineB).2 := fun hc => by
    obtain ⟨_, _, _, -, -, -, rfl⟩ := mem_invasionTest hc
    exact ⟨rfl, rfl, mem_invasionTest_window ho hw hc⟩
  simp only [invasionHits, List.mem_append] at hc
  rcases hc with hc | hc
  · exact key hc
  · split_ifs at hc
    exacts [key hc, absurd hc (List.not_mem_nil c)]

/-- From an aligned pair, every conflict the sweep finds names a segment of each trajectory and
lies in the time span of both. -/
theorem invasionFound_in_segments {o : Oracle K} (ho : o.ContactInWindow)
    (profileA profileB : Profile K) {trajectoryA trajectoryB : Trajectory K} (owner : Owner)
    {aIt bIt : Nat} (h : Aligned trajectoryA trajectoryB aIt bIt) (ha : aIt < trajectoryA.size)
    (hb : bIt < trajectoryB.size) {c : Conflict}
    (hc : c ∈ invasionFound o profileA trajectoryA profileB trajectoryB owner aIt bIt) :
    ∃ i j, c.aIt = ⟨owner, i⟩ ∧ c.bIt = ⟨owner, j⟩ ∧
      1 ≤ i ∧ i < trajectoryA.size ∧ 1 ≤ j ∧ j < trajectoryB.size ∧
      trajectoryA.timeAt (i - 1) ≤ c.time ∧ c.time ≤ trajectoryA.timeAt i ∧
      trajectoryB.timeAt (j - 1) ≤ c.time ∧ c.time ≤ trajectoryB.timeAt j := by
  obtain ⟨p, hp, hcp⟩ := List.mem_flatMap.mp hc
  have hne := (tiling_sweepWindows h ha hb).nonempty _ (List.mem_map_of_mem _ hp)
  obtain ⟨hca, hcb, h1, h2⟩ := mem_invasionHits ho hne hcp
  have := le_of_mem_sweepPairs hp
  have := lt_size_of_mem_sweepPairs hp
  have := h.one_le_left
  have := h.one_le_right
  simp only [window_spline] at h1 h2
  exact ⟨p.1, p.2, hca, hcb, by omega, by omega, by omega, by omega, by omega, by omega, by omega,
    by omega⟩

/-! ## The hand-off -/

/-- After a hand-off the list holds what `detect_invasion` found on the sliced copies, whatever it
held before, and every entry names the copies. -/
theorem handOff_conflicts (o : Oracle K) (profileA : Profile K) (trajectoryA : Trajectory K)
    (profileB : Profile K) (trajectoryB : Trajectory K) (t : Int) (aIt bIt : Nat)
    (l : List Conflict) :
    let found := invasionFound o profileA (sliceTrajectory t (trajectoryA.spline aIt) trajectoryA aIt)
      profileB (sliceTrajectory t (trajectoryB.spline bIt) trajectoryB bIt) .slice 1 1
    (handOff o profileA trajectoryA profileB trajectoryB t aIt bIt (some l)).conflicts = some found ∧
      ∀ c ∈ found, c.aIt.owner = .slice ∧ c.bIt.owner = .slice := by
  refine ⟨by rw [handOff, detectInvasion_some]; rfl, fun c hc => ?_⟩
  obtain ⟨p, -, hcp⟩ := List.mem_flatMap.mp hc
  have key : ∀ {shapeA shapeB boxA boxB splineA splineB},
      c ∈ invasionTest o shapeA boxA splineA shapeB boxB splineB ⟨.slice, p.1⟩ ⟨.slice, p.2⟩ →
      c.aIt.owner = .slice ∧ c.bIt.owner = .slice := fun hc => by
    obtain ⟨_, _, _, -, -, -, rfl⟩ := mem_invasionTest hc
    exact ⟨rfl, rfl⟩
  simp only [invasionHits, List.mem_append] at hcp
  rcases hcp with hcp | hcp
  · exact key hcp
  · split_ifs at hcp
    exacts [key hcp, absurd hcp (List.not_mem_nil c)]

/-! ## A hand-off -/

/-- A vehicle that starts `37/32 m` along `x` from the origin, closes in, turns away at
`0.125 s`, turns back at `0.75 s` and returns: the cubic
`x(τ) = 37/32 - 9 τ + 42 τ² - 32 τ³` over one second. -/
def turning : Trajectory ℚ :=
  ⟨[⟨0, ![37 / 32, 0, 0], ![-9, 0, 0]⟩, ⟨1000000000, ![69 / 32, 0, 0], ![-21, 0, 0]⟩],
    List.pairwise_pair.mpr (by decide)⟩

theorem turning_spline : turning.spline 1 = ⟨⟨0, ![37 / 32, 0, 0], ![-9, 0, 0]⟩,
    ⟨1000000000, ![69 / 32, 0, 0], ![-21, 0, 0]⟩⟩ := rfl

theorem turning_position (t : Int) :
    (turning.spline 1).computePosition t =
      ![37 / 32 - 9 * ((t : ℚ) / 1000000000) + 42 * ((t : ℚ) / 1000000000) ^ 2 -
        32 * ((t : ℚ) / 1000000000) ^ 3, 0, 0] := by
  rw [turning_spline, Spline.computePosition_on_axis]
  refine congrArg (fun x : ℚ => ![x, 0, 0]) ?_
  simp only [evaluateSpline, Spline.hermite, toSeconds]
  push_cast
  ring

theorem turning_velocity (t : Int) :
    (turning.spline 1).computeVelocity t =
      ![-9 + 84 * ((t : ℚ) / 1000000000) - 96 * ((t : ℚ) / 1000000000) ^ 2, 0, 0] := by
  rw [turning_spline, Spline.computeVelocity_on_axis]
  refine congrArg (fun x : ℚ => ![x, 0, 0]) ?_
  simp only [evaluateDerivative, Spline.hermite, toSeconds]
  push_cast
  ring

/-- Over the segment, and a nanosecond past it, the vehicle stays on the positive side:
`x(τ) = 5/8 + 32 (τ - 1/8)² (17/16 - τ)`. -/
theorem turning_gap_pos {τ : ℚ} (h : τ < 17 / 16) :
    0 < 37 / 32 - 9 * τ + 42 * τ ^ 2 - 32 * τ ^ 3 := by
  have hx : 37 / 32 - 9 * τ + 42 * τ ^ 2 - 32 * τ ^ 3 =
      5 / 8 + 32 * (τ - 1 / 8) ^ 2 * (17 / 16 - τ) := by
    ring
  rw [hx]
  have := sub_pos.mpr h
  positivity

/-- So the vehicles move apart exactly from `0.125 s` to `0.75 s`, where the velocity
`x'(τ) = 96 (τ - 1/8) (3/4 - τ)` is non-negative. -/
theorem turning_rate_nonneg_iff {t : Int} (h1 : t ≤ 1000000001) :
    0 ≤ distanceRate (turning.spline 1) (standing.spline 1) t ↔
      125000000 ≤ t ∧ t ≤ 750000000 := by
  rw [distanceRate_on_axis (turning_position t) (standing_position t) (turning_velocity t)
    (standing_velocity t), sub_zero, sub_zero]
  have ht1 : (t : ℚ) ≤ 1000000001 := by exact_mod_cast h1
  have hv : -9 + 84 * ((t : ℚ) / 1000000000) - 96 * ((t : ℚ) / 1000000000) ^ 2 =
      96 * (((t : ℚ) / 1000000000 - 1 / 8) * (3 / 4 - (t : ℚ) / 1000000000)) := by ring
  rw [mul_nonneg_iff_of_pos_left (turning_gap_pos ((div_lt_iff₀ (by norm_num)).mpr
      (by linarith only [ht1]))), hv, mul_nonneg_iff_of_pos_left (by norm_num), mul_nonneg_iff,
    sub_nonneg, sub_nonneg, sub_nonpos, sub_nonpos,
    or_iff_left fun h => absurd (h.2.trans h.1) (by norm_num), le_div_iff₀ (by norm_num),
    div_le_iff₀ (by norm_num)]
  norm_num
  norm_cast

/-- The distance differential reports the vehicles approaching at the start, and one approach
time, `0.75 s`, where the vehicle turns back. -/
theorem turning_approach (sqrt : ℚ → ℚ) :
    (discOracle sqrt).initiallyApproaching (turning.spline 1) (standing.spline 1) = true ∧
      (discOracle sqrt).approachTimes (turning.spline 1) (standing.spline 1) = [750000000] := by
  have hw : window (turning.spline 1) (standing.spline 1) = (0, 1000000000) := rfl
  have hmem : (750000000 : Int) ∈ nanosecondsAfter 0 1000000000 :=
    mem_nanosecondsAfter.mpr (by norm_num)
  simp only [discOracle, hw]
  constructor
  · rw [distanceRate_on_axis (turning_position 0) (standing_position 0) (turning_velocity 0)
      (standing_velocity 0)]
    norm_num
  rw [List.filter_congr (q := fun t => decide (t = 750000000)) fun t ht => ?_, List.filter_eq,
    List.count_eq_one_of_mem (nodup_nanosecondsAfter _ _) hmem]
  · rfl
  · obtain ⟨h1, h2⟩ := mem_nanosecondsAfter.mp ht
    rw [decide_eq_decide, ← not_le, turning_rate_nonneg_iff (by omega),
      turning_rate_nonneg_iff (by omega)]
    omega

/-- `check_overlap` between the two vehicles, with footprints of radius `2`: close while the gap
is at most `4 m`. -/
theorem checkOverlap_turning (sqrt : ℚ → ℚ) (t : Int) :
    checkOverlap (discOracle sqrt) (convertProfile ⟨some ⟨0, 2⟩, none⟩) (turning.spline 1)
      (convertProfile ⟨some ⟨1, 2⟩, none⟩) (standing.spline 1) t =
      .ok (decide ((37 / 32 - 9 * ((t : ℚ) / 1000000000) + 42 * ((t : ℚ) / 1000000000) ^ 2 -
        32 * ((t : ℚ) / 1000000000) ^ 3) ^ 2 ≤ 16)) := by
  simp only [checkOverlap, collidePair, convertProfile_mk_none, deref, discOracle_collide,
    turning_position, standing_position, discsTouch_on_axis, bind, Except.bind, pure,
    Except.pure, sub_zero]
  norm_num

theorem Trajectory.spline_one_of_waypoints {trajectory : Trajectory ℚ} {w0 w1 : Waypoint ℚ}
    (h : trajectory.waypoints = [w0, w1]) : trajectory.spline 1 = ⟨w0, w1⟩ := by
  simp [Trajectory.spline, Trajectory.get, h]

theorem sliced_turning :
    (sliceTrajectory 750000000 (turning.spline 1) turning 1).waypoints =
      [⟨750000000, ![145 / 32, 0, 0], ![0, 0, 0]⟩,
        ⟨1000000000, ![69 / 32, 0, 0], ![-21, 0, 0]⟩] := by
  rw [sliceTrajectory_waypoints_of_lt (by decide), turning_position, turning_velocity]
  norm_num [turning]

theorem sliced_standing :
    (sliceTrajectory 750000000 (standing.spline 1) standing 1).waypoints =
      [⟨750000000, ![0, 0, 0], ![0, 0, 0]⟩, ⟨1000000000, 0, 0⟩] := by
  rw [sliceTrajectory_waypoints_of_lt (by decide), standing_position, standing_velocity]
  rfl

/-- On the sliced copy the vehicle returns: `x = 145/32 - 15/8 u² - 1/2 u³` at the fraction `u`
of the quarter second left, the same cubic. -/
theorem slicedTurning_position (t : Int) :
    (⟨⟨750000000, ![145 / 32, 0, 0], ![0, 0, 0]⟩,
        ⟨1000000000, ![69 / 32, 0, 0], ![-21, 0, 0]⟩⟩ : Spline ℚ).computePosition t =
      ![145 / 32 - 15 / 8 * (((t : ℚ) - 750000000) / 250000000) ^ 2 -
        1 / 2 * (((t : ℚ) - 750000000) / 250000000) ^ 3, 0, 0] := by
  rw [Spline.computePosition_on_axis]
  refine congrArg (fun x : ℚ => ![x, 0, 0]) ?_
  simp only [evaluateSpline, Spline.hermite, toSeconds]
  push_cast
  ring

theorem slicedStanding_position (t : Int) :
    (⟨⟨750000000, ![0, 0, 0], ![0, 0, 0]⟩, ⟨1000000000, 0, 0⟩⟩ : Spline ℚ).computePosition t =
      ![0, 0, 0] := by
  funext i
  match i with
  | 0 | 1 | 2 => simp [Spline.computePosition, Spline.getParams, evaluateSpline, Spline.hermite]

/-- On the copies the two discs first touch `0.125 s` after the slice, at `0.875 s`, where the
returning vehicle is back at `4 m`: `x - 4 = 1/2 (1/2 - u) (u² + 17/4 u + 17/8)`. -/
theorem firstContact_sliced :
    firstContact (⟨0, 2⟩ : FinalConvexShape ℚ) ⟨⟨750000000, ![145 / 32, 0, 0], ![0, 0, 0]⟩,
        ⟨1000000000, ![69 / 32, 0, 0], ![-21, 0, 0]⟩⟩ ⟨1, 2⟩
      ⟨⟨750000000, ![0, 0, 0], ![0, 0, 0]⟩, ⟨1000000000, 0, 0⟩⟩ 750000000 1000000000 =
      some 125000000 := by
  refine firstContact_eq_some_iff.mpr ⟨by decide, ?_, fun j hj => ?_⟩
  · rw [slicedTurning_position, slicedStanding_position, discsTouch_on_axis]
    norm_num
  · rw [slicedTurning_position, slicedStanding_position, discsTouch_on_axis,
      decide_eq_false_iff_not, not_le, sub_zero, show (2 : ℚ) + 2 = 4 by norm_num]
    push_cast
    rw [add_sub_cancel_left]
    set u : ℚ := (j : ℚ) / 250000000 with hu
    have hu1 : u < 1 / 2 := (div_lt_iff₀ (by norm_num)).mpr (by norm_num; exact_mod_cast hj)
    have hgap : 145 / 32 - 15 / 8 * u ^ 2 - 1 / 2 * u ^ 3 - 4 =
        1 / 2 * (1 / 2 - u) * (u ^ 2 + 17 / 4 * u + 17 / 8) := by ring
    have hp : 4 < 145 / 32 - 15 / 8 * u ^ 2 - 1 / 2 * u ^ 3 := by
      rw [← sub_pos, hgap]
      exact mul_pos (mul_pos (by norm_num) (sub_pos.mpr hu1)) (by positivity)
    exact pow_lt_pow_left₀ hp (by norm_num) two_ne_zero

/-- On the copies sliced at `0.75 s`, `detect_invasion` records one conflict, at `0.875 s`,
named by the copies' iterators. -/
theorem detectInvasion_sliced (sqrt : ℚ → ℚ) (l : List Conflict) :
    detectInvasion (discOracle sqrt) (convertProfile ⟨some ⟨0, 2⟩, none⟩)
      (sliceTrajectory 750000000 (turning.spline 1) turning 1) (convertProfile ⟨some ⟨1, 2⟩, none⟩)
      (sliceTrajectory 750000000 (standing.spline 1) standing 1) .slice 1 1 (some l) =
      ⟨some 875000000, some [⟨⟨.slice, 1⟩, ⟨.slice, 1⟩, 875000000⟩]⟩ := by
  have hsa : (sliceTrajectory 750000000 (turning.spline 1) turning 1).size = 2 := by
    simp [Trajectory.size, sliced_turning]
  have hsb : (sliceTrajectory 750000000 (standing.spline 1) standing 1).size = 2 := by
    simp [Trajectory.size, sliced_standing]
  rw [detectInvasion_some, invasionFound_of_size_two _ _ _ hsa hsb,
    Trajectory.spline_one_of_waypoints sliced_turning,
    Trajectory.spline_one_of_waypoints sliced_standing, invasionHits, if_neg (by decide)]
  simp only [convertProfile_mk_none, getBoundingProfile_footprint, getBoundingProfile_vicinity,
    Option.map_some', discOracle_sqrt, List.append_nil]
  rw [invasionTest_discOracle sqrt (overlap_of_finishes_close _ _ _ _ _ fun i => ?_)
    (by decide) firstContact_sliced]
  · rfl
  · match i with
    | 0 | 1 => norm_num [abs_le]

/-- The vehicles start within `4 m`, so both modes run `detect_approach` from the first
segments. -/
theorem between_turning (sqrt : ℚ → ℚ) (out : Option (List Conflict)) :
    DetectConflict.Implementation.between (discOracle sqrt) ⟨some ⟨0, 2⟩, none⟩ turning
      ⟨some ⟨1, 2⟩, none⟩ standing out =
      approachSweep (discOracle sqrt) (convertProfile ⟨some ⟨0, 2⟩, none⟩) turning
        (convertProfile ⟨some ⟨1, 2⟩, none⟩) standing 1 1 out := by
  rw [between_of_engaged (engaged_of_footprints (by decide) (by decide) (by decide) (by rfl)
    (by rfl)), engage]
  show (closeStart (discOracle sqrt) _ turning 1 _ standing 1).bind _ = _
  rw [show closeStart (discOracle sqrt) (convertProfile ⟨some ⟨0, 2⟩, none⟩) turning 1
    (convertProfile ⟨some ⟨1, 2⟩, none⟩) standing 1 = .ok true from
      (checkOverlap_turning sqrt 0).trans (by norm_num)]
  rfl

/-- The first segment pair: a conflict at `0 s`, where the vehicles are approaching, then the
approach time `0.75 s`, where they are `145/32 m` apart, and the hand-off. -/
theorem approachSweep_turning (sqrt : ℚ → ℚ) (out : Option (List Conflict)) :
    approachSweep (discOracle sqrt) (convertProfile ⟨some ⟨0, 2⟩, none⟩) turning
        (convertProfile ⟨some ⟨1, 2⟩, none⟩) standing 1 1 out =
      match record out [⟨⟨.caller, 1⟩, ⟨.caller, 1⟩, 0⟩] with
      | .inl time => .ok ⟨some time, none⟩
      | .inr out => .ok (handOff (discOracle sqrt) (convertProfile ⟨some ⟨0, 2⟩, none⟩) turning
          (convertProfile ⟨some ⟨1, 2⟩, none⟩) standing 750000000 1 1 out) := by
  have hapart : checkOverlap (discOracle sqrt) (convertProfile ⟨some ⟨0, 2⟩, none⟩)
      (turning.spline 1) (convertProfile ⟨some ⟨1, 2⟩, none⟩) (standing.spline 1) 750000000 =
      .ok false := (checkOverlap_turning sqrt _).trans (by norm_num)
  rw [approachSweep_of_lt (by decide)]
  simp only [approachStep]
  rw [(turning_approach sqrt).1, if_pos rfl, (turning_approach sqrt).2]
  cases out <;> simp only [record, approachScan, hapart] <;> rfl

/-- Without a list `between` returns the conflict at `0 s`; with one, the hand-off at `0.75 s`
clears the list, that conflict is lost, and `between` returns `0.875 s`. -/
theorem between_handOff_modes_differ :
    DetectConflict.Implementation.between (discOracle Rat.sqrt) ⟨some ⟨0, 2⟩, none⟩ turning
        ⟨some ⟨1, 2⟩, none⟩ standing none = .ok ⟨some 0, none⟩ ∧
      DetectConflict.Implementation.between (discOracle Rat.sqrt) ⟨some ⟨0, 2⟩, none⟩ turning
        ⟨some ⟨1, 2⟩, none⟩ standing (some []) =
        .ok ⟨some 875000000, some [⟨⟨.slice, 1⟩, ⟨.slice, 1⟩, 875000000⟩]⟩ := by
  rw [between_turning, between_turning, approachSweep_turning, approachSweep_turning]
  exact ⟨rfl, congrArg Except.ok (detectInvasion_sliced _ _)⟩

/-- Whatever the list held, after the hand-off it holds one conflict, whose iterators point
into the sliced copies. -/
theorem between_handOff_records_slices (l : List Conflict) :
    ∃ c, DetectConflict.Implementation.between (discOracle Rat.sqrt) ⟨some ⟨0, 2⟩, none⟩ turning
        ⟨some ⟨1, 2⟩, none⟩ standing (some l) = .ok ⟨some 875000000, some [c]⟩ ∧
      c.aIt.owner = .slice ∧ c.bIt.owner = .slice := by
  rw [between_turning, approachSweep_turning]
  exact ⟨_, congrArg Except.ok (detectInvasion_sliced _ _), rfl, rfl⟩

end RmfTraffic
