import RmfTraffic.NullShapes
import RmfTraffic.Discs

/-!
# The order of the conflicts found

A call with a list returns the time of the list's first entry, and a call without one returns
the first conflict it meets; the spec reads both as the earliest conflict ("earliest time wins
globally"). The windows of the sweep follow one another (`RmfTraffic.Windows`) and each conflict
lies in its window, so the conflicts of different segment pairs do come in order of time. The
two complement tests of one segment pair, though, are appended in the order they are run, and
nothing compares their times.

## What is proved

`invasionFound_sorted`: when the profiles need no complement test (each vicinity is its
footprint), the conflicts the sweep finds from an aligned pair are in nondecreasing order of
time, for every collision library that reports a contact as a fraction of the window.

`between_complement_out_of_order`: with the disc library of `RmfTraffic.Discs`, a vehicle
arriving at `10 m/s` at another standing at the origin, each with a vicinity larger than its
footprint. The arriving vehicle's vicinity reaches the other's footprint at `0.6 s`, and its
footprint reaches the other's vicinity at `0.7 s`. The footprint test runs first, so `between`
lists the contact at `0.7 s` first and returns it, in both modes.

`between_not_symmetric`: the same vehicles in the other order, with the same library, which is
symmetric in its two arguments (`discOracle_symmetric`): `between` returns `0.6 s`.
-/

set_option autoImplicit false

namespace RmfTraffic

variable {K : Type} [LinearOrderedField K] [FloorRing K]

/-- What the collision library promises of a continuous test: a contact is reported as the
fraction of the window at which it happens, in `[0, 1]`. -/
def Oracle.ContactInWindow (o : Oracle K) : Prop :=
  ∀ shapeA splineA shapeB splineB startTime finishTime x,
    o.continuousCollide shapeA splineA shapeB splineB startTime finishTime = some x →
      0 ≤ x ∧ x ≤ 1

/-- A fraction of a window is a time in the window. -/
theorem computeTime_mem {x : K} (h0 : 0 ≤ x) (h1 : x ≤ 1) {startTime finishTime : Int}
    (h : startTime ≤ finishTime) :
    startTime ≤ computeTime x startTime finishTime ∧
      computeTime x startTime finishTime ≤ finishTime := by
  have hd : (0 : K) ≤ ((finishTime - startTime : Int) : K) := Int.cast_nonneg.mpr (by omega)
  have hnn : 0 ≤ x * ((finishTime - startTime : Int) : K) := mul_nonneg h0 hd
  have hle := Int.floor_mono (mul_le_of_le_one_left hd h1)
  rw [Int.floor_intCast] at hle
  have := Int.floor_nonneg.mpr hnn
  simp only [computeTime, truncate, if_pos hnn]
  omega

omit [FloorRing K] in
/-- The disc library reports a contact as a fraction of the window: the first nanosecond of
contact, counted from the window's start, lies within the window's length. -/
theorem discOracle_contactInWindow (sqrt : K → K) : (discOracle sqrt).ContactInWindow := by
  intro shapeA splineA shapeB splineB startTime finishTime x h
  obtain ⟨k, hk, rfl⟩ := Option.map_eq_some'.mp h
  have hle := (firstContact_eq_some_iff.mp hk).1
  rcases le_or_lt finishTime startTime with hfs | hfs
  · obtain rfl : k = 0 := by omega
    simp
  · have hpos : (0 : K) < ((finishTime - startTime : Int) : K) := Int.cast_pos.mpr (by omega)
    have hk' : ((k : Int) : K) ≤ ((finishTime - startTime : Int) : K) := Int.cast_le.mpr (by omega)
    rw [Int.cast_natCast] at hk'
    exact ⟨div_nonneg (Nat.cast_nonneg k) hpos.le, (div_le_one hpos).mpr hk'⟩

/-! ## One test -/

section Test

variable {o : Oracle K} {shapeA shapeB : Option (FinalConvexShape K)}
  {boxA boxB : Option (BoundingBox K)} {splineA splineB : Spline K} {aIt bIt : Iter}

/-- A test records at most one conflict, so what it records is in every order. -/
theorem invasionTest_pairwise (R : Conflict → Conflict → Prop) :
    (invasionTest o shapeA boxA splineA shapeB boxB splineB aIt bIt).Pairwise R := by
  have ⟨c, hc⟩ : ∃ c : Option Conflict,
      invasionTest o shapeA boxA splineA shapeB boxB splineB aIt bIt = c.toList := by
    unfold invasionTest
    split_ifs
    · split
      exacts [⟨_, rfl⟩, ⟨none, rfl⟩]
    · exact ⟨none, rfl⟩
  rw [hc]
  cases c <;> simp

/-- What a test records: a conflict between the segments it was given, at the time of a
contact the collision library reported between two present shapes. -/
theorem mem_invasionTest {c : Conflict}
    (hc : c ∈ invasionTest o shapeA boxA splineA shapeB boxB splineB aIt bIt) :
    ∃ x y f, shapeA = some x ∧ shapeB = some y ∧
      checkCollision o x splineA y splineB (window splineA splineB).1
        (window splineA splineB).2 = some f ∧
      c = ⟨aIt, bIt, computeTime f (window splineA splineB).1 (window splineA splineB).2⟩ := by
  unfold invasionTest at hc
  split_ifs at hc
  · split at hc
    · rename_i x y
      cases hx : checkCollision o x splineA y splineB (window splineA splineB).1
        (window splineA splineB).2 with
      | none => simp [hx] at hc
      | some f =>
        simp only [hx, Option.map_some', Option.toList_some, List.mem_singleton] at hc
        exact ⟨x, y, f, rfl, rfl, hx, hc⟩
    · cases hc
  · cases hc

/-- A conflict of a test lies in the window of its segment pair. -/
theorem mem_invasionTest_window (ho : o.ContactInWindow)
    (hw : (window splineA splineB).1 ≤ (window splineA splineB).2) {c : Conflict}
    (hc : c ∈ invasionTest o shapeA boxA splineA shapeB boxB splineB aIt bIt) :
    (window splineA splineB).1 ≤ c.time ∧ c.time ≤ (window splineA splineB).2 := by
  obtain ⟨_, _, f, -, -, hf, rfl⟩ := mem_invasionTest hc
  have := ho _ _ _ _ _ _ _ hf
  exact computeTime_mem this.1 this.2 hw

end Test

/-! ## The sweep without complement tests -/

/-- When the profiles need no complement test, the conflicts found from an aligned pair are in
nondecreasing order of time. -/
theorem invasionFound_sorted {o : Oracle K} (ho : o.ContactInWindow) {profileA profileB : Profile K}
    (hc : testComplement profileA profileB = false) {trajectoryA trajectoryB : Trajectory K}
    (owner : Owner) {aIt bIt : Nat} (h : Aligned trajectoryA trajectoryB aIt bIt)
    (ha : aIt < trajectoryA.size) (hb : bIt < trajectoryB.size) :
    (invasionFound o profileA trajectoryA profileB trajectoryB owner aIt bIt).Pairwise
      fun c c' => c.time ≤ c'.time := by
  have ht := tiling_sweepWindows h ha hb
  have hne := ht.nonempty
  have hpw := ht.pairwise
  simp only [sweepWindows, List.pairwise_map, List.forall_mem_map] at hne hpw
  have hhits : ∀ p : Nat × Nat,
      invasionHits o profileA (trajectoryA.spline p.1) profileB (trajectoryB.spline p.2)
        ⟨owner, p.1⟩ ⟨owner, p.2⟩ =
      invasionTest o profileA.footprint
        (getBoundingProfile o.sqrt (trajectoryA.spline p.1) profileA).footprint
        (trajectoryA.spline p.1) profileB.vicinity
        (getBoundingProfile o.sqrt (trajectoryB.spline p.2) profileB).vicinity
        (trajectoryB.spline p.2) ⟨owner, p.1⟩ ⟨owner, p.2⟩ := fun p => by
    simp only [invasionHits, hc, Bool.false_eq_true, if_false, List.append_nil]
  rw [invasionFound, List.pairwise_flatMap]
  refine ⟨fun p _ => ?_, hpw.imp_of_mem fun hp hq hpq c hc c' hc' => ?_⟩
  · exact hhits p ▸ invasionTest_pairwise _
  · rw [hhits] at hc hc'
    exact (mem_invasionTest_window ho (hne _ hp) hc).2.trans
      (hpq.trans (mem_invasionTest_window ho (hne _ hq) hc').1)

theorem invasionFound_sorted_standing :
    (discOracle Rat.sqrt).ContactInWindow ∧
      testComplement (⟨some ⟨0, 1⟩, some ⟨0, 1⟩⟩ : Profile ℚ) ⟨some ⟨1, 1⟩, some ⟨1, 1⟩⟩ = false ∧
      Aligned standing standing 1 1 ∧ 1 < standing.size ∧
      (invasionFound (discOracle Rat.sqrt) ⟨some ⟨0, 1⟩, some ⟨0, 1⟩⟩ standing
        ⟨some ⟨1, 1⟩, some ⟨1, 1⟩⟩ standing .caller 1 1).Pairwise fun c c' => c.time ≤ c'.time := by
  have h : Aligned standing standing 1 1 := ⟨le_rfl, le_rfl, by decide, by decide⟩
  exact ⟨discOracle_contactInWindow _, by decide, h, by decide,
    invasionFound_sorted (discOracle_contactInWindow _) (by decide) .caller h (by decide) (by decide)⟩

/-! ## Two complement tests out of order -/

/-- The sweep over two trajectories of one segment each finds what their one pair yields. -/
theorem invasionFound_of_size_two (o : Oracle K) (profileA profileB : Profile K)
    {trajectoryA trajectoryB : Trajectory K} (ha : trajectoryA.size = 2)
    (hb : trajectoryB.size = 2) (owner : Owner) :
    invasionFound o profileA trajectoryA profileB trajectoryB owner 1 1 =
      invasionHits o profileA (trajectoryA.spline 1) profileB (trajectoryB.spline 1) ⟨owner, 1⟩
        ⟨owner, 1⟩ := by
  rw [invasionFound, sweepPairs_of_size_two ha hb, List.flatMap_singleton]

theorem standing_spline : standing.spline 1 = ⟨⟨0, 0, 0⟩, ⟨1000000000, 0, 0⟩⟩ := rfl

theorem standing_position (t : Int) : (standing.spline 1).computePosition t = ![0, 0, 0] := by
  rw [standing_spline]
  funext i
  match i with
  | 0 | 1 | 2 => simp [Spline.computePosition, Spline.getParams, evaluateSpline, Spline.hermite]

theorem standing_velocity (t : Int) : (standing.spline 1).computeVelocity t = ![0, 0, 0] := by
  rw [standing_spline]
  funext i
  match i with
  | 0 | 1 | 2 =>
    simp [Spline.computeVelocity, Spline.getParams, evaluateDerivative, Spline.hermite]

/-- A vehicle arriving along `x` at `10 m/s`, from `10 m` at `0 s` to the origin at `1 s`. -/
def arriving : Trajectory ℚ :=
  ⟨[⟨0, ![10, 0, 0], ![-10, 0, 0]⟩, ⟨1000000000, ![0, 0, 0], ![-10, 0, 0]⟩],
    List.pairwise_pair.mpr (by decide)⟩

theorem arriving_size : arriving.size = 2 := rfl

theorem arriving_spline : arriving.spline 1 = ⟨⟨0, ![10, 0, 0], ![-10, 0, 0]⟩,
    ⟨1000000000, ![0, 0, 0], ![-10, 0, 0]⟩⟩ := rfl

theorem arriving_position (t : Int) :
    (arriving.spline 1).computePosition t = ![10 - (t : ℚ) / 100000000, 0, 0] := by
  rw [arriving_spline, Spline.computePosition_on_axis]
  refine congrArg (fun x : ℚ => ![x, 0, 0]) ?_
  simp only [evaluateSpline, Spline.hermite, toSeconds]
  push_cast
  ring

/-- Against a disc standing at the origin, the arriving disc first touches it after `k`
nanoseconds when the two radii add up to the distance it has left to go then. -/
theorem firstContact_arriving {shapeA shapeB : FinalConvexShape ℚ} {k : Nat}
    (hk : k ≤ 1000000000)
    (hr : shapeA.characteristicLength + shapeB.characteristicLength = 10 - (k : ℚ) / 100000000) :
    firstContact shapeA (arriving.spline 1) shapeB (standing.spline 1) 0 1000000000 = some k := by
  have htouch : ∀ j : Nat, j ≤ 1000000000 →
      discsTouch shapeA ((arriving.spline 1).computePosition (0 + j)) shapeB
        ((standing.spline 1).computePosition (0 + j)) = decide (k ≤ j) := fun j hj => by
    have hj' : (j : ℚ) ≤ 1000000000 := by exact_mod_cast hj
    have hk' : (k : ℚ) ≤ 1000000000 := by exact_mod_cast hk
    rw [zero_add, arriving_position, standing_position, discsTouch_on_axis, hr, Int.cast_natCast,
      sub_zero]
    refine decide_eq_decide.mpr ?_
    rw [pow_le_pow_iff_left₀ (by linarith) (by linarith) two_ne_zero, sub_le_sub_iff_left,
      div_le_div_iff_of_pos_right (by norm_num), Nat.cast_le]
  refine firstContact_eq_some_iff.mpr ⟨by omega, ?_, fun j hj => ?_⟩
  · rw [htouch k hk, decide_eq_true le_rfl]
  · rw [htouch j (by omega), decide_eq_false (by omega)]

/-- Both vehicles finish at the origin, so their boxes overlap, whatever the square root. -/
theorem overlap_arriving (sqrt : ℚ → ℚ) {la lb : ℚ} (h : 0 ≤ la + lb) :
    overlap (some (adjustBoundingBox (getBoundingBox sqrt (arriving.spline 1)) la))
      (some (adjustBoundingBox (getBoundingBox sqrt (standing.spline 1)) lb)) = true :=
  overlap_of_finishes_close _ _ _ _ _ fun i => by
    rw [arriving_spline, standing_spline]
    match i with
    | 0 | 1 => simpa using h

/-- Ten metres apart at the start, neither the footprint of one nor its vicinity touches the
other's vicinity or footprint: both orders go to `detect_invasion`. -/
theorem closeStart_arriving (sqrt : ℚ → ℚ) :
    closeStart (discOracle sqrt) (convertProfile ⟨some ⟨0, 1⟩, some ⟨1, 3⟩⟩) arriving 1
        (convertProfile ⟨some ⟨2, 1⟩, some ⟨3, 2⟩⟩) standing 1 = .ok false ∧
      closeStart (discOracle sqrt) (convertProfile ⟨some ⟨2, 1⟩, some ⟨3, 2⟩⟩) standing 1
        (convertProfile ⟨some ⟨0, 1⟩, some ⟨1, 3⟩⟩) arriving 1 = .ok false := by
  refine ⟨show checkOverlap _ _ (arriving.spline 1) _ (standing.spline 1) 0 = _ from ?_,
    show checkOverlap _ _ (standing.spline 1) _ (arriving.spline 1) 0 = _ from ?_⟩ <;>
  · simp only [checkOverlap, collidePair, convertProfile_mk_some, deref, discOracle_collide,
      arriving_position, standing_position, discsTouch_on_axis, bind, Except.bind, pure,
      Except.pure]
    norm_num

theorem between_arriving (sqrt : ℚ → ℚ) (out : Option (List Conflict)) :
    DetectConflict.Implementation.between (discOracle sqrt) ⟨some ⟨0, 1⟩, some ⟨1, 3⟩⟩ arriving
        ⟨some ⟨2, 1⟩, some ⟨3, 2⟩⟩ standing out =
      .ok (invasionSweep (discOracle sqrt) ⟨some ⟨0, 1⟩, some ⟨1, 3⟩⟩ arriving
        ⟨some ⟨2, 1⟩, some ⟨3, 2⟩⟩ standing .caller 1 1 (out.map fun _ => [])) ∧
    DetectConflict.Implementation.between (discOracle sqrt) ⟨some ⟨2, 1⟩, some ⟨3, 2⟩⟩ standing
        ⟨some ⟨0, 1⟩, some ⟨1, 3⟩⟩ arriving out =
      .ok (invasionSweep (discOracle sqrt) ⟨some ⟨2, 1⟩, some ⟨3, 2⟩⟩ standing
        ⟨some ⟨0, 1⟩, some ⟨1, 3⟩⟩ arriving .caller 1 1 (out.map fun _ => [])) :=
  ⟨between_of_not_closeStart (engaged_of_footprints (by decide) (by decide) (by decide) rfl rfl)
      (closeStart_arriving sqrt).1,
    between_of_not_closeStart (engaged_of_footprints (by decide) (by decide) (by decide) rfl rfl)
      (closeStart_arriving sqrt).2⟩

/-- The one segment pair, in both orders. The footprint of the first against the vicinity of
the second is tested first: for radii `1 + 2` that contact is at `0.7 s`, and the complement,
for radii `3 + 1`, is at `0.6 s`; in the other order the radii of the two tests are swapped. -/
theorem invasionHits_arriving (sqrt : ℚ → ℚ) :
    invasionHits (discOracle sqrt) ⟨some ⟨0, 1⟩, some ⟨1, 3⟩⟩ (arriving.spline 1)
        ⟨some ⟨2, 1⟩, some ⟨3, 2⟩⟩ (standing.spline 1) ⟨.caller, 1⟩ ⟨.caller, 1⟩ =
      [⟨⟨.caller, 1⟩, ⟨.caller, 1⟩, 700000000⟩, ⟨⟨.caller, 1⟩, ⟨.caller, 1⟩, 600000000⟩] ∧
    invasionHits (discOracle sqrt) ⟨some ⟨2, 1⟩, some ⟨3, 2⟩⟩ (standing.spline 1)
        ⟨some ⟨0, 1⟩, some ⟨1, 3⟩⟩ (arriving.spline 1) ⟨.caller, 1⟩ ⟨.caller, 1⟩ =
      [⟨⟨.caller, 1⟩, ⟨.caller, 1⟩, 600000000⟩, ⟨⟨.caller, 1⟩, ⟨.caller, 1⟩, 700000000⟩] := by
  have h7 : firstContact (⟨0, 1⟩ : FinalConvexShape ℚ) (arriving.spline 1) ⟨3, 2⟩
      (standing.spline 1) 0 1000000000 = some 700000000 :=
    firstContact_arriving (by norm_num) (by norm_num)
  have h6 : firstContact (⟨1, 3⟩ : FinalConvexShape ℚ) (arriving.spline 1) ⟨2, 1⟩
      (standing.spline 1) 0 1000000000 = some 600000000 :=
    firstContact_arriving (by norm_num) (by norm_num)
  have hov : ∀ {la lb : ℚ}, 0 ≤ la + lb →
      overlap (some (adjustBoundingBox (getBoundingBox sqrt (standing.spline 1)) lb))
        (some (adjustBoundingBox (getBoundingBox sqrt (arriving.spline 1)) la)) = true :=
    fun h => (overlap_comm _ _).trans (overlap_arriving sqrt h)
  refine ⟨?_, ?_⟩ <;> rw [invasionHits, if_pos (by decide)] <;>
    simp only [getBoundingProfile_footprint, getBoundingProfile_vicinity, Option.map_some',
      discOracle_sqrt]
  · rw [invasionTest_discOracle sqrt (overlap_arriving sqrt (by norm_num)) (by decide) h7,
      invasionTest_discOracle sqrt (overlap_arriving sqrt (by norm_num)) (by decide) h6]
    rfl
  · rw [invasionTest_discOracle sqrt (hov (by norm_num)) (by decide)
        ((firstContact_comm _ _ _ _ _ _).trans h6),
      invasionTest_discOracle sqrt (hov (by norm_num)) (by decide)
        ((firstContact_comm _ _ _ _ _ _).trans h7)]
    rfl

/-- With a list, the sweep lists the contact at `0.7 s`, then the one at `0.6 s`, and `between`
returns the first. -/
theorem between_arriving_some (sqrt : ℚ → ℚ) :
    DetectConflict.Implementation.between (discOracle sqrt) ⟨some ⟨0, 1⟩, some ⟨1, 3⟩⟩
        arriving ⟨some ⟨2, 1⟩, some ⟨3, 2⟩⟩ standing (some []) =
      .ok ⟨some 700000000, some [⟨⟨.caller, 1⟩, ⟨.caller, 1⟩, 700000000⟩,
        ⟨⟨.caller, 1⟩, ⟨.caller, 1⟩, 600000000⟩]⟩ := by
  rw [(between_arriving _ _).1, Option.map_some', invasionSweep_some,
    invasionFound_of_size_two _ _ _ arriving_size standing_size, (invasionHits_arriving _).1]
  rfl

/-- The disc arriving at the origin has a footprint of radius `1` and a vicinity of radius `3`,
and the standing one a footprint of radius `1` and a vicinity of radius `2`. The vicinity of the
first reaches the footprint of the second at `0.6 s`, the footprint of the first reaches the
vicinity of the second at `0.7 s`: `between` lists `0.7 s` first and returns it, in both
modes. -/
theorem between_complement_out_of_order :
    DetectConflict.Implementation.between (discOracle Rat.sqrt) ⟨some ⟨0, 1⟩, some ⟨1, 3⟩⟩
        arriving ⟨some ⟨2, 1⟩, some ⟨3, 2⟩⟩ standing (some []) =
      .ok ⟨some 700000000, some [⟨⟨.caller, 1⟩, ⟨.caller, 1⟩, 700000000⟩,
        ⟨⟨.caller, 1⟩, ⟨.caller, 1⟩, 600000000⟩]⟩ ∧
    DetectConflict.between (discOracle Rat.sqrt) ⟨some ⟨0, 1⟩, some ⟨1, 3⟩⟩ arriving
        ⟨some ⟨2, 1⟩, some ⟨3, 2⟩⟩ standing = .ok (some 700000000) := by
  refine ⟨between_arriving_some _, ?_⟩
  rw [DetectConflict.between, (between_arriving _ _).1, Option.map_none', invasionSweep_none,
    invasionFound_of_size_two _ _ _ arriving_size standing_size, (invasionHits_arriving _).1]
  rfl

/-- A collision library whose answers do not depend on the order of its two arguments. -/
structure Oracle.Symmetric (o : Oracle K) : Prop where
  continuousCollide : ∀ shapeA splineA shapeB splineB startTime finishTime,
    o.continuousCollide shapeA splineA shapeB splineB startTime finishTime =
      o.continuousCollide shapeB splineB shapeA splineA startTime finishTime
  collide : ∀ shapeA poseA shapeB poseB,
    o.collide shapeA poseA shapeB poseB = o.collide shapeB poseB shapeA poseA
  initiallyApproaching : ∀ splineA splineB,
    o.initiallyApproaching splineA splineB = o.initiallyApproaching splineB splineA
  approachTimes : ∀ splineA splineB,
    o.approachTimes splineA splineB = o.approachTimes splineB splineA

omit [FloorRing K] in
/-- The disc library is symmetric: contact, its first nanosecond and the rate of approach do
not depend on which disc comes first. -/
theorem discOracle_symmetric (sqrt : K → K) : (discOracle sqrt).Symmetric where
  continuousCollide shapeA splineA shapeB splineB startTime finishTime := by
    simp only [discOracle, firstContact_comm shapeA]
  collide := discsTouch_comm
  initiallyApproaching splineA splineB := by
    simp only [discOracle, window_swap splineB, distanceRate_comm splineB]
  approachTimes splineA splineB := by
    simp only [discOracle, window_swap splineB, distanceRate_comm splineB]

/-- With the symmetric disc library, the two orders of the same vehicles give `0.7 s` and
`0.6 s`. -/
theorem between_not_symmetric :
    (discOracle Rat.sqrt).Symmetric ∧
      DetectConflict.between (discOracle Rat.sqrt) ⟨some ⟨0, 1⟩, some ⟨1, 3⟩⟩ arriving
        ⟨some ⟨2, 1⟩, some ⟨3, 2⟩⟩ standing = .ok (some 700000000) ∧
      DetectConflict.between (discOracle Rat.sqrt) ⟨some ⟨2, 1⟩, some ⟨3, 2⟩⟩ standing
        ⟨some ⟨0, 1⟩, some ⟨1, 3⟩⟩ arriving = .ok (some 600000000) := by
  refine ⟨discOracle_symmetric _, ?_⟩
  simp only [DetectConflict.between, (between_arriving _ _).1, (between_arriving _ _).2,
    Option.map_none', invasionSweep_none,
    invasionFound_of_size_two _ _ _ arriving_size standing_size,
    invasionFound_of_size_two _ _ _ standing_size arriving_size, (invasionHits_arriving _).1,
    (invasionHits_arriving _).2]
  exact ⟨rfl, rfl⟩

end RmfTraffic
