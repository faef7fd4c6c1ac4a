import RmfTraffic.Between

/-!
# The windows of the lock-step sweep

`detect_invasion` walks two trajectories in lock-step from the iterators that
`get_initial_iterators` gives, and tests each pair of concurrent segments over their window
`[max start, min finish]`. On trajectories that overlap in time these windows tile the common
span `[max (s_a, s_b), min (f_a, f_b)]`, and each pair of segments that shares a stretch of
positive length is tested exactly once.

## What is proved

`Tiling ws start finish`: the windows `ws` are each non-empty, each starts where the one before
finished, the first starts at `start` and the last finishes at `finish`. Both sweeps of the
engine are held to it: this one, and the region sweep of `detect_conflicts`.

- `Aligned` is the loop invariant: at every pair the sweep is about to test, each segment
  starts no later than the other finishes. `aligned_getInitialIterators` establishes it and
  `Aligned.advance` keeps it, the next window starting where this one finished.
- `tiling_sweepWindows`, the run lemma: from an aligned pair, the windows tile everything up to
  `min (f_a, f_b)`.
- `mem_sweepPairs_of_overlap` and `nodup_sweepPairs`: a pair of segments that overlap with
  positive length is visited, and no pair is visited twice.
-/

set_option autoImplicit false

namespace RmfTraffic

/-! ## Tilings -/

/-- `Tiling ws start finish`: the windows `ws` cover `[start, finish]` one after another. -/
inductive Tiling : List (Int × Int) → Int → Int → Prop
  | single {w : Int × Int} : w.1 ≤ w.2 → Tiling [w] w.1 w.2
  | cons {w : Int × Int} {ws : List (Int × Int)} {finish : Int} :
      w.1 ≤ w.2 → Tiling ws w.2 finish → Tiling (w :: ws) w.1 finish

namespace Tiling

variable {ws : List (Int × Int)} {start finish : Int}

theorem nonempty (h : Tiling ws start finish) : ∀ w ∈ ws, w.1 ≤ w.2 := by
  induction h with
  | single hw => simpa using hw
  | cons hw _ ih => exact List.forall_mem_cons.mpr ⟨hw, ih⟩

theorem head (h : Tiling ws start finish) : ws.head?.map Prod.fst = some start := by
  cases h <;> rfl

theorem chain (h : Tiling ws start finish) : ws.Chain' fun w w' => w'.1 = w.2 := by
  induction h with
  | single => exact List.chain'_singleton _
  | cons _ h ih =>
    refine ih.cons' fun w' hw' => ?_
    simpa [Option.mem_def.mp hw'] using h.head

theorem last (h : Tiling ws start finish) : ws.getLast?.map Prod.snd = some finish := by
  induction h with
  | single => rfl
  | cons _ _ ih =>
    rw [List.getLast?_cons]
    cases hl : List.getLast? _ <;> simp_all

/-- Every instant of `[start, finish]` lies in one of the windows. -/
theorem covers (h : Tiling ws start finish) {t : Int} (h1 : start ≤ t) (h2 : t ≤ finish) :
    ∃ w ∈ ws, w.1 ≤ t ∧ t ≤ w.2 := by
  induction h with
  | single => exact ⟨_, List.mem_singleton_self _, h1, h2⟩
  | @cons w ws finish _ _ ih =>
    by_cases ht : t ≤ w.2
    · exact ⟨w, List.mem_cons_self _ _, h1, ht⟩
    · obtain ⟨w', hw', hw't⟩ := ih (le_of_not_le ht) h2
      exact ⟨w', List.mem_cons_of_mem _ hw', hw't⟩

/-- Every window starts at or after the tiled span does. -/
theorem le_fst (h : Tiling ws start finish) : ∀ w ∈ ws, start ≤ w.1 := by
  induction h with
  | single => simp
  | cons hw _ ih => exact List.forall_mem_cons.mpr ⟨le_rfl, fun w' hw' => hw.trans (ih w' hw')⟩

/-- A window finishes before every later one starts. -/
theorem pairwise (h : Tiling ws start finish) : ws.Pairwise fun w w' => w.2 ≤ w'.1 := by
  induction h with
  | single => exact List.pairwise_singleton _ _
  | cons _ h ih => exact List.pairwise_cons.mpr ⟨h.le_fst, ih⟩

end Tiling

/-! ## The invariant of the sweep -/

variable {K : Type} [LinearOrderedField K] (trajectoryA trajectoryB : Trajectory K)

/-- The windows of the segment pairs the sweep visits from `(aIt, bIt)`, in order. -/
def sweepWindows (aIt bIt : Nat) : List (Int × Int) :=
  (sweepPairs trajectoryA trajectoryB aIt bIt).map fun p =>
    window (trajectoryA.spline p.1) (trajectoryB.spline p.2)

/-- The loop invariant: both iterators are past `begin()`, and each segment starts no later
than the other finishes. -/
structure Aligned (aIt bIt : Nat) : Prop where
  one_le_left : 1 ≤ aIt
  one_le_right : 1 ≤ bIt
  startA_le : trajectoryA.timeAt (aIt - 1) ≤ trajectoryB.timeAt bIt
  startB_le : trajectoryB.timeAt (bIt - 1) ≤ trajectoryA.timeAt aIt

variable {trajectoryA trajectoryB}

omit [LinearOrderedField K] in
theorem Trajectory.timeAt_pred_lt {tr : Trajectory K} [Zero K] {i : Nat} (h1 : 1 ≤ i)
    (h : i < tr.size) : tr.timeAt (i - 1) < tr.timeAt i :=
  tr.timeAt_lt_timeAt (by omega) h

@[simp] theorem window_spline (aIt bIt : Nat) :
    window (trajectoryA.spline aIt) (trajectoryB.spline bIt) =
      (max (trajectoryA.timeAt (aIt - 1)) (trajectoryB.timeAt (bIt - 1)),
        min (trajectoryA.timeAt aIt) (trajectoryB.timeAt bIt)) := rfl

namespace Aligned

variable {aIt bIt : Nat} (h : Aligned trajectoryA trajectoryB aIt bIt)
  (ha : aIt < trajectoryA.size) (hb : bIt < trajectoryB.size)
include h ha hb

/-- The window of an aligned pair is not empty. -/
theorem window_le : (window (trajectoryA.spline aIt) (trajectoryB.spline bIt)).1 ≤
    (window (trajectoryA.spline aIt) (trajectoryB.spline bIt)).2 := by
  have := Trajectory.timeAt_pred_lt h.one_le_left ha
  have := Trajectory.timeAt_pred_lt h.one_le_right hb
  have := h.startA_le
  have := h.startB_le
  simp only [window_spline]
  omega

omit ha hb in
/-- One step keeps the invariant, and the next window starts where this one finished. -/
theorem advance
    (hn : (advance (trajectoryA.spline aIt) (trajectoryB.spline bIt) aIt bIt).1 <
        trajectoryA.size ∧
      (advance (trajectoryA.spline aIt) (trajectoryB.spline bIt) aIt bIt).2 < trajectoryB.size) :
    Aligned trajectoryA trajectoryB
        (advance (trajectoryA.spline aIt) (trajectoryB.spline bIt) aIt bIt).1
        (advance (trajectoryA.spline aIt) (trajectoryB.spline bIt) aIt bIt).2 ∧
      (window
        (trajectoryA.spline (advance (trajectoryA.spline aIt) (trajectoryB.spline bIt) aIt bIt).1)
        (trajectoryB.spline
          (advance (trajectoryA.spline aIt) (trajectoryB.spline bIt) aIt bIt).2)).1 =
        (window (trajectoryA.spline aIt) (trajectoryB.spline bIt)).2 := by
  obtain ⟨h1, h2, h3, h4⟩ := h
  simp only [RmfTraffic.advance, Trajectory.spline_finishTime] at hn ⊢
  split_ifs at hn ⊢ with hab hba <;> dsimp only at hn ⊢
  · have := trajectoryA.timeAt_lt_timeAt (Nat.lt_add_one aIt) hn.1
    refine ⟨⟨by omega, h2, by simpa using hab.le, by omega⟩, ?_⟩
    simp only [window_spline, Nat.add_sub_cancel]
    omega
  · have := trajectoryB.timeAt_lt_timeAt (Nat.lt_add_one bIt) hn.2
    refine ⟨⟨h1, by omega, by omega, by simpa using hba.le⟩, ?_⟩
    simp only [window_spline, Nat.add_sub_cancel]
    omega
  · have := trajectoryA.timeAt_lt_timeAt (Nat.lt_add_one aIt) hn.1
    have := trajectoryB.timeAt_lt_timeAt (Nat.lt_add_one bIt) hn.2
    refine ⟨⟨by omega, by omega, by simp only [Nat.add_sub_cancel]; omega,
      by simp only [Nat.add_sub_cancel]; omega⟩, ?_⟩
    simp only [window_spline, Nat.add_sub_cancel]
    omega

/-- The step that leaves the loop comes after the window that ends at `min (f_a, f_b)`. -/
theorem window_snd_of_exit
    (hn : ¬ ((RmfTraffic.advance (trajectoryA.spline aIt) (trajectoryB.spline bIt) aIt bIt).1 <
        trajectoryA.size ∧
      (RmfTraffic.advance (trajectoryA.spline aIt) (trajectoryB.spline bIt) aIt bIt).2 <
        trajectoryB.size)) :
    (window (trajectoryA.spline aIt) (trajectoryB.spline bIt)).2 =
      min trajectoryA.finishTime trajectoryB.finishTime := by
  have hfa := trajectoryA.timeAt_le_finishTime ha
  have hfb := trajectoryB.timeAt_le_finishTime hb
  simp only [RmfTraffic.advance, Trajectory.spline_finishTime] at hn
  simp only [window_spline, Trajectory.finishTime] at hfa hfb ⊢
  split_ifs at hn with hab hba <;> dsimp only at hn
  · obtain rfl : aIt = trajectoryA.size - 1 := by omega
    omega
  · obtain rfl : bIt = trajectoryB.size - 1 := by omega
    omega
  · rcases not_and_or.mp hn with hn | hn
    · obtain rfl : aIt = trajectoryA.size - 1 := by omega
      omega
    · obtain rfl : bIt = trajectoryB.size - 1 := by omega
      omega

end Aligned

/-- From an aligned pair, the windows of the sweep tile the span up to `min (f_a, f_b)`. -/
theorem tiling_sweepWindows {aIt bIt : Nat} (h : Aligned trajectoryA trajectoryB aIt bIt)
    (ha : aIt < trajectoryA.size) (hb : bIt < trajectoryB.size) :
    Tiling (sweepWindows trajectoryA trajectoryB aIt bIt)
      (window (trajectoryA.spline aIt) (trajectoryB.spline bIt)).1
      (min trajectoryA.finishTime trajectoryB.finishTime) := by
  induction aIt, bIt using sweepPairs.induct trajectoryA trajectoryB with
  | case1 aIt bIt hin ih =>
    rw [sweepWindows, sweepPairs_of_lt hin, List.map_cons]
    by_cases hn : (advance (trajectoryA.spline aIt) (trajectoryB.spline bIt) aIt bIt).1 <
        trajectoryA.size ∧
      (advance (trajectoryA.spline aIt) (trajectoryB.spline bIt) aIt bIt).2 < trajectoryB.size
    · obtain ⟨h', hw⟩ := h.advance hn
      exact .cons (h.window_le ha hb) (hw ▸ ih h' hn.1 hn.2)
    · rw [sweepPairs_of_not_lt hn, List.map_nil, ← h.window_snd_of_exit ha hb hn]
      exact .single (h.window_le ha hb)
  | case2 aIt bIt hout => exact absurd ⟨ha, hb⟩ hout

/-! ## Where the sweep starts -/

omit [LinearOrderedField K] in
/-- `get_initial_iterators` treats its two trajectories alike. -/
theorem getInitialIterators_swap [LinearOrderedField K] :
    getInitialIterators trajectoryB trajectoryA =
      (getInitialIterators trajectoryA trajectoryB).swap := by
  unfold getInitialIterators
  split_ifs <;> first | rfl | omega

omit [LinearOrderedField K] in
/-- Seeking a trajectory to a later start that it reaches stops past `begin()`, at the
segment that holds that start. -/
theorem find_bounds_of_lt [Zero K] {tr : Trajectory K} {t : Int} (hlt : tr.startTime < t)
    (hle : t ≤ tr.finishTime) (hs : 0 < tr.size) :
    1 ≤ tr.find t ∧ tr.find t < tr.size ∧ tr.timeAt (tr.find t - 1) < t ∧
      t ≤ tr.timeAt (tr.find t) := by
  have hlt' := tr.find_lt_size hs hle
  have h1 : 1 ≤ tr.find t := by
    by_contra h0
    have := tr.le_timeAt_find hlt'
    rw [show tr.find t = 0 by omega] at this
    exact absurd hlt (not_lt.mpr this)
  exact ⟨h1, hlt', tr.timeAt_lt_of_lt_find (by omega), tr.le_timeAt_find hlt'⟩

/-- The sweep starts at an aligned pair whose window opens at `max (s_a, s_b)`. -/
theorem aligned_getInitialIterators (ha : 2 ≤ trajectoryA.size) (hb : 2 ≤ trajectoryB.size)
    (hov : haveTimeOverlap trajectoryA trajectoryB = true) :
    Aligned trajectoryA trajectoryB (getInitialIterators trajectoryA trajectoryB).1
        (getInitialIterators trajectoryA trajectoryB).2 ∧
      (getInitialIterators trajectoryA trajectoryB).1 < trajectoryA.size ∧
      (getInitialIterators trajectoryA trajectoryB).2 < trajectoryB.size ∧
      (window (trajectoryA.spline (getInitialIterators trajectoryA trajectoryB).1)
        (trajectoryB.spline (getInitialIterators trajectoryA trajectoryB).2)).1 =
        max trajectoryA.startTime trajectoryB.startTime := by
  simp only [haveTimeOverlap, Bool.and_eq_true, Bool.not_eq_true', decide_eq_false_iff_not,
    not_lt] at hov
  have hA := trajectoryA.timeAt_lt_timeAt Nat.one_pos (by omega : 1 < trajectoryA.size)
  have hB := trajectoryB.timeAt_lt_timeAt Nat.one_pos (by omega : 1 < trajectoryB.size)
  have hsA : trajectoryA.startTime = trajectoryA.timeAt 0 := rfl
  have hsB : trajectoryB.startTime = trajectoryB.timeAt 0 := rfl
  unfold getInitialIterators
  split_ifs with hab hba <;> simp only [window_spline, Nat.sub_self]
  · obtain ⟨h1, h2, h3, h4⟩ := find_bounds_of_lt hab hov.2 (by omega)
    exact ⟨⟨h1, le_rfl, by omega, by simpa using h4⟩, h2, by omega, by omega⟩
  · obtain ⟨h1, h2, h3, h4⟩ := find_bounds_of_lt hba hov.1 (by omega)
    exact ⟨⟨le_rfl, h1, by simpa using h4, by omega⟩, by omega, h2, by omega⟩
  · exact ⟨⟨le_rfl, le_rfl, show trajectoryA.timeAt 0 ≤ trajectoryB.timeAt 1 by omega,
      show trajectoryB.timeAt 0 ≤ trajectoryA.timeAt 1 by omega⟩, by omega, by omega, by omega⟩

/-! ## Which pairs are visited -/

/-- Every pair the sweep visits from `(aIt, bIt)` lies at or after it, the later ones strictly. -/
theorem le_of_mem_sweepPairs {aIt bIt : Nat} {p : Nat × Nat}
    (hp : p ∈ sweepPairs trajectoryA trajectoryB aIt bIt) :
    aIt ≤ p.1 ∧ bIt ≤ p.2 := by
  induction aIt, bIt using sweepPairs.induct trajectoryA trajectoryB with
  | case1 aIt bIt hin ih =>
    rw [sweepPairs_of_lt hin] at hp
    have := advance_bounds (trajectoryA.spline aIt) (trajectoryB.spline bIt) aIt bIt
    rcases List.mem_cons.mp hp with rfl | hp
    · exact ⟨le_rfl, le_rfl⟩
    · have := ih hp
      omega
  | case2 aIt bIt hout => simp [sweepPairs_of_not_lt hout] at hp

/-- Every pair the sweep visits is a pair of segments. -/
theorem lt_size_of_mem_sweepPairs {trajectoryA trajectoryB : Trajectory K} {aIt bIt : Nat}
    {p : Nat × Nat} (hp : p ∈ sweepPairs trajectoryA trajectoryB aIt bIt) :
    p.1 < trajectoryA.size ∧ p.2 < trajectoryB.size := by
  induction aIt, bIt using sweepPairs.induct trajectoryA trajectoryB with
  | case1 aIt bIt hin ih =>
    rw [sweepPairs_of_lt hin] at hp
    rcases List.mem_cons.mp hp with rfl | hp
    exacts [hin, ih hp]
  | case2 aIt bIt hout => simp [sweepPairs_of_not_lt hout] at hp

/-- Two trajectories of one segment each have one segment pair. -/
theorem sweepPairs_of_size_two (ha : trajectoryA.size = 2) (hb : trajectoryB.size = 2) :
    sweepPairs trajectoryA trajectoryB 1 1 = [(1, 1)] := by
  have := advance_bounds (trajectoryA.spline 1) (trajectoryB.spline 1) 1 1
  rw [sweepPairs_of_lt (by omega), sweepPairs_of_not_lt (by omega)]

/-- No pair is visited twice. -/
theorem nodup_sweepPairs (aIt bIt : Nat) : (sweepPairs trajectoryA trajectoryB aIt bIt).Nodup := by
  induction aIt, bIt using sweepPairs.induct trajectoryA trajectoryB with
  | case1 aIt bIt hin ih =>
    rw [sweepPairs_of_lt hin]
    refine List.nodup_cons.mpr ⟨fun hp => ?_, ih⟩
    have := le_of_mem_sweepPairs hp
    have := advance_bounds (trajectoryA.spline aIt) (trajectoryB.spline bIt) aIt bIt
    omega
  | case2 aIt bIt hout => simp [sweepPairs_of_not_lt hout]

/-- A pair of segments that share a stretch of positive length is visited from every pair at
or before it. -/
theorem mem_sweepPairs_of_overlap {i j : Nat} (hi : i < trajectoryA.size)
    (hj : j < trajectoryB.size)
    (hov : max (trajectoryA.timeAt (i - 1)) (trajectoryB.timeAt (j - 1)) <
      min (trajectoryA.timeAt i) (trajectoryB.timeAt j))
    {aIt bIt : Nat} (ha : aIt ≤ i) (hb : bIt ≤ j) :
    (i, j) ∈ sweepPairs trajectoryA trajectoryB aIt bIt := by
  have hAB : trajectoryA.timeAt (i - 1) < trajectoryB.timeAt j :=
    (le_max_left _ _).trans_lt (hov.trans_le (min_le_right _ _))
  have hBA : trajectoryB.timeAt (j - 1) < trajectoryA.timeAt i :=
    (le_max_right _ _).trans_lt (hov.trans_le (min_le_left _ _))
  clear hov
  induction aIt, bIt using sweepPairs.induct trajectoryA trajectoryB with
  | case1 aIt bIt hin ih =>
    rw [sweepPairs_of_lt hin]
    by_cases hij : aIt = i ∧ bIt = j
    · obtain ⟨rfl, rfl⟩ := hij
      exact List.mem_cons_self _ _
    have hA : aIt < i → trajectoryA.timeAt aIt ≤ trajectoryA.timeAt (i - 1) :=
      fun h => trajectoryA.timeAt_le_timeAt (by omega) (by omega)
    have hB : bIt < j → trajectoryB.timeAt bIt ≤ trajectoryB.timeAt (j - 1) :=
      fun h => trajectoryB.timeAt_le_timeAt (by omega) (by omega)
    have hstep : (advance (trajectoryA.spline aIt) (trajectoryB.spline bIt) aIt bIt).1 ≤ i ∧
        (advance (trajectoryA.spline aIt) (trajectoryB.spline bIt) aIt bIt).2 ≤ j := by
      simp only [advance, Trajectory.spline_finishTime]
      rcases Nat.lt_or_eq_of_le ha with ha | rfl <;> rcases Nat.lt_or_eq_of_le hb with hb | rfl <;>
        split_ifs <;> dsimp only <;> omega
    exact List.mem_cons_of_mem _ (ih hstep.1 hstep.2)
  | case2 aIt bIt hout => omega

/-- Both segments of a pair that overlap with positive length are past `begin()`. -/
theorem one_le_of_overlap {i j : Nat}
    (hov : max (trajectoryA.timeAt (i - 1)) (trajectoryB.timeAt (j - 1)) <
      min (trajectoryA.timeAt i) (trajectoryB.timeAt j)) :
    1 ≤ i ∧ 1 ≤ j := by
  constructor <;> by_contra h
  · obtain rfl : i = 0 := by omega
    simp only [Nat.zero_sub] at hov
    omega
  · obtain rfl : j = 0 := by omega
    simp only [Nat.zero_sub] at hov
    omega

/-- The sweep starts at or before every pair of segments that overlap with positive length. -/
theorem getInitialIterators_le {i j : Nat} (hi : i < trajectoryA.size) (hj : j < trajectoryB.size)
    (hov : max (trajectoryA.timeAt (i - 1)) (trajectoryB.timeAt (j - 1)) <
      min (trajectoryA.timeAt i) (trajectoryB.timeAt j)) :
    (getInitialIterators trajectoryA trajectoryB).1 ≤ i ∧
      (getInitialIterators trajectoryA trajectoryB).2 ≤ j := by
  obtain ⟨hi1, hj1⟩ := one_le_of_overlap hov
  have hA : trajectoryA.startTime ≤ trajectoryA.timeAt (i - 1) :=
    trajectoryA.timeAt_le_timeAt (Nat.zero_le _) (by omega)
  have hB : trajectoryB.startTime ≤ trajectoryB.timeAt (j - 1) :=
    trajectoryB.timeAt_le_timeAt (Nat.zero_le _) (by omega)
  unfold getInitialIterators
  split_ifs <;> dsimp only
  · exact ⟨trajectoryA.find_le_of_le (by omega), hj1⟩
  · exact ⟨hi1, trajectoryB.find_le_of_le (by omega)⟩
  · exact ⟨hi1, hj1⟩

/-! ## The windows tile the common span -/

/-- On valid trajectories that overlap in time, the windows of the pairs `detect_invasion`
visits from `get_initial_iterators` are non-empty, each starts where the one before finished,
the first starts at `max (s_a, s_b)` and the last finishes at `min (f_a, f_b)`. So every
instant of the common span lies in one of them; no pair is visited twice, and every pair of
segments that overlap with positive length is visited. -/
theorem sweep_windows_tile_common_span (trajectoryA trajectoryB : Trajectory K)
    (ha : 2 ≤ trajectoryA.size) (hb : 2 ≤ trajectoryB.size)
    (hov : haveTimeOverlap trajectoryA trajectoryB = true) :
    let its := getInitialIterators trajectoryA trajectoryB
    let ws := sweepWindows trajectoryA trajectoryB its.1 its.2
    (∀ w ∈ ws, w.1 ≤ w.2) ∧ ws.Chain' (fun w w' => w'.1 = w.2) ∧
      ws.head?.map Prod.fst = some (max trajectoryA.startTime trajectoryB.startTime) ∧
      ws.getLast?.map Prod.snd = some (min trajectoryA.finishTime trajectoryB.finishTime) ∧
      (∀ t, max trajectoryA.startTime trajectoryB.startTime ≤ t →
        t ≤ min trajectoryA.finishTime trajectoryB.finishTime → ∃ w ∈ ws, w.1 ≤ t ∧ t ≤ w.2) ∧
      (sweepPairs trajectoryA trajectoryB its.1 its.2).Nodup ∧
      (∀ i j, i < trajectoryA.size → j < trajectoryB.size →
        max (trajectoryA.timeAt (i - 1)) (trajectoryB.timeAt (j - 1)) <
          min (trajectoryA.timeAt i) (trajectoryB.timeAt j) →
        (i, j) ∈ sweepPairs trajectoryA trajectoryB its.1 its.2) := by
  obtain ⟨hal, hia, hib, hstart⟩ := aligned_getInitialIterators ha hb hov
  have ht := hstart ▸ tiling_sweepWindows hal hia hib
  refine ⟨ht.nonempty, ht.chain, ht.head, ht.last, fun t h1 h2 => ht.covers h1 h2,
    nodup_sweepPairs _ _, fun i j hi hj hij => ?_⟩
  obtain ⟨h1, h2⟩ := getInitialIterators_le hi hj hij
  exact mem_sweepPairs_of_overlap hi hj hij h1 h2

/-- A vehicle standing at the origin for one second. -/
def standing : Trajectory ℚ :=
  ⟨[⟨0, 0, 0⟩, ⟨1000000000, 0, 0⟩], List.pairwise_pair.mpr (by decide)⟩

theorem standing_size : standing.size = 2 := rfl

theorem sweep_windows_tile_standing :
    2 ≤ standing.size ∧ haveTimeOverlap standing standing = true ∧
      (sweepWindows standing standing (getInitialIterators standing standing).1
        (getInitialIterators standing standing).2).head?.map Prod.fst =
        some (max standing.startTime standing.startTime) :=
  ⟨by decide, by decide,
    (sweep_windows_tile_common_span standing standing (by decide) (by decide) (by decide)).2.2.1⟩

end RmfTraffic
