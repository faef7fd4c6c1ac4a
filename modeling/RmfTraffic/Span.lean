import RmfTraffic.HandOff

/-!
# When the reported conflicts happen

Every time `between` returns, and every conflict it appends to the caller's list, lies in the
span both trajectories cover, `[max (s_a, s_b), min (f_a, f_b)]`: in both modes, and on every
path of the call. `detect_invasion` finds its conflicts in the windows of the segment pairs it
visits; `detect_approach` records conflicts at the start of a window and at the distance
differential's approach times; and a hand-off runs `detect_invasion` on copies sliced at an
approach time, which start at that time and finish with the callers' trajectories. What the
caller's list held before the call is not the call's own: the results are for a list whose
entries already lie in the span, the empty list among them.

The distance differential is not among the sources. The spec places its approach times in the
window the two splines share, `(t₀, t₁]`; `Oracle.ApproachInWindow` asks for the closed window.

## What is proved

- `record_within`, `afterLoop_within`: recording conflicts of a span, and leaving a loop, keep
  the list and the time returned in it.
- `invasionFound_within`: from an aligned pair, `detect_invasion` finds its conflicts in the
  span of the trajectories it runs on; `detectInvasion_within` then holds whatever the list.
- `sliceTrajectory_times`, `handOff_within`: a copy sliced at `t` starts at `t` and finishes no
  later than its trajectory, so a hand-off at a time of the window stays in the callers' span.
- `approachScan_within`, `approachStep_within`, and the run lemma `approachSweep_within`.
- `between_within_common_span`: the whole call.
-/

set_option autoImplicit false

namespace RmfTraffic

variable {K : Type} [LinearOrderedField K] [FloorRing K]

/-- What the distance differential promises: the instants at which the vehicles begin to
approach lie in the window the two splines share. -/
def Oracle.ApproachInWindow (o : Oracle K) : Prop :=
  ∀ splineA splineB, ∀ t ∈ o.approachTimes splineA splineB,
    (window splineA splineB).1 ≤ t ∧ t ≤ (window splineA splineB).2

omit [FloorRing K] in
/-- The disc library's approach times are nanoseconds of the window. -/
theorem discOracle_approachInWindow (sqrt : K → K) : (discOracle sqrt).ApproachInWindow :=
  fun _ _ _ ht =>
    have h := mem_nanosecondsAfter.mp (List.mem_filter.mp ht).1
    ⟨h.1.le, h.2⟩

/-- The span both trajectories cover, `[max (s_a, s_b), min (f_a, f_b)]`. -/
def commonSpan (trajectoryA trajectoryB : Trajectory K) : Int × Int :=
  (max trajectoryA.startTime trajectoryB.startTime,
    min trajectoryA.finishTime trajectoryB.finishTime)

/-- Every entry of the output list lies in the span. -/
def ListWithin (span : Int × Int) (out : Option (List Conflict)) : Prop :=
  ∀ l ∈ out, ∀ c ∈ l, span.1 ≤ c.time ∧ c.time ≤ span.2

/-- The time a call returns, and every entry of its list, lie in the span. -/
def OutcomeWithin (span : Int × Int) (outcome : Outcome) : Prop :=
  (∀ t ∈ outcome.result, span.1 ≤ t ∧ t ≤ span.2) ∧ ListWithin span outcome.conflicts

theorem bind_eq_ok {ε α β : Type} {x : Except ε α} {f : α → Except ε β} {b : β} :
    x >>= f = .ok b ↔ ∃ a, x = .ok a ∧ f a = .ok b := by
  cases x <;> simp [bind, Except.bind]

/-! ## Lists in a span -/

section Within

variable {span : Int × Int}

theorem listWithin_none : ListWithin span none :=
  fun l hl => absurd hl (Option.not_mem_none l)

/-- A list `detect_invasion` has just cleared. -/
theorem listWithin_clear (out : Option (List Conflict)) :
    ListWithin span (out.map fun _ => []) := by
  rcases out with _ | l
  · exact listWithin_none
  · rintro _ ⟨⟩ c hc
    exact absurd hc (List.not_mem_nil c)

/-- Recording conflicts of the span keeps the list in it, and an early return gives a time of
it. -/
theorem record_within {out : Option (List Conflict)} {found : List Conflict}
    (hout : ListWithin span out) (hfound : ∀ c ∈ found, span.1 ≤ c.time ∧ c.time ≤ span.2) :
    (record out found).elim (fun time => span.1 ≤ time ∧ time ≤ span.2) (ListWithin span) := by
  rcases out with _ | l
  · cases found with
    | nil => exact listWithin_none
    | cons c _ => exact hfound c (List.mem_cons_self _ _)
  · rintro _ ⟨⟩ c hc
    rcases List.mem_append.mp hc with hc | hc
    exacts [hout l rfl c hc, hfound c hc]

/-- An early return, with a time of the span. -/
theorem outcomeWithin_early {time : Int} (h : span.1 ≤ time ∧ time ≤ span.2) :
    OutcomeWithin span ⟨some time, none⟩ :=
  ⟨fun t ht => by cases ht; exact h, listWithin_none⟩

/-- After the loop, the time returned is the first entry's. -/
theorem afterLoop_within {out : Option (List Conflict)} (hout : ListWithin span out) :
    OutcomeWithin span (afterLoop out) := by
  refine ⟨fun t ht => ?_, hout⟩
  rcases out with _ | l
  · exact absurd ht (Option.not_mem_none t)
  · obtain ⟨c, hc, rfl⟩ := Option.mem_map.mp ht
    exact hout l rfl c (List.mem_of_mem_head? hc)

variable {o : Oracle K} {profileA profileB : Profile K} {trajectoryA trajectoryB : Trajectory K}
  {owner : Owner} {aIt bIt : Nat}
  (hfound : ∀ c ∈ invasionFound o profileA trajectoryA profileB trajectoryB owner aIt bIt,
    span.1 ≤ c.time ∧ c.time ≤ span.2)
include hfound

/-- The sweep stays in a span that holds every conflict it finds. -/
theorem invasionSweep_within {out : Option (List Conflict)} (hout : ListWithin span out) :
    OutcomeWithin span
      (invasionSweep o profileA trajectoryA profileB trajectoryB owner aIt bIt out) := by
  rcases out with _ | l
  · rw [invasionSweep_none]
    refine ⟨fun t ht => ?_, listWithin_none⟩
    obtain ⟨c, hc, rfl⟩ := Option.mem_map.mp ht
    exact hfound c (List.mem_of_mem_head? hc)
  · rw [invasionSweep_some]
    exact afterLoop_within (record_within hout hfound)

theorem detectInvasion_within (out : Option (List Conflict)) :
    OutcomeWithin span
      (detectInvasion o profileA trajectoryA profileB trajectoryB owner aIt bIt out) :=
  invasionSweep_within hfound (listWithin_clear out)

end Within

/-! ## `detect_invasion` stays in the span of its trajectories -/

omit [FloorRing K] in
theorem Trajectory.time_le_finishTime {tr : Trajectory K} {w : Waypoint K}
    (hw : w ∈ tr.waypoints) : w.time ≤ tr.finishTime := by
  obtain ⟨j, hj, rfl⟩ := List.getElem_of_mem hw
  rw [← Trajectory.timeAt_eq_getElem hj]
  exact Trajectory.timeAt_le_finishTime hj

omit [FloorRing K] in
/-- A time of the window of two segments lies in the span. -/
theorem within_commonSpan_of_window {trajectoryA trajectoryB : Trajectory K} {aIt bIt : Nat}
    (ha : aIt < trajectoryA.size) (hb : bIt < trajectoryB.size) {t : Int}
    (ht : (window (trajectoryA.spline aIt) (trajectoryB.spline bIt)).1 ≤ t ∧
      t ≤ (window (trajectoryA.spline aIt) (trajectoryB.spline bIt)).2) :
    (commonSpan trajectoryA trajectoryB).1 ≤ t ∧ t ≤ (commonSpan trajectoryA trajectoryB).2 := by
  have : trajectoryA.startTime ≤ trajectoryA.timeAt (aIt - 1) :=
    trajectoryA.timeAt_le_timeAt (Nat.zero_le _) (by omega)
  have : trajectoryB.startTime ≤ trajectoryB.timeAt (bIt - 1) :=
    trajectoryB.timeAt_le_timeAt (Nat.zero_le _) (by omega)
  have := trajectoryA.timeAt_le_finishTime ha
  have := trajectoryB.timeAt_le_finishTime hb
  simp only [window_spline, commonSpan] at ht ⊢
  omega

/-- From an aligned pair, or from past the end, the sweep finds its conflicts in the span of
the trajectories it runs on. -/
theorem invasionFound_within {o : Oracle K} (ho : o.ContactInWindow)
    (profileA profileB : Profile K) {trajectoryA trajectoryB : Trajectory K} (owner : Owner)
    {aIt bIt : Nat}
    (h : aIt < trajectoryA.size ∧ bIt < trajectoryB.size → Aligned trajectoryA trajectoryB aIt bIt)
    {c : Conflict}
    (hc : c ∈ invasionFound o profileA trajectoryA profileB trajectoryB owner aIt bIt) :
    (commonSpan trajectoryA trajectoryB).1 ≤ c.time ∧
      c.time ≤ (commonSpan trajectoryA trajectoryB).2 := by
  by_cases hab : aIt < trajectoryA.size ∧ bIt < trajectoryB.size
  · obtain ⟨i, j, -, -, -, hi, -, hj, h1, h2, h3, h4⟩ :=
      invasionFound_in_segments ho profileA profileB owner (h hab) hab.1 hab.2 hc
    exact within_commonSpan_of_window hi hj (by simp only [window_spline]; omega)
  · rw [invasionFound, sweepPairs_of_not_lt hab] at hc
    exact absurd hc (List.not_mem_nil c)

/-! ## The hand-off -/

omit [FloorRing K] in
/-- A copy sliced at `t`, no later than the waypoint at `it`, starts at `t`, finishes no later
than the trajectory, and has no waypoint before `t`. -/
theorem sliceTrajectory_times {t : Int} (spline : Spline K) {trajectory : Trajectory K}
    {it : Nat} (hit : it < trajectory.size) (ht : t ≤ trajectory.timeAt it) :
    (sliceTrajectory t spline trajectory it).startTime = t ∧
      (sliceTrajectory t spline trajectory it).finishTime ≤ trajectory.finishTime ∧
      ∀ k < (sliceTrajectory t spline trajectory it).size,
        t ≤ (sliceTrajectory t spline trajectory it).timeAt k := by
  obtain ⟨rest, hw, hrest⟩ : ∃ rest, (sliceTrajectory t spline trajectory it).waypoints =
      ⟨t, spline.computePosition t, spline.computeVelocity t⟩ :: rest ∧
      ∀ w ∈ rest, t ≤ w.time ∧ w ∈ trajectory.waypoints := by
    rcases ht.lt_or_eq with ht | ht
    · exact ⟨_, sliceTrajectory_waypoints_of_lt ht,
        fun w hw => ⟨ht.le.trans (timeAt_le_of_mem_drop hw).2, List.mem_of_mem_drop hw⟩⟩
    · refine ⟨_, sliceTrajectory_waypoints_of_eq hit ht, fun w hw => ?_⟩
      obtain ⟨hs, hle⟩ := timeAt_le_of_mem_drop hw
      exact ⟨(ht ▸ trajectory.timeAt_le_timeAt (Nat.le_succ it) hs).trans hle,
        List.mem_of_mem_drop hw⟩
  have hbound : ∀ w ∈ (sliceTrajectory t spline trajectory it).waypoints,
      t ≤ w.time ∧ w.time ≤ trajectory.finishTime := by
    rw [hw, List.forall_mem_cons]
    exact ⟨⟨le_rfl, ht.trans (trajectory.timeAt_le_finishTime hit)⟩,
      fun w hw => ⟨(hrest w hw).1, Trajectory.time_le_finishTime (hrest w hw).2⟩⟩
  have hsize : 0 < (sliceTrajectory t spline trajectory it).size := by
    simp [Trajectory.size, hw]
  have htime : ∀ k < (sliceTrajectory t spline trajectory it).size,
      t ≤ (sliceTrajectory t spline trajectory it).timeAt k ∧
        (sliceTrajectory t spline trajectory it).timeAt k ≤ trajectory.finishTime :=
    fun k hk => Trajectory.timeAt_eq_getElem hk ▸ hbound _ (List.getElem_mem hk)
  exact ⟨by simp [Trajectory.startTime, Trajectory.timeAt, Trajectory.get, hw],
    (htime _ (by omega)).2, fun k hk => (htime k hk).1⟩

variable {o : Oracle K} {profileA profileB : Profile K} {trajectoryA trajectoryB : Trajectory K}

/-- A hand-off at a time of a pair's window stays in the callers' span, whatever the list. -/
theorem handOff_within (ho : o.ContactInWindow) {aIt bIt : Nat} (ha : aIt < trajectoryA.size)
    (hb : bIt < trajectoryB.size) {t : Int}
    (ht : (window (trajectoryA.spline aIt) (trajectoryB.spline bIt)).1 ≤ t ∧
      t ≤ (window (trajectoryA.spline aIt) (trajectoryB.spline bIt)).2)
    (out : Option (List Conflict)) :
    OutcomeWithin (commonSpan trajectoryA trajectoryB)
      (handOff o profileA trajectoryA profileB trajectoryB t aIt bIt out) := by
  have hspan := within_commonSpan_of_window ha hb ht
  simp only [window_spline] at ht
  obtain ⟨hsA, hfA, hA⟩ := sliceTrajectory_times (trajectoryA.spline aIt) ha
    (show t ≤ trajectoryA.timeAt aIt by omega)
  obtain ⟨hsB, hfB, hB⟩ := sliceTrajectory_times (trajectoryB.spline bIt) hb
    (show t ≤ trajectoryB.timeAt bIt by omega)
  refine detectInvasion_within (fun c hc => ?_) out
  have := invasionFound_within ho profileA profileB .slice
    (fun hs => ⟨le_rfl, le_rfl, hsA.trans_le (hB 1 hs.2), hsB.trans_le (hA 1 hs.1)⟩) hc
  simp only [commonSpan] at this hspan ⊢
  omega

/-! ## `detect_approach` -/

section Approach

variable (ho : o.ContactInWindow) {aIt bIt : Nat} (ha : aIt < trajectoryA.size)
  (hb : bIt < trajectoryB.size)
include ho ha hb

/-- The scan over times of the window keeps the list in the span, and what it returns is in
it. -/
theorem approachScan_within : ∀ (ts : List Int),
    (∀ t ∈ ts, (window (trajectoryA.spline aIt) (trajectoryB.spline bIt)).1 ≤ t ∧
      t ≤ (window (trajectoryA.spline aIt) (trajectoryB.spline bIt)).2) →
    ∀ {out : Option (List Conflict)}, ListWithin (commonSpan trajectoryA trajectoryB) out →
      ∀ {r}, approachScan o profileA trajectoryA profileB trajectoryB aIt bIt ts out = .ok r →
        r.elim (OutcomeWithin (commonSpan trajectoryA trajectoryB))
          (ListWithin (commonSpan trajectoryA trajectoryB))
  | [], _, _, hout, _, h => by
    cases h
    exact hout
  | t :: ts, hts, out, hout, r, h => by
    have ht := hts t (List.mem_cons_self t ts)
    obtain ⟨close, -, h⟩ := bind_eq_ok.mp h
    cases close
    · cases h
      exact handOff_within ho ha hb ht out
    · have hfound : ∀ c ∈ [(⟨⟨.caller, aIt⟩, ⟨.caller, bIt⟩, t⟩ : Conflict)],
          (commonSpan trajectoryA trajectoryB).1 ≤ c.time ∧
            c.time ≤ (commonSpan trajectoryA trajectoryB).2 := by
        simpa using within_commonSpan_of_window ha hb ht
      have hrec := record_within hout hfound
      rw [if_neg (by decide)] at h
      split at h <;> rename_i heq <;> rw [heq] at hrec
      · cases h
        exact outcomeWithin_early hrec
      · exact approachScan_within ts (fun t' ht' => hts t' (List.mem_cons_of_mem t ht')) hrec h

/-- One step of the loop from an aligned pair: the conflict at the start of the window, and
those at the approach times, lie in the span. -/
theorem approachStep_within (hap : o.ApproachInWindow)
    (hal : Aligned trajectoryA trajectoryB aIt bIt) {out : Option (List Conflict)}
    (hout : ListWithin (commonSpan trajectoryA trajectoryB) out) {r}
    (h : approachStep o profileA trajectoryA profileB trajectoryB aIt bIt out = .ok r) :
    r.elim (OutcomeWithin (commonSpan trajectoryA trajectoryB))
      (ListWithin (commonSpan trajectoryA trajectoryB)) := by
  have hinitial : ∀ c ∈ (if o.initiallyApproaching (trajectoryA.spline aIt) (trajectoryB.spline bIt)
      then [(⟨⟨.caller, aIt⟩, ⟨.caller, bIt⟩,
        (window (trajectoryA.spline aIt) (trajectoryB.spline bIt)).1⟩ : Conflict)] else []),
      (commonSpan trajectoryA trajectoryB).1 ≤ c.time ∧
        c.time ≤ (commonSpan trajectoryA trajectoryB).2 := by
    split_ifs
    · exact List.forall_mem_singleton.mpr
        (within_commonSpan_of_window ha hb ⟨le_rfl, hal.window_le ha hb⟩)
    · exact fun c hc => absurd hc (List.not_mem_nil c)
  have hrec := record_within hout hinitial
  simp only [approachStep] at h
  split at h <;> rename_i heq <;> rw [heq] at hrec
  · cases h
    exact outcomeWithin_early hrec
  · exact approachScan_within ho ha hb _ (hap _ _) hrec h

end Approach

/-- The run lemma of `detect_approach`'s loop: from an aligned pair, or from past the end, what
it returns lies in the span, for a list that starts in it. -/
theorem approachSweep_within (ho : o.ContactInWindow) (hap : o.ApproachInWindow) {aIt bIt : Nat}
    (hal : aIt < trajectoryA.size ∧ bIt < trajectoryB.size →
      Aligned trajectoryA trajectoryB aIt bIt)
    {out : Option (List Conflict)} (hout : ListWithin (commonSpan trajectoryA trajectoryB) out)
    {outcome : Outcome}
    (h : approachSweep o profileA trajectoryA profileB trajectoryB aIt bIt out = .ok outcome) :
    OutcomeWithin (commonSpan trajectoryA trajectoryB) outcome := by
  induction aIt, bIt using sweepPairs.induct trajectoryA trajectoryB generalizing out with
  | case1 aIt bIt hlt ih =>
    rw [approachSweep_of_lt hlt] at h
    obtain ⟨r, hr, h⟩ := bind_eq_ok.mp h
    have hstep := approachStep_within ho hlt.1 hlt.2 hap (hal hlt) hout hr
    rcases r with outcome' | out'
    · cases h
      exact hstep
    · obtain ⟨stillClose, -, h⟩ := bind_eq_ok.mp h
      have hnext := fun hn => ((hal hlt).advance hn).1
      cases stillClose
      · cases h
        exact detectInvasion_within
          (fun c hc => invasionFound_within ho profileA profileB .caller hnext hc) out'
      · rw [if_neg (by decide)] at h
        exact ih hnext hstep h
  | case2 aIt bIt hlt =>
    rw [approachSweep_of_not_lt hlt] at h
    cases h
    exact afterLoop_within hout

/-! ## `between` -/

/-- Past the early exits both modes run from the aligned start. -/
theorem engage_within (ho : o.ContactInWindow) (hap : o.ApproachInWindow)
    (ha : 2 ≤ trajectoryA.size) (hb : 2 ≤ trajectoryB.size)
    (hov : haveTimeOverlap trajectoryA trajectoryB = true) {out : Option (List Conflict)}
    (hout : ListWithin (commonSpan trajectoryA trajectoryB) out) {outcome : Outcome}
    (h : engage o profileA trajectoryA profileB trajectoryB out = .ok outcome) :
    OutcomeWithin (commonSpan trajectoryA trajectoryB) outcome := by
  obtain ⟨hal, -, -, -⟩ := aligned_getInitialIterators ha hb hov
  obtain ⟨close, -, h⟩ := bind_eq_ok.mp h
  cases close
  · cases h
    exact detectInvasion_within
      (fun c hc => invasionFound_within ho profileA profileB .caller (fun _ => hal) hc) out
  · exact approachSweep_within ho hap (fun _ => hal) hout h

/-- Every time `between` returns, and every conflict it leaves in the caller's list, lies in
the span both trajectories cover, when the list starts in it (empty, or no list at all): for
every collision library that reports a contact as a fraction of the window, and every distance
differential whose approach times lie in the window. -/
theorem between_within_common_span {o : Oracle K} (hco : o.ContactInWindow)
    (hap : o.ApproachInWindow) (inputProfileA : Profile K) (trajectoryA : Trajectory K)
    (inputProfileB : Profile K) (trajectoryB : Trajectory K) {out : Option (List Conflict)}
    (hout : ListWithin (commonSpan trajectoryA trajectoryB) out) {outcome : Outcome}
    (h : DetectConflict.Implementation.between o inputProfileA trajectoryA inputProfileB
      trajectoryB out = .ok outcome) :
    OutcomeWithin (commonSpan trajectoryA trajectoryB) outcome := by
  by_cases he : Engaged inputProfileA trajectoryA inputProfileB trajectoryB
  · rw [between_of_engaged he] at h
    exact engage_within hco hap he.validA he.validB he.timeOverlap hout h
  rcases lt_or_le trajectoryA.size 2 with ha | ha
  · rw [DetectConflict.Implementation.between, if_pos ha] at h
    cases h
  rcases lt_or_le trajectoryB.size 2 with hb | hb
  · rw [DetectConflict.Implementation.between, if_neg (not_lt.mpr ha), if_pos hb] at h
    cases h
  rw [between_of_not_engaged ha hb he] at h
  cases h
  exact ⟨fun t ht => absurd ht (Option.not_mem_none t), hout⟩

/-- The arriving and the standing vehicle of `between_complement_out_of_order`: both conflicts,
and the time returned, lie in the one second both trajectories cover. -/
theorem between_within_common_span_arriving :
    (discOracle Rat.sqrt).ContactInWindow ∧ (discOracle Rat.sqrt).ApproachInWindow ∧
      ListWithin (commonSpan arriving standing) (some []) ∧
      DetectConflict.Implementation.between (discOracle Rat.sqrt) ⟨some ⟨0, 1⟩, some ⟨1, 3⟩⟩
        arriving ⟨some ⟨2, 1⟩, some ⟨3, 2⟩⟩ standing (some []) =
        .ok ⟨some 700000000, some [⟨⟨.caller, 1⟩, ⟨.caller, 1⟩, 700000000⟩,
          ⟨⟨.caller, 1⟩, ⟨.caller, 1⟩, 600000000⟩]⟩ ∧
      OutcomeWithin (commonSpan arriving standing) ⟨some 700000000,
        some [⟨⟨.caller, 1⟩, ⟨.caller, 1⟩, 700000000⟩, ⟨⟨.caller, 1⟩, ⟨.caller, 1⟩, 600000000⟩]⟩ := by
  have hout : ListWithin (commonSpan arriving standing) (some []) := fun l hl c hc => by
    cases hl
    exact absurd hc (List.not_mem_nil c)
  exact ⟨discOracle_contactInWindow _, discOracle_approachInWindow _, hout,
    between_arriving_some _, between_within_common_span (discOracle_contactInWindow Rat.sqrt)
      (discOracle_approachInWindow Rat.sqrt) _ _ _ _ hout (between_arriving_some _)⟩

end RmfTraffic
