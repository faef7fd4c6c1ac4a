import RmfTraffic.HandOff

/-!
# The two vehicles in the other order

`between` names its vehicles `a` and `b`, but a conflict between them is a fact about the pair.
What makes the order matter is what the call does differently to its two arguments: the first
test of `detect_invasion` puts `a`'s footprint against `b`'s vicinity and the complement test
the other way round, so swapping the vehicles swaps the order of the two tests of each segment
pair, and with it the order of the conflicts found and the time returned
(`between_not_symmetric`). The checks for valid trajectories come in the order of the
arguments too, so an invalid pair fails with another message.

When neither profile needs a complement test (each vicinity is its footprint after
`convert_profile`) there is one test per segment pair, and nothing else depends on the order:
the lock-step loops advance the segment that finishes first, `close_start` and `check_overlap`
ask about the same shapes, and the distance differential is asked about the same splines. For a
collision library and a distance differential that do not depend on the order of their two
arguments (`Oracle.Symmetric`), the swapped call runs through the same segment pairs and takes
the same exits.

## What is proved

One lemma per function says that it commutes with the swap: each test and each check gives the
same answer, the sweep visits the same pairs in the same order with their iterators exchanged,
and every conflict is recorded with its two iterators exchanged. The loops of `detect_approach`
are taken through the swap once (`approachSweep_transport`), for any two views of an outcome
that agree on what `detect_invasion` returns. `between_commutes_with_swap` puts them together
for every call on valid trajectories, with any list.

With complement tests the two tests of each segment pair only change places, so the list of
every segment pair is a permutation of the other's (`invasionHits_swap_perm`).
`between_swap_finds_same_conflicts` follows it through both loops: for any profiles with a
footprint the swapped call fails in the same way, returns a time exactly when the original
does, and lists the same multiset of conflicts.
-/

set_option autoImplicit false

namespace RmfTraffic

/-- The same conflict seen from the other vehicle: its two iterators exchanged. -/
def Conflict.swap (c : Conflict) : Conflict := ⟨c.bIt, c.aIt, c.time⟩

/-- The content of an output list, every entry seen from the other vehicle. -/
def swapConflicts (out : Option (List Conflict)) : Option (List Conflict) :=
  out.map (List.map Conflict.swap)

/-- What a call leaves, seen from the other vehicle: the same time, the list swapped. -/
def Outcome.swap (outcome : Outcome) : Outcome :=
  ⟨outcome.result, swapConflicts outcome.conflicts⟩

@[simp] theorem Conflict.time_swap (c : Conflict) : c.swap.time = c.time := rfl

theorem record_swap (out : Option (List Conflict)) (found : List Conflict) :
    record (swapConflicts out) (found.map Conflict.swap) =
      Sum.map id swapConflicts (record out found) := by
  cases out <;> cases found <;> simp [record, swapConflicts]

theorem afterLoop_swap (out : Option (List Conflict)) :
    afterLoop (swapConflicts out) = (afterLoop out).swap := by
  cases out with
  | none => rfl
  | some l => cases l <;> rfl

variable {K : Type}

theorem advance_swap (splineA splineB : Spline K) (aIt bIt : Nat) :
    advance splineB splineA bIt aIt = (advance splineA splineB aIt bIt).swap := by
  unfold advance
  split_ifs <;> first | rfl | (exfalso; omega)

/-- The conflict `detect_approach` records when the vehicles start out approaching. -/
theorem initial_swap (approaching : Bool) (aIt bIt : Nat) (t : Int) :
    (if approaching then [(⟨⟨.caller, bIt⟩, ⟨.caller, aIt⟩, t⟩ : Conflict)] else []) =
      (if approaching then [(⟨⟨.caller, aIt⟩, ⟨.caller, bIt⟩, t⟩ : Conflict)] else []).map
        Conflict.swap := by
  cases approaching <;> rfl

section Pairs

variable [LinearOrderedField K]

theorem sweepPairs_swap (trajectoryA trajectoryB : Trajectory K) (aIt bIt : Nat) :
    sweepPairs trajectoryB trajectoryA bIt aIt =
      (sweepPairs trajectoryA trajectoryB aIt bIt).map Prod.swap := by
  induction aIt, bIt using sweepPairs.induct trajectoryA trajectoryB with
  | case1 aIt bIt h ih =>
    rw [sweepPairs_of_lt h.symm, sweepPairs_of_lt h, advance_swap, List.map_cons]
    exact congrArg _ ih
  | case2 aIt bIt h =>
    rw [sweepPairs_of_not_lt (mt And.symm h), sweepPairs_of_not_lt h, List.map_nil]

theorem haveTimeOverlap_swap (trajectoryA trajectoryB : Trajectory K) :
    haveTimeOverlap trajectoryB trajectoryA = haveTimeOverlap trajectoryA trajectoryB :=
  Bool.and_comm _ _

theorem engaged_swap {inputProfileA inputProfileB : Profile K}
    {trajectoryA trajectoryB : Trajectory K} :
    Engaged inputProfileB trajectoryB inputProfileA trajectoryA ↔
      Engaged inputProfileA trajectoryA inputProfileB trajectoryB := by
  constructor <;> rintro ⟨ha, hb, hf, hva, hvb, hov⟩ <;>
    exact ⟨hb, ha, hf.symm, hvb, hva, by rw [haveTimeOverlap_swap]; exact hov⟩

end Pairs

/-! ## One segment pair -/

section Pair

variable [LinearOrderedField K]

/-- Without a complement test each profile's vicinity is its footprint. -/
theorem vicinity_eq_of_testComplement {profileA profileB : Profile K}
    (hc : testComplement profileA profileB = false) :
    profileA.vicinity = profileA.footprint ∧ profileB.vicinity = profileB.footprint := by
  simpa [testComplement] using hc

variable {o : Oracle K} (hs : o.Symmetric)
include hs

/-- `fcl::collide` is asked about the same two shapes, and fails on the same absent one. -/
theorem collidePair_swap (shapeA : Option (FinalConvexShape K)) (splineA : Spline K)
    (shapeB : Option (FinalConvexShape K)) (splineB : Spline K) (time : Int) :
    collidePair o shapeB splineB shapeA splineA time =
      collidePair o shapeA splineA shapeB splineB time := by
  rcases shapeA with _ | x <;> rcases shapeB with _ | y
  all_goals try rfl
  exact congrArg Except.ok (hs.collide _ _ _ _)

/-- With both pointers of each profile set, `check_overlap` asks its two pairs in the other
order and gets the same answer. -/
theorem checkOverlap_swap_of_complete {profileA profileB : Profile K} (hA : profileA.Complete)
    (hB : profileB.Complete) (splineA splineB : Spline K) (time : Int) :
    checkOverlap o profileB splineB profileA splineA time =
      checkOverlap o profileA splineA profileB splineB time := by
  obtain ⟨fA, hfA⟩ := Option.isSome_iff_exists.mp hA.footprint
  obtain ⟨vA, hvA⟩ := Option.isSome_iff_exists.mp hA.vicinity
  obtain ⟨fB, hfB⟩ := Option.isSome_iff_exists.mp hB.footprint
  obtain ⟨vB, hvB⟩ := Option.isSome_iff_exists.mp hB.vicinity
  have hpair : ∀ x y, collidePair o (some x) splineA (some y) splineB time =
      .ok (o.collide x (splineA.computePosition time) y (splineB.computePosition time)) :=
    fun _ _ => rfl
  simp only [checkOverlap, hfA, hvA, hfB, hvB, collidePair_swap hs (some vA),
    collidePair_swap hs (some fA), hpair]
  cases o.collide fA (splineA.computePosition time) vB (splineB.computePosition time) <;>
    cases o.collide vA (splineA.computePosition time) fB (splineB.computePosition time) <;> rfl

/-- Without a complement test both pairs of `check_overlap` put the two footprints against each
other. -/
theorem checkOverlap_swap {profileA profileB : Profile K}
    (hc : testComplement profileA profileB = false) (splineA splineB : Spline K) (time : Int) :
    checkOverlap o profileB splineB profileA splineA time =
      checkOverlap o profileA splineA profileB splineB time := by
  obtain ⟨hA, hB⟩ := vicinity_eq_of_testComplement hc
  simp only [checkOverlap, hA, hB, collidePair_swap hs]

variable [FloorRing K]

/-- A test of a segment pair asks the collision library about the same two shapes over the same
window. -/
theorem invasionTest_swap (shapeA : Option (FinalConvexShape K)) (boxA : Option (BoundingBox K))
    (splineA : Spline K) (shapeB : Option (FinalConvexShape K)) (boxB : Option (BoundingBox K))
    (splineB : Spline K) (aIt bIt : Iter) :
    invasionTest o shapeB boxB splineB shapeA boxA splineA bIt aIt =
      (invasionTest o shapeA boxA splineA shapeB boxB splineB aIt bIt).map Conflict.swap := by
  unfold invasionTest
  rw [overlap_comm boxB, window_swap]
  split_ifs
  · rcases shapeA with _ | x <;> rcases shapeB with _ | y
    all_goals try rfl
    simp only [checkCollision, hs.continuousCollide y]
    cases o.continuousCollide x splineA y splineB (window splineA splineB).1
      (window splineA splineB).2 <;> rfl
  · rfl

/-- The one test of a segment pair puts the two footprints against each other. -/
theorem invasionHits_swap {profileA profileB : Profile K}
    (hc : testComplement profileA profileB = false) (splineA splineB : Spline K)
    (aIt bIt : Iter) :
    invasionHits o profileB splineB profileA splineA bIt aIt =
      (invasionHits o profileA splineA profileB splineB aIt bIt).map Conflict.swap := by
  obtain ⟨hA, hB⟩ := vicinity_eq_of_testComplement hc
  have hc' : testComplement profileB profileA = false := by
    rw [testComplement, Bool.or_comm]
    exact hc
  simp only [invasionHits, hc, hc', Bool.false_eq_true, if_false, List.append_nil,
    getBoundingProfile_footprint, getBoundingProfile_vicinity, hA, hB]
  rw [invasionTest_swap hs profileA.footprint]

/-- With a complement test, the two tests of a segment pair come in the other order. -/
theorem invasionHits_swap_perm (profileA profileB : Profile K) (splineA splineB : Spline K)
    (aIt bIt : Iter) :
    (invasionHits o profileB splineB profileA splineA bIt aIt).Perm
      ((invasionHits o profileA splineA profileB splineB aIt bIt).map Conflict.swap) := by
  cases hc : testComplement profileA profileB
  · rw [invasionHits_swap hs hc]
  · have hc' : testComplement profileB profileA = true := by
      rw [testComplement, Bool.or_comm]
      exact hc
    simp only [invasionHits, hc, hc', if_true, List.map_append]
    rw [invasionTest_swap hs profileA.vicinity, invasionTest_swap hs profileA.footprint]
    exact List.perm_append_comm

end Pair

/-! ## The sweeps -/

section Transport

/-! The loops of `detect_approach` are taken through the swap once, for any two views `f` and `g`
of an outcome that agree on what `detect_invasion` returns with the vehicles in either order. The
exact swap (`engage_swap`) and the summary (`engage_summary`) are two instances. -/

variable [LinearOrderedField K] {o : Oracle K} {profileA profileB : Profile K}
  (hcheck : ∀ (splineA splineB : Spline K) (time : Int),
    checkOverlap o profileB splineB profileA splineA time =
      checkOverlap o profileA splineA profileB splineB time)
  (trajectoryA trajectoryB : Trajectory K)
include hcheck

theorem closeStart_transport (aIt bIt : Nat) :
    closeStart o profileB trajectoryB bIt profileA trajectoryA aIt =
      closeStart o profileA trajectoryA aIt profileB trajectoryB bIt := by
  rw [closeStart, closeStart, max_comm, hcheck]

variable [FloorRing K] {α : Type} (f g : Outcome → α)
  (hinvasion : ∀ (trajectoryA trajectoryB : Trajectory K) (owner : Owner) (aIt bIt : Nat)
    (out : Option (List Conflict)),
    f (detectInvasion o profileB trajectoryB profileA trajectoryA owner bIt aIt
      (swapConflicts out)) =
      g (detectInvasion o profileA trajectoryA profileB trajectoryB owner aIt bIt out))
  (hearly : ∀ time : Int, f ⟨some time, none⟩ = g ⟨some time, none⟩)
include hinvasion hearly

theorem approachScan_transport (aIt bIt : Nat) (ts : List Int) (out : Option (List Conflict)) :
    (approachScan o profileB trajectoryB profileA trajectoryA bIt aIt ts
        (swapConflicts out)).map (Sum.map f id) =
      (approachScan o profileA trajectoryA profileB trajectoryB aIt bIt ts out).map
        (Sum.map g swapConflicts) := by
  induction ts generalizing out with
  | nil => rfl
  | cons t ts ih =>
    rw [approachScan, approachScan, hcheck]
    cases checkOverlap o profileA (trajectoryA.spline aIt) profileB (trajectoryB.spline bIt) t with
    | error e => rfl
    | ok close =>
      cases close
      · exact congrArg (fun r => Except.ok (Sum.inl r)) (hinvasion _ _ .slice 1 1 out)
      · rw [show [(⟨⟨.caller, bIt⟩, ⟨.caller, aIt⟩, t⟩ : Conflict)] =
          [(⟨⟨.caller, aIt⟩, ⟨.caller, bIt⟩, t⟩ : Conflict)].map Conflict.swap from rfl,
          record_swap]
        cases record out [⟨⟨.caller, aIt⟩, ⟨.caller, bIt⟩, t⟩] with
        | inl time => exact congrArg (fun r => Except.ok (Sum.inl r)) (hearly time)
        | inr out => exact ih out

variable (hs : o.Symmetric)
include hs

theorem approachStep_transport (aIt bIt : Nat) (out : Option (List Conflict)) :
    (approachStep o profileB trajectoryB profileA trajectoryA bIt aIt (swapConflicts out)).map
        (Sum.map f id) =
      (approachStep o profileA trajectoryA profileB trajectoryB aIt bIt out).map
        (Sum.map g swapConflicts) := by
  simp only [approachStep, hs.initiallyApproaching (trajectoryB.spline bIt),
    hs.approachTimes (trajectoryB.spline bIt), window_swap]
  rw [initial_swap _ aIt bIt, record_swap]
  cases record out _ with
  | inl time => exact congrArg (fun r => Except.ok (Sum.inl r)) (hearly time)
  | inr out =>
    exact approachScan_transport hcheck trajectoryA trajectoryB f g hinvasion hearly aIt bIt _ out

variable (hafter : ∀ out, f (afterLoop (swapConflicts out)) = g (afterLoop out))
include hafter

/-- The loop of `detect_approach` on the vehicles in the other order runs through the same
segment pairs, takes the same exits and carries the same list with its iterators exchanged. -/
theorem approachSweep_transport (aIt bIt : Nat) (out : Option (List Conflict)) :
    (approachSweep o profileB trajectoryB profileA trajectoryA bIt aIt (swapConflicts out)).map
        f =
      (approachSweep o profileA trajectoryA profileB trajectoryB aIt bIt out).map g := by
  induction aIt, bIt using sweepPairs.induct trajectoryA trajectoryB generalizing out with
  | case1 aIt bIt h ih =>
    have hstep := approachStep_transport hcheck trajectoryA trajectoryB f g hinvasion hearly hs
      aIt bIt out
    rw [approachSweep_of_lt h.symm, approachSweep_of_lt h, window_swap, hcheck, advance_swap]
    generalize approachStep o profileB trajectoryB profileA trajectoryA bIt aIt
      (swapConflicts out) = x at hstep ⊢
    generalize approachStep o profileA trajectoryA profileB trajectoryB aIt bIt out = y at hstep ⊢
    rcases y with e | outcome | out' <;> rcases x with e' | outcome' | out'' <;>
      simp only [Except.map, Sum.map_inl, Sum.map_inr, id, Except.error.injEq, Except.ok.injEq,
        Sum.inl.injEq, Sum.inr.injEq, reduceCtorEq] at hstep
    · subst hstep
      rfl
    · exact congrArg Except.ok hstep
    · subst hstep
      rcases checkOverlap o profileA (trajectoryA.spline aIt) profileB (trajectoryB.spline bIt)
        (window (trajectoryA.spline aIt) (trajectoryB.spline bIt)).2 with e | _ | _
      · rfl
      · exact congrArg Except.ok (hinvasion trajectoryA trajectoryB .caller _ _ out')
      · exact ih out'
  | case2 aIt bIt h =>
    rw [approachSweep_of_not_lt (mt And.symm h), approachSweep_of_not_lt h]
    exact congrArg Except.ok (hafter out)

/-- Past the early exits, `get_initial_iterators` starts both loops at the same segments and
`close_start` gives the same answer, so the same mode runs. -/
theorem engage_transport (out : Option (List Conflict)) :
    (engage o profileB trajectoryB profileA trajectoryA (swapConflicts out)).map f =
      (engage o profileA trajectoryA profileB trajectoryB out).map g := by
  rw [engage, engage, getInitialIterators_swap]
  simp only [Prod.fst_swap, Prod.snd_swap, closeStart_transport hcheck]
  rcases closeStart o profileA trajectoryA (getInitialIterators trajectoryA trajectoryB).1
    profileB trajectoryB (getInitialIterators trajectoryA trajectoryB).2 with e | _ | _
  · rfl
  · exact congrArg Except.ok (hinvasion trajectoryA trajectoryB .caller _ _ out)
  · exact approachSweep_transport hcheck trajectoryA trajectoryB f g hinvasion hearly hs hafter
      _ _ out

end Transport

section Sweeps

variable [LinearOrderedField K] [FloorRing K] {o : Oracle K} (hs : o.Symmetric)
  {profileA profileB : Profile K} (hc : testComplement profileA profileB = false)
  (trajectoryA trajectoryB : Trajectory K)
include hs hc

theorem invasionFound_swap (owner : Owner) (aIt bIt : Nat) :
    invasionFound o profileB trajectoryB profileA trajectoryA owner bIt aIt =
      (invasionFound o profileA trajectoryA profileB trajectoryB owner aIt bIt).map
        Conflict.swap := by
  rw [invasionFound, invasionFound, sweepPairs_swap, List.flatMap_map, List.map_flatMap]
  exact List.flatMap_congr fun p _ => invasionHits_swap hs hc _ _ _ _

theorem detectInvasion_swap (owner : Owner) (aIt bIt : Nat) (out : Option (List Conflict)) :
    detectInvasion o profileB trajectoryB profileA trajectoryA owner bIt aIt
        (swapConflicts out) =
      (detectInvasion o profileA trajectoryA profileB trajectoryB owner aIt bIt out).swap := by
  cases out with
  | none =>
    simp only [swapConflicts, Option.map_none', detectInvasion_none,
      invasionFound_swap hs hc, List.head?_map, Option.map_map]
    rfl
  | some l =>
    rw [swapConflicts, Option.map_some', detectInvasion_some, detectInvasion_some,
      invasionFound_swap hs hc]
    exact afterLoop_swap (some _)

/-- Without complement tests the swapped call runs through the same segment pairs and takes the
same exits, and records every conflict with its iterators exchanged. -/
theorem engage_swap (out : Option (List Conflict)) :
    engage o profileB trajectoryB profileA trajectoryA (swapConflicts out) =
      (engage o profileA trajectoryA profileB trajectoryB out).map Outcome.swap := by
  have h := engage_transport (checkOverlap_swap hs hc) trajectoryA trajectoryB id Outcome.swap
    (detectInvasion_swap hs hc) (fun _ => rfl) hs afterLoop_swap out
  rwa [Except.map_id] at h

end Sweeps

/-- For a collision library and a distance differential that do not depend on the order of
their arguments, and profiles that need no complement test, every call of
`DetectConflict::Implementation::between` on valid trajectories gives the same result with the
vehicles in the other order: the same failure, or the same time returned and the same
conflicts listed in the same order, each with its two iterators exchanged. So
`DetectConflict::between` returns the same time. -/
theorem between_commutes_with_swap [LinearOrderedField K] [FloorRing K] {o : Oracle K}
    (hs : o.Symmetric) {inputProfileA inputProfileB : Profile K}
    (hc : testComplement (convertProfile inputProfileA) (convertProfile inputProfileB) = false)
    {trajectoryA trajectoryB : Trajectory K} (ha : 2 ≤ trajectoryA.size)
    (hb : 2 ≤ trajectoryB.size) :
    (∀ out : Option (List Conflict),
      DetectConflict.Implementation.between o inputProfileB trajectoryB inputProfileA trajectoryA
          (swapConflicts out) =
        (DetectConflict.Implementation.between o inputProfileA trajectoryA inputProfileB
          trajectoryB out).map Outcome.swap) ∧
      DetectConflict.between o inputProfileB trajectoryB inputProfileA trajectoryA =
        DetectConflict.between o inputProfileA trajectoryA inputProfileB trajectoryB := by
  have hall : ∀ out : Option (List Conflict),
      DetectConflict.Implementation.between o inputProfileB trajectoryB inputProfileA trajectoryA
          (swapConflicts out) =
        (DetectConflict.Implementation.between o inputProfileA trajectoryA inputProfileB
          trajectoryB out).map Outcome.swap := fun out => by
    by_cases h : Engaged inputProfileA trajectoryA inputProfileB trajectoryB
    · rw [between_of_engaged (engaged_swap.mpr h), between_of_engaged h]
      exact engage_swap hs hc trajectoryA trajectoryB out
    · rw [between_of_not_engaged hb ha (mt engaged_swap.mp h), between_of_not_engaged ha hb h]
      rfl
  refine ⟨hall, ?_⟩
  have h := hall none
  rw [swapConflicts, Option.map_none'] at h
  rw [DetectConflict.between, DetectConflict.between, h]
  cases DetectConflict.Implementation.between o inputProfileA trajectoryA inputProfileB
    trajectoryB none <;> rfl

/-- The vehicle that leaves and returns, and the standing one, with footprints only and the
disc library. -/
theorem between_commutes_with_swap_turning :
    (discOracle Rat.sqrt).Symmetric ∧
      testComplement (convertProfile (⟨some ⟨0, 2⟩, none⟩ : Profile ℚ))
        (convertProfile ⟨some ⟨1, 2⟩, none⟩) = false ∧
      2 ≤ turning.size ∧ 2 ≤ standing.size ∧
      ((∀ out : Option (List Conflict),
        DetectConflict.Implementation.between (discOracle Rat.sqrt) ⟨some ⟨1, 2⟩, none⟩ standing
            ⟨some ⟨0, 2⟩, none⟩ turning (swapConflicts out) =
          (DetectConflict.Implementation.between (discOracle Rat.sqrt) ⟨some ⟨0, 2⟩, none⟩ turning
            ⟨some ⟨1, 2⟩, none⟩ standing out).map Outcome.swap) ∧
        DetectConflict.between (discOracle Rat.sqrt) ⟨some ⟨1, 2⟩, none⟩ standing
            ⟨some ⟨0, 2⟩, none⟩ turning =
          DetectConflict.between (discOracle Rat.sqrt) ⟨some ⟨0, 2⟩, none⟩ turning
            ⟨some ⟨1, 2⟩, none⟩ standing) := by
  have hc : testComplement (convertProfile (⟨some ⟨0, 2⟩, none⟩ : Profile ℚ))
      (convertProfile ⟨some ⟨1, 2⟩, none⟩) = false := by decide
  have ha : 2 ≤ turning.size := by decide
  have hb : 2 ≤ standing.size := by decide
  exact ⟨discOracle_symmetric _, hc, ha, hb,
    between_commutes_with_swap (discOracle_symmetric Rat.sqrt) hc ha hb⟩

/-! ## With complement tests

A complement test runs the two tests of a segment pair in the other order when the vehicles are
swapped, so the conflicts are found in another order and the time returned, that of the first,
can change (`between_not_symmetric`). Which conflicts are found does not: the swapped call
fails in the same way, returns a time exactly when the original does, and lists the same
conflicts with their iterators exchanged. `Outcome.summary` forgets what may change. -/

/-- What a call leaves once the order of its list is forgotten: whether it returns a time, and
the conflicts it lists, as a multiset. -/
def Outcome.summary (outcome : Outcome) : Bool × Option (Multiset Conflict) :=
  (outcome.result.isSome, outcome.conflicts.map Multiset.ofList)

theorem isSome_head?_of_perm {l l' : List Conflict} (h : l'.Perm l) :
    l'.head?.isSome = l.head?.isSome := by
  rw [Bool.eq_iff_iff, List.head?_isSome, List.head?_isSome, Ne, Ne, ← List.isEmpty_eq_true,
    ← List.isEmpty_eq_true, h.isEmpty_eq]

theorem summary_afterLoop_of_perm {l l' : List Conflict} (h : l'.Perm l) :
    (afterLoop (some l')).summary = (afterLoop (some l)).summary := by
  simp only [afterLoop, Outcome.summary, Option.some_bind, Option.isSome_map',
    isSome_head?_of_perm h, Option.map_some', Multiset.coe_eq_coe.mpr h]

section Complete

variable [LinearOrderedField K] [FloorRing K] {o : Oracle K} (hs : o.Symmetric)
  (profileA profileB : Profile K) (trajectoryA trajectoryB : Trajectory K)
include hs

theorem invasionFound_swap_perm (owner : Owner) (aIt bIt : Nat) :
    (invasionFound o profileB trajectoryB profileA trajectoryA owner bIt aIt).Perm
      ((invasionFound o profileA trajectoryA profileB trajectoryB owner aIt bIt).map
        Conflict.swap) := by
  rw [invasionFound, invasionFound, sweepPairs_swap, List.flatMap_map, List.map_flatMap]
  exact List.Perm.flatMap_left _ fun p _ => invasionHits_swap_perm hs _ _ _ _ _ _

theorem detectInvasion_summary (owner : Owner) (aIt bIt : Nat) (out : Option (List Conflict)) :
    (detectInvasion o profileB trajectoryB profileA trajectoryA owner bIt aIt
        (swapConflicts out)).summary =
      (detectInvasion o profileA trajectoryA profileB trajectoryB owner aIt bIt out).swap.summary := by
  have hperm := invasionFound_swap_perm hs profileA profileB trajectoryA trajectoryB owner aIt bIt
  cases out with
  | none =>
    simp only [swapConflicts, Option.map_none', detectInvasion_none, Outcome.swap,
      Outcome.summary, Option.isSome_map', isSome_head?_of_perm hperm, List.head?_map]
  | some l =>
    rw [swapConflicts, Option.map_some', detectInvasion_some, detectInvasion_some,
      ← afterLoop_swap]
    exact summary_afterLoop_of_perm hperm

variable {profileA profileB} in
theorem engage_summary (hA : profileA.Complete) (hB : profileB.Complete)
    (out : Option (List Conflict)) :
    (engage o profileB trajectoryB profileA trajectoryA (swapConflicts out)).map
        Outcome.summary =
      (engage o profileA trajectoryA profileB trajectoryB out).map
        fun outcome => outcome.swap.summary :=
  engage_transport (checkOverlap_swap_of_complete hs hA hB) trajectoryA trajectoryB
    Outcome.summary (fun outcome => outcome.swap.summary) (detectInvasion_summary hs _ _)
    (fun _ => rfl) hs (fun out => by rw [afterLoop_swap]) out

end Complete

/-- For a collision library and a distance differential that do not depend on the order of
their arguments, every call of `DetectConflict::Implementation::between` on valid trajectories
finds the same conflicts with the vehicles in the other order, complement tests or not: it
fails in the same way, or it returns a time exactly when the original does and lists the same
conflicts, each with its two iterators exchanged, perhaps in another order. Only which conflict
comes first, and so which time is returned, can change. -/
theorem between_swap_finds_same_conflicts [LinearOrderedField K] [FloorRing K] {o : Oracle K}
    (hs : o.Symmetric) {inputProfileA inputProfileB : Profile K}
    (hfA : inputProfileA.footprint.isSome) (hfB : inputProfileB.footprint.isSome)
    {trajectoryA trajectoryB : Trajectory K} (ha : 2 ≤ trajectoryA.size)
    (hb : 2 ≤ trajectoryB.size) (out : Option (List Conflict)) :
    (DetectConflict.Implementation.between o inputProfileB trajectoryB inputProfileA trajectoryA
        (swapConflicts out)).map Outcome.summary =
      (DetectConflict.Implementation.between o inputProfileA trajectoryA inputProfileB
        trajectoryB out).map fun outcome => outcome.swap.summary := by
  by_cases h : Engaged inputProfileA trajectoryA inputProfileB trajectoryB
  · rw [between_of_engaged (engaged_swap.mpr h), between_of_engaged h]
    exact engage_summary hs trajectoryA trajectoryB (convertProfile_complete hfA)
      (convertProfile_complete hfB) out
  · rw [between_of_not_engaged hb ha (mt engaged_swap.mp h), between_of_not_engaged ha hb h]
    rfl

/-- The arriving and the standing vehicle, with complement tests whose times differ with the
order (`between_not_symmetric`): the same conflicts are found both ways. -/
theorem between_swap_finds_same_conflicts_arriving :
    (discOracle Rat.sqrt).Symmetric ∧ (⟨some ⟨0, 1⟩, some ⟨1, 3⟩⟩ : Profile ℚ).footprint.isSome ∧
      (⟨some ⟨2, 1⟩, some ⟨3, 2⟩⟩ : Profile ℚ).footprint.isSome ∧ 2 ≤ arriving.size ∧
      2 ≤ standing.size ∧
      (DetectConflict.Implementation.between (discOracle Rat.sqrt) ⟨some ⟨2, 1⟩, some ⟨3, 2⟩⟩
          standing ⟨some ⟨0, 1⟩, some ⟨1, 3⟩⟩ arriving (swapConflicts (some []))).map
          Outcome.summary =
        (DetectConflict.Implementation.between (discOracle Rat.sqrt) ⟨some ⟨0, 1⟩, some ⟨1, 3⟩⟩
          arriving ⟨some ⟨2, 1⟩, some ⟨3, 2⟩⟩ standing (some [])).map
          fun outcome => outcome.swap.summary := by
  have hfA : (⟨some ⟨0, 1⟩, some ⟨1, 3⟩⟩ : Profile ℚ).footprint.isSome := rfl
  have hfB : (⟨some ⟨2, 1⟩, some ⟨3, 2⟩⟩ : Profile ℚ).footprint.isSome := rfl
  have ha : 2 ≤ arriving.size := by decide
  have hb : 2 ≤ standing.size := by decide
  exact ⟨discOracle_symmetric _, hfA, hfB, ha, hb,
    between_swap_finds_same_conflicts (discOracle_symmetric Rat.sqrt) hfA hfB ha hb (some [])⟩

end RmfTraffic
