import RmfTraffic.Span

/-!
# With a list, the time returned is the first entry's

A call of `between` with a list answers twice: the time it returns and the list it leaves. Both
loops return early only without a list. With one they run to their end, where the time returned
is read off the list's first entry, or they call `detect_invasion`, which clears the list and
does the same. So on every path the two answers agree, whatever the collision library and the
distance differential: a call with an empty list leaves a list and returns the time of its first
entry, `nullopt` exactly when the list is empty. The hand-off is among these paths: the list is
cleared there (`between_handOff_modes_differ`), and the time returned is that of the first
conflict found on the sliced copies, not that of the conflict the list lost.

## What is proved

- `returnsFirstListed_afterLoop`, `detectInvasion_returnsFirstListed`: the ends of both loops.
- `approachScan_returnsFirstListed`, `approachStep_returnsFirstListed`: with a list, a step of
  `detect_approach` returns only by a hand-off, and otherwise carries a list on.
- `approachSweep_returnsFirstListed`, the run lemma, and `engage_returnsFirstListed`, for any
  list.
- `between_returns_first_listed`: the whole call, with the empty list.
-/

set_option autoImplicit false

namespace RmfTraffic

/-- The two answers of a call with a list agree: it leaves a list, and returns the time of the
list's first entry, `nullopt` when the list is empty. -/
def Outcome.ReturnsFirstListed (outcome : Outcome) : Prop :=
  ∃ l, outcome.conflicts = some l ∧ outcome.result = l.head?.map Conflict.time

theorem returnsFirstListed_afterLoop (l : List Conflict) :
    (afterLoop (some l)).ReturnsFirstListed :=
  ⟨l, rfl, rfl⟩

variable {K : Type} [LinearOrderedField K] [FloorRing K] (o : Oracle K)
  (profileA profileB : Profile K) (trajectoryA trajectoryB : Trajectory K)

theorem detectInvasion_returnsFirstListed (owner : Owner) (aIt bIt : Nat) (l : List Conflict) :
    (detectInvasion o profileA trajectoryA profileB trajectoryB owner aIt bIt
      (some l)).ReturnsFirstListed := by
  rw [detectInvasion_some]
  exact returnsFirstListed_afterLoop _

/-- With a list, the scan over the approach times returns only by a hand-off. -/
theorem approachScan_returnsFirstListed (aIt bIt : Nat) :
    ∀ (ts : List Int) (l : List Conflict) {r},
      approachScan o profileA trajectoryA profileB trajectoryB aIt bIt ts (some l) = .ok r →
        r.elim Outcome.ReturnsFirstListed fun out => ∃ l', out = some l'
  | [], l, _, h => by
    cases h
    exact ⟨l, rfl⟩
  | t :: ts, l, r, h => by
    obtain ⟨close, -, h⟩ := bind_eq_ok.mp h
    cases close
    · cases h
      exact detectInvasion_returnsFirstListed o _ _ _ _ .slice 1 1 l
    · rw [if_neg (by decide)] at h
      exact approachScan_returnsFirstListed aIt bIt ts _ h

theorem approachStep_returnsFirstListed (aIt bIt : Nat) (l : List Conflict) {r}
    (h : approachStep o profileA trajectoryA profileB trajectoryB aIt bIt (some l) = .ok r) :
    r.elim Outcome.ReturnsFirstListed fun out => ∃ l', out = some l' :=
  approachScan_returnsFirstListed o profileA profileB trajectoryA trajectoryB aIt bIt _ _ h

/-- The run lemma of `detect_approach`'s loop: with a list, what it returns answers twice
alike. -/
theorem approachSweep_returnsFirstListed {aIt bIt : Nat} {l : List Conflict} {outcome : Outcome}
    (h : approachSweep o profileA trajectoryA profileB trajectoryB aIt bIt (some l) =
      .ok outcome) :
    outcome.ReturnsFirstListed := by
  induction aIt, bIt using sweepPairs.induct trajectoryA trajectoryB generalizing l with
  | case1 aIt bIt hlt ih =>
    rw [approachSweep_of_lt hlt] at h
    obtain ⟨r, hr, h⟩ := bind_eq_ok.mp h
    have hstep := approachStep_returnsFirstListed o profileA profileB trajectoryA trajectoryB
      aIt bIt l hr
    rcases r with outcome' | out'
    · cases h
      exact hstep
    · obtain ⟨l', rfl⟩ := hstep
      obtain ⟨stillClose, -, h⟩ := bind_eq_ok.mp h
      cases stillClose
      · cases h
        exact detectInvasion_returnsFirstListed o _ _ _ _ .caller _ _ l'
      · rw [if_neg (by decide)] at h
        exact ih h
  | case2 aIt bIt hlt =>
    rw [approachSweep_of_not_lt hlt] at h
    cases h
    exact returnsFirstListed_afterLoop l

theorem engage_returnsFirstListed (l : List Conflict) {outcome : Outcome}
    (h : engage o profileA trajectoryA profileB trajectoryB (some l) = .ok outcome) :
    outcome.ReturnsFirstListed := by
  obtain ⟨close, -, h⟩ := bind_eq_ok.mp h
  cases close
  · cases h
    exact detectInvasion_returnsFirstListed o _ _ _ _ .caller _ _ l
  · exact approachSweep_returnsFirstListed o profileA profileB trajectoryA trajectoryB h

/-- Whatever the collision library and the distance differential, a call of
`DetectConflict::Implementation::between` with an empty list that returns leaves a list, and
returns the time of the list's first entry: `nullopt` exactly when the list is empty. -/
theorem between_returns_first_listed {o : Oracle K} (inputProfileA : Profile K)
    (trajectoryA : Trajectory K) (inputProfileB : Profile K) (trajectoryB : Trajectory K)
    {outcome : Outcome}
    (h : DetectConflict.Implementation.between o inputProfileA trajectoryA inputProfileB
      trajectoryB (some []) = .ok outcome) :
    ∃ l, outcome.conflicts = some l ∧ outcome.result = l.head?.map Conflict.time := by
  by_cases he : Engaged inputProfileA trajectoryA inputProfileB trajectoryB
  · rw [between_of_engaged he] at h
    exact engage_returnsFirstListed o _ _ _ _ [] h
  rcases lt_or_le trajectoryA.size 2 with ha | ha
  · rw [DetectConflict.Implementation.between, if_pos ha] at h
    cases h
  rcases lt_or_le trajectoryB.size 2 with hb | hb
  · rw [DetectConflict.Implementation.between, if_neg (not_lt.mpr ha), if_pos hb] at h
    cases h
  rw [between_of_not_engaged ha hb he] at h
  cases h
  exact returnsFirstListed_afterLoop []

/-- The hand-off example: the list is cleared at `0.75 s`, and `between` returns the time of
the one conflict on the sliced copies that it then holds. -/
theorem between_returns_first_listed_handOff :
    DetectConflict.Implementation.between (discOracle Rat.sqrt) ⟨some ⟨0, 2⟩, none⟩ turning
        ⟨some ⟨1, 2⟩, none⟩ standing (some []) =
        .ok ⟨some 875000000, some [⟨⟨.slice, 1⟩, ⟨.slice, 1⟩, 875000000⟩]⟩ ∧
      ∃ l, some [(⟨⟨.slice, 1⟩, ⟨.slice, 1⟩, 875000000⟩ : Conflict)] = some l ∧
        some 875000000 = l.head?.map Conflict.time := by
  have h : DetectConflict.Implementation.between (discOracle Rat.sqrt) ⟨some ⟨0, 2⟩, none⟩ turning
      ⟨some ⟨1, 2⟩, none⟩ standing (some []) =
      .ok ⟨some 875000000, some [⟨⟨.slice, 1⟩, ⟨.slice, 1⟩, 875000000⟩]⟩ := by
    rw [between_turning, approachSweep_turning]
    exact congrArg Except.ok (detectInvasion_sliced _ _)
  exact ⟨h, between_returns_first_listed _ _ _ _ h⟩

end RmfTraffic
