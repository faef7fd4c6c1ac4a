import Mathlib

/-!
# Trajectories

A `rmf_traffic::Trajectory` is a sequence of waypoints, each a time with the position
`(x, y, yaw)` and velocity of the vehicle at that time, in strictly increasing order of time.
Two consecutive waypoints bound a segment, and the conflict engine names a segment by the
iterator of its right-hand waypoint: the segments of a trajectory of `n` waypoints are the
iterators `1, …, n - 1`, `begin()` is `0` and `end()` is `n`.

The class is not among the sources read here. What the engine asks of it (`size`,
`start_time`, `finish_time`, `find`, `insert`) is modelled from the spec, and the order it
keeps is a field of `Trajectory`, so no unordered trajectory can be built and every lemma on
times may use it.

A time, `rmf_traffic::Time`, is a `steady_clock` time point; here it is its count of
nanoseconds as an unbounded `Int`, so nothing overflows and a shift in time is an exact
addition.
-/

set_option autoImplicit false

namespace RmfTraffic

/-- A waypoint: its time, and the position `(x, y, yaw)` and the velocity (per second) of the
vehicle at that time. -/
structure Waypoint (K : Type) where
  time : Int
  position : Fin 3 → K
  velocity : Fin 3 → K

instance {K : Type} [Zero K] : Inhabited (Waypoint K) := ⟨⟨0, 0, 0⟩⟩

/-- The same waypoint `d` nanoseconds later. -/
def Waypoint.shift {K : Type} (d : Int) (w : Waypoint K) : Waypoint K :=
  { w with time := w.time + d }

/-- `rmf_traffic::Trajectory`. Modelled from the spec: a non-empty trajectory is a strictly
time-ordered sequence of waypoints, and the order is carried as a field. -/
structure Trajectory (K : Type) where
  waypoints : List (Waypoint K)
  ordered : waypoints.Pairwise fun w w' => w.time < w'.time

namespace Trajectory

variable {K : Type} [Zero K] (tr : Trajectory K)

/-- `Trajectory::size`. -/
def size : Nat := tr.waypoints.length

/-- The waypoint an iterator points at. Past `end()` this reads a default waypoint; no
iterator that the engine dereferences gets there. -/
def get (i : Nat) : Waypoint K := tr.waypoints.getD i default

/-- The time of the waypoint an iterator points at. -/
def timeAt (i : Nat) : Int := (tr.get i).time

/-- `*Trajectory::start_time()`: the time of the first waypoint. -/
def startTime : Int := tr.timeAt 0

/-- `*Trajectory::finish_time()`: the time of the last waypoint. -/
def finishTime : Int := tr.timeAt (tr.size - 1)

/-- `Trajectory::find(t)`: the first waypoint whose time is at or after `t`, or `end()` when
there is none. Its body is not among the sources; it is modelled from the specification. -/
def find (t : Int) : Nat := tr.waypoints.findIdx fun w => decide (t ≤ w.time)

/-- The same trajectory `d` nanoseconds later. -/
def shift (d : Int) : Trajectory K :=
  ⟨tr.waypoints.map (Waypoint.shift d), by
    simpa [List.pairwise_map, Waypoint.shift] using tr.ordered⟩

/-- The empty trajectory of `Trajectory output;`. -/
def empty : Trajectory K := ⟨[], List.Pairwise.nil⟩

/-- Put a waypoint into a time-ordered list at its place; a waypoint whose time is already
taken is not put in. -/
def insertWaypoint (w : Waypoint K) : List (Waypoint K) → List (Waypoint K)
  | [] => [w]
  | x :: xs =>
    if w.time < x.time then w :: x :: xs
    else if x.time < w.time then x :: insertWaypoint w xs
    else x :: xs

omit [Zero K] in
theorem mem_insertWaypoint {w y : Waypoint K} :
    ∀ {xs : List (Waypoint K)}, y ∈ insertWaypoint w xs → y = w ∨ y ∈ xs
  | [], h => by simpa [insertWaypoint] using h
  | x :: xs, h => by
    simp only [insertWaypoint] at h
    split_ifs at h
    · simpa using h
    · rcases List.mem_cons.mp h with rfl | h
      · exact .inr (List.mem_cons_self _ _)
      · exact (mem_insertWaypoint h).imp_right (List.mem_cons_of_mem _)
    · exact .inr h

omit [Zero K] in
theorem pairwise_insertWaypoint (w : Waypoint K) :
    ∀ {xs : List (Waypoint K)}, xs.Pairwise (fun w w' => w.time < w'.time) →
      (insertWaypoint w xs).Pairwise fun w w' => w.time < w'.time
  | [], _ => List.pairwise_singleton _ _
  | x :: xs, h => by
    obtain ⟨hx, hxs⟩ := List.pairwise_cons.mp h
    simp only [insertWaypoint]
    split_ifs with hwx hxw
    · exact List.pairwise_cons.mpr
        ⟨fun y hy => (List.mem_cons.mp hy).elim (· ▸ hwx) (hwx.trans <| hx y ·), h⟩
    · refine List.pairwise_cons.mpr ⟨fun y hy => ?_, pairwise_insertWaypoint w hxs⟩
      exact (mem_insertWaypoint hy).elim (· ▸ hxw) (hx y)
    · exact h

/-- `Trajectory::insert`. Modelled from the spec: the waypoint goes to its place in time, and
the trajectory stays strictly time-ordered. -/
def insert (w : Waypoint K) : Trajectory K :=
  ⟨insertWaypoint w tr.waypoints, pairwise_insertWaypoint w tr.ordered⟩

/-! ## Times along a trajectory -/

variable {tr}

theorem get_eq_getElem {i : Nat} (h : i < tr.size) : tr.get i = tr.waypoints[i] := by
  simp [get, List.getD_eq_getElem?_getD, List.getElem?_eq_getElem h]

theorem timeAt_eq_getElem {i : Nat} (h : i < tr.size) : tr.timeAt i = tr.waypoints[i].time := by
  rw [timeAt, get_eq_getElem h]

/-- Times strictly increase with the iterator. -/
theorem timeAt_lt_timeAt {i j : Nat} (hij : i < j) (hj : j < tr.size) :
    tr.timeAt i < tr.timeAt j := by
  rw [timeAt, timeAt, get_eq_getElem (by omega), get_eq_getElem hj]
  exact List.pairwise_iff_getElem.mp tr.ordered i j _ hj hij

theorem timeAt_le_timeAt {i j : Nat} (hij : i ≤ j) (hj : j < tr.size) :
    tr.timeAt i ≤ tr.timeAt j := by
  rcases Nat.lt_or_eq_of_le hij with h | rfl
  · exact le_of_lt (timeAt_lt_timeAt h hj)
  · exact le_rfl

theorem timeAt_lt_timeAt_iff {i j : Nat} (hi : i < tr.size) (hj : j < tr.size) :
    tr.timeAt i < tr.timeAt j ↔ i < j := by
  refine ⟨fun h => ?_, fun h => timeAt_lt_timeAt h hj⟩
  by_contra hn
  exact absurd h (not_lt.mpr (timeAt_le_timeAt (not_lt.mp hn) hi))

omit [Zero K] in
theorem find_le_size (t : Int) : tr.find t ≤ tr.size := List.findIdx_le_length _

/-- `find` stops at a waypoint at or after `t`. -/
theorem le_timeAt_find {t : Int} (h : tr.find t < tr.size) : t ≤ tr.timeAt (tr.find t) := by
  rw [timeAt, get_eq_getElem h]
  simpa using @List.findIdx_getElem _ _ _ h

/-- Every waypoint before the one `find` stops at is before `t`. -/
theorem timeAt_lt_of_lt_find {t : Int} {i : Nat} (h : i < tr.find t) : tr.timeAt i < t := by
  have hi : i < tr.size := lt_of_lt_of_le h (find_le_size t)
  rw [timeAt, get_eq_getElem hi]
  simpa using List.not_of_lt_findIdx h

theorem find_le_of_le {t : Int} {i : Nat} (h : t ≤ tr.timeAt i) : tr.find t ≤ i := by
  by_contra hn
  exact absurd h (not_le.mpr (timeAt_lt_of_lt_find (not_le.mp hn)))

theorem timeAt_le_finishTime {i : Nat} (h : i < tr.size) : tr.timeAt i ≤ tr.finishTime :=
  timeAt_le_timeAt (by omega) (by omega)

/-- A time no later than the last waypoint is found before `end()`. -/
theorem find_lt_size {t : Int} (hs : 0 < tr.size) (h : t ≤ tr.finishTime) :
    tr.find t < tr.size :=
  lt_of_le_of_lt (find_le_of_le h) (by omega)

/-! ## Shifting in time -/

omit [Zero K] in
@[simp] theorem size_shift (d : Int) : (tr.shift d).size = tr.size := by
  simp [shift, size]

theorem get_shift (d : Int) {i : Nat} (h : i < tr.size) :
    (tr.shift d).get i = (tr.get i).shift d := by
  rw [get_eq_getElem (by simpa using h), get_eq_getElem h]
  simp [shift]

theorem timeAt_shift (d : Int) {i : Nat} (h : i < tr.size) :
    (tr.shift d).timeAt i = tr.timeAt i + d := by
  simp only [timeAt, get_shift d h, Waypoint.shift]

omit [Zero K] in
theorem findIdx_map_shift (d t : Int) (l : List (Waypoint K)) :
    (l.map (Waypoint.shift d)).findIdx (fun w => decide (t + d ≤ w.time)) =
      l.findIdx fun w => decide (t ≤ w.time) := by
  induction l with
  | nil => rfl
  | cons w l ih => simp [List.findIdx_cons, ih, Waypoint.shift]

omit [Zero K] in
/-- Shifting moves every waypoint, so `find` answers the shifted question the same way. -/
@[simp] theorem find_shift (d t : Int) : (tr.shift d).find (t + d) = tr.find t :=
  findIdx_map_shift d t tr.waypoints

end Trajectory

end RmfTraffic
