import RmfTraffic.Geometry

/-!
# Broadphase: bounding boxes of splines

Before it asks the collision library about a pair of segments, `detect_invasion` compares two
axis-aligned boxes. The box of a spline comes from `get_local_extrema`, which bounds the cubic
of one axis over `τ ∈ [0, 1]` by the smallest and largest of a few candidate values: the two
ends, and the critical points that its numeric policy finds. The policy has two tolerances:
a cubic term under `1e-12` is read as a quadratic, and a discriminant under `1e-4` in size is
read as a double root. The box is then grown by a shape's characteristic length.

An absent shape gets `void_box()`, whose `min` is `+∞` and whose `max` is `-∞`: every
comparison `overlap` makes with it fails, so it overlaps nothing. Here it is `none`.

`std::sqrt` is taken as a parameter, so that the definitions run over any ordered field; their
soundness is proved over `ℝ` with `Real.sqrt` (`RmfTraffic.BoundingSoundness`). Whatever the
policy finds, both ends of the segment are candidates, so a box holds the spline's start and
finish (`getBoundingBox_holds_start`, `getBoundingBox_holds_finish`), and grown boxes that hold
points within the two lengths of each other overlap (`overlap_of_holds_close`).
-/

set_option autoImplicit false

namespace RmfTraffic

variable {K : Type} [LinearOrderedField K]

/-- `*std::min_element` over a candidate list; the code asserts the list is not empty. -/
def minElement : List K → K
  | [] => 0
  | c :: cs => cs.foldl min c

/-- `*std::max_element` over a candidate list. -/
def maxElement : List K → K
  | [] => 0
  | c :: cs => cs.foldl max c

/-- The `extrema_candidates` of `get_local_extrema`. -/
def extremaCandidates (sqrt : K → K) (coeffs : Fin 4 → K) : List K :=
  [evaluateSpline coeffs 0, evaluateSpline coeffs 1] ++
    if |coeffs 3| < 1e-12 then
      if 1e-12 < |coeffs 2| then [evaluateSpline coeffs (-coeffs 1 / (2 * coeffs 2))] else []
    else
      let D := 4 * coeffs 2 ^ 2 - 12 * coeffs 3 * coeffs 1
      if |D| < 1e-4 then [evaluateSpline coeffs (-2 * coeffs 2 / (6 * coeffs 3))]
      else if D < 0 then []
      else [evaluateSpline coeffs ((-2 * coeffs 2 + sqrt D) / (6 * coeffs 3)),
        evaluateSpline coeffs ((-2 * coeffs 2 - sqrt D) / (6 * coeffs 3))]

/-- `get_local_extrema`: the smallest and the largest candidate. -/
def getLocalExtrema (sqrt : K → K) (coeffs : Fin 4 → K) : K × K :=
  (minElement (extremaCandidates sqrt coeffs), maxElement (extremaCandidates sqrt coeffs))

/-- `BoundingBox`: the corners `min` and `max` over `(x, y)`. -/
structure BoundingBox (K : Type) where
  min : Fin 2 → K
  max : Fin 2 → K

/-- `get_bounding_box`: the extrema of the spline's `x` and `y` cubics. -/
def getBoundingBox (sqrt : K → K) (spline : Spline K) : BoundingBox K :=
  let params := spline.getParams
  let extremaX := getLocalExtrema sqrt (params.coeffs 0)
  let extremaY := getLocalExtrema sqrt (params.coeffs 1)
  ⟨![extremaX.1, extremaY.1], ![extremaX.2, extremaY.2]⟩

/-- The cubic behind one axis of a spline's box: `x` for `0`, `y` for `1`. -/
def Spline.axisCoeffs (spline : Spline K) (i : Fin 2) : Fin 4 → K :=
  spline.getParams.coeffs i.castSucc

/-- The cubic starts at the spline's start position. -/
@[simp] theorem Spline.axisCoeffs_zero (spline : Spline K) (i : Fin 2) :
    spline.axisCoeffs i 0 = spline.start.position i.castSucc := rfl

theorem getBoundingBox_min (sqrt : K → K) (spline : Spline K) (i : Fin 2) :
    (getBoundingBox sqrt spline).min i = (getLocalExtrema sqrt (spline.axisCoeffs i)).1 := by
  match i with | 0 | 1 => rfl

theorem getBoundingBox_max (sqrt : K → K) (spline : Spline K) (i : Fin 2) :
    (getBoundingBox sqrt spline).max i = (getLocalExtrema sqrt (spline.axisCoeffs i)).2 := by
  match i with | 0 | 1 => rfl

/-- `adjust_bounding_box`: the box grown by `value` on every side. -/
def adjustBoundingBox (input : BoundingBox K) (value : K) : BoundingBox K :=
  ⟨fun i => input.min i - value, fun i => input.max i + value⟩

/-- `BoundingProfile`: the boxes of a spline grown by the footprint and by the vicinity;
`none` is `void_box()`. -/
structure BoundingProfile (K : Type) where
  footprint : Option (BoundingBox K)
  vicinity : Option (BoundingBox K)

/-- `get_bounding_profile`. -/
def getBoundingProfile (sqrt : K → K) (spline : Spline K) (profile : Profile K) :
    BoundingProfile K :=
  let baseBox := getBoundingBox sqrt spline
  ⟨profile.footprint.map fun f => adjustBoundingBox baseBox f.characteristicLength,
    profile.vicinity.map fun v => adjustBoundingBox baseBox v.characteristicLength⟩

/-- `overlap`: on each axis neither box ends before the other begins. -/
def overlap : Option (BoundingBox K) → Option (BoundingBox K) → Bool
  | some a, some b => decide (∀ i : Fin 2, ¬ a.max i < b.min i ∧ ¬ b.max i < a.min i)
  | _, _ => false

/-! ## The candidate lists -/

theorem foldl_min_le_init (c : K) : ∀ cs : List K, cs.foldl min c ≤ c
  | [] => le_rfl
  | d :: ds => (foldl_min_le_init (min c d) ds).trans (min_le_left c d)

theorem foldl_min_le (c : K) : ∀ {cs : List K} {x : K}, x ∈ cs → cs.foldl min c ≤ x
  | d :: ds, x, h => by
    rcases List.mem_cons.mp h with rfl | h
    · exact (foldl_min_le_init _ ds).trans (min_le_right c _)
    · exact foldl_min_le (min c d) h

theorem le_foldl_max_init (c : K) : ∀ cs : List K, c ≤ cs.foldl max c
  | [] => le_rfl
  | d :: ds => (le_max_left c d).trans (le_foldl_max_init (max c d) ds)

theorem le_foldl_max (c : K) : ∀ {cs : List K} {x : K}, x ∈ cs → x ≤ cs.foldl max c
  | d :: ds, x, h => by
    rcases List.mem_cons.mp h with rfl | h
    · exact (le_max_right c _).trans (le_foldl_max_init _ ds)
    · exact le_foldl_max (max c d) h

/-- The smallest element is below every candidate. -/
theorem minElement_le {l : List K} {x : K} (h : x ∈ l) : minElement l ≤ x := by
  cases l with
  | nil => cases h
  | cons c cs =>
    rcases List.mem_cons.mp h with rfl | h
    exacts [foldl_min_le_init x cs, foldl_min_le c h]

/-- The largest element is above every candidate. -/
theorem le_maxElement {l : List K} {x : K} (h : x ∈ l) : x ≤ maxElement l := by
  cases l with
  | nil => cases h
  | cons c cs =>
    rcases List.mem_cons.mp h with rfl | h
    exacts [le_foldl_max_init x cs, le_foldl_max c h]

/-- Both ends of the segment are always candidates. -/
theorem evaluateSpline_zero_mem (sqrt : K → K) (coeffs : Fin 4 → K) :
    evaluateSpline coeffs 0 ∈ extremaCandidates sqrt coeffs := by
  simp [extremaCandidates]

theorem evaluateSpline_one_mem (sqrt : K → K) (coeffs : Fin 4 → K) :
    evaluateSpline coeffs 1 ∈ extremaCandidates sqrt coeffs := by
  simp [extremaCandidates]

/-! ## What every box holds -/

@[simp] theorem evaluateSpline_zero (coeffs : Fin 4 → K) : evaluateSpline coeffs 0 = coeffs 0 := by
  simp [evaluateSpline]

@[simp] theorem getBoundingProfile_footprint (sqrt : K → K) (spline : Spline K)
    (profile : Profile K) :
    (getBoundingProfile sqrt spline profile).footprint =
      profile.footprint.map fun f =>
        adjustBoundingBox (getBoundingBox sqrt spline) f.characteristicLength := rfl

@[simp] theorem getBoundingProfile_vicinity (sqrt : K → K) (spline : Spline K)
    (profile : Profile K) :
    (getBoundingProfile sqrt spline profile).vicinity =
      profile.vicinity.map fun v =>
        adjustBoundingBox (getBoundingBox sqrt spline) v.characteristicLength := rfl

/-- The cubic ends at the spline's finish position. -/
@[simp] theorem evaluateSpline_axisCoeffs_one (spline : Spline K) (i : Fin 2) :
    evaluateSpline (spline.axisCoeffs i) 1 = spline.finish.position i.castSucc := by
  simp only [evaluateSpline, Spline.axisCoeffs, Spline.getParams, Spline.hermite]
  ring

/-- Whatever the numeric policy finds, a spline's box holds the spline's start. -/
theorem getBoundingBox_holds_start (sqrt : K → K) (spline : Spline K) (i : Fin 2) :
    (getBoundingBox sqrt spline).min i ≤ spline.start.position i.castSucc ∧
      spline.start.position i.castSucc ≤ (getBoundingBox sqrt spline).max i := by
  have h := evaluateSpline_zero_mem sqrt (spline.axisCoeffs i)
  rw [evaluateSpline_zero] at h
  rw [getBoundingBox_min, getBoundingBox_max]
  exact ⟨minElement_le h, le_maxElement h⟩

/-- And its finish. -/
theorem getBoundingBox_holds_finish (sqrt : K → K) (spline : Spline K) (i : Fin 2) :
    (getBoundingBox sqrt spline).min i ≤ spline.finish.position i.castSucc ∧
      spline.finish.position i.castSucc ≤ (getBoundingBox sqrt spline).max i := by
  have h := evaluateSpline_one_mem sqrt (spline.axisCoeffs i)
  rw [evaluateSpline_axisCoeffs_one] at h
  rw [getBoundingBox_min, getBoundingBox_max]
  exact ⟨minElement_le h, le_maxElement h⟩

/-- Two boxes grown by `la` and `lb` overlap when they hold points within `la + lb` of each
other on both axes. -/
theorem overlap_of_holds_close {boxA boxB : BoundingBox K} {pA pB : Fin 2 → K} {la lb : K}
    (hA : ∀ i, boxA.min i ≤ pA i ∧ pA i ≤ boxA.max i)
    (hB : ∀ i, boxB.min i ≤ pB i ∧ pB i ≤ boxB.max i) (h : ∀ i, |pA i - pB i| ≤ la + lb) :
    overlap (some (adjustBoundingBox boxA la)) (some (adjustBoundingBox boxB lb)) = true := by
  simp only [overlap, adjustBoundingBox, decide_eq_true_eq]
  intro i
  obtain ⟨ha1, ha2⟩ := hA i
  obtain ⟨hb1, hb2⟩ := hB i
  obtain ⟨h1, h2⟩ := abs_le.mp (h i)
  constructor <;> exact not_lt.mpr (by linarith)

/-- So the broadphase never prunes two splines that start within the two lengths of each
other on both axes. -/
theorem overlap_of_starts_close (sqrt : K → K) (splineA splineB : Spline K) (la lb : K)
    (h : ∀ i : Fin 2,
      |splineA.start.position i.castSucc - splineB.start.position i.castSucc| ≤ la + lb) :
    overlap (some (adjustBoundingBox (getBoundingBox sqrt splineA) la))
      (some (adjustBoundingBox (getBoundingBox sqrt splineB) lb)) = true :=
  overlap_of_holds_close (getBoundingBox_holds_start sqrt splineA)
    (getBoundingBox_holds_start sqrt splineB) h

/-- Nor two that finish within them. -/
theorem overlap_of_finishes_close (sqrt : K → K) (splineA splineB : Spline K) (la lb : K)
    (h : ∀ i : Fin 2,
      |splineA.finish.position i.castSucc - splineB.finish.position i.castSucc| ≤ la + lb) :
    overlap (some (adjustBoundingBox (getBoundingBox sqrt splineA) la))
      (some (adjustBoundingBox (getBoundingBox sqrt splineB) lb)) = true :=
  overlap_of_holds_close (getBoundingBox_holds_finish sqrt splineA)
    (getBoundingBox_holds_finish sqrt splineB) h

/-! ## Boxes of absent shapes -/

/-- `void_box()` overlaps nothing. -/
@[simp] theorem overlap_none_left (b : Option (BoundingBox K)) : overlap none b = false := rfl

@[simp] theorem overlap_none_right (a : Option (BoundingBox K)) : overlap a none = false := by
  cases a <;> rfl

/-- Boxes that overlap belong to shapes that are both present. -/
theorem isSome_of_overlap {a b : Option (BoundingBox K)} (h : overlap a b = true) :
    a.isSome ∧ b.isSome := by
  cases a <;> cases b <;> simp_all

theorem overlap_comm (a b : Option (BoundingBox K)) : overlap a b = overlap b a := by
  cases a <;> cases b <;> simp only [overlap, decide_eq_decide]
  exact forall_congr' fun _ => And.comm

end RmfTraffic
