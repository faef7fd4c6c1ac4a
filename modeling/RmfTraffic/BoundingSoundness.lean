import RmfTraffic.Broadphase

/-!
# Soundness of the broadphase boxes, over the reals

The broadphase may prune a pair of segments only if the two swept shapes cannot meet, so
the box of a spline has to contain the cubic of each axis over the whole segment. A cubic
on `[0, 1]` takes its largest and smallest values at an end or at a critical point inside
(`le_of_critical`, from the extreme value theorem and Fermat's theorem), so the box is sound
exactly when every critical point's value is among `get_local_extrema`'s candidates.

## What is proved

`critical_value_covered`: outside its tolerance bands (`InToleranceBand`), the numeric
policy finds every critical point, through the quadratic formula. Hence
`getLocalExtrema_bounds`, and with it the soundness of the broadphase outside those bands,
`broadphase_sound_outside_tolerance_bands`: the grown boxes contain `position(τ) ± ℓ`, and
`overlap` never prunes a pair whose centres come within the two characteristic lengths of
each other on both axes.

## What fails

Inside the bands the policy drops real extrema, and the box can miss the spline:
`broadphase_prunes_pair_in_discriminant_band` is a unit-sized cubic whose discriminant,
`3.6e-5`, falls under `1e-4`, so its two critical points `0.998` and `1` are replaced by the
inflection point `0.999`; a stationary vehicle placed at the dropped maximum is pruned
although the two centres coincide there.

The other way, the box can be wider than the spline: the candidates are not restricted to
`[0, 1]`, and `getLocalExtrema_widens_past_segment` is a segment whose only critical point,
`τ = 2`, lies past its end, yet gives the box's minimum, a value the cubic never takes on the
segment.
-/

set_option autoImplicit false

namespace RmfTraffic

/-- Where the tolerances of `get_local_extrema` can drop an extremum: a cubic term that is
not zero but under `1e-12`, read as a quadratic; a quadratic term that is not zero but at
most `1e-12`, read as a line; and two distinct critical points whose discriminant is under
`1e-4`, read as one double root. -/
def InToleranceBand {K : Type} [LinearOrderedField K] (c : Fin 4 → K) : Prop :=
  (c 3 ≠ 0 ∧ |c 3| < 1e-12) ∨ (c 3 = 0 ∧ c 2 ≠ 0 ∧ |c 2| ≤ 1e-12) ∨
    (1e-12 ≤ |c 3| ∧ 0 < 4 * c 2 ^ 2 - 12 * c 3 * c 1 ∧ 4 * c 2 ^ 2 - 12 * c 3 * c 1 < 1e-4)

instance {K : Type} [LinearOrderedField K] : DecidablePred (@InToleranceBand K _) :=
  fun _ => inferInstanceAs (Decidable (_ ∨ _ ∨ _))

/-! ## Extrema of a cubic on `[0, 1]` -/

theorem hasDerivAt_evaluateSpline (c : Fin 4 → ℝ) (t : ℝ) :
    HasDerivAt (evaluateSpline c) (evaluateDerivative c t) t := by
  have hid := hasDerivAt_id t
  have h := (((((hid.const_mul (c 3)).mul hid).mul hid).add ((hid.const_mul (c 2)).mul hid)).add
    (hid.const_mul (c 1))).add_const (c 0)
  convert h using 1
  simp only [evaluateDerivative, id]
  ring

/-- A differentiable function stays on `[0, 1]` under a bound it keeps at both ends and at
every critical point inside. -/
theorem le_of_critical {f f' : ℝ → ℝ} (hf : ∀ t, HasDerivAt f (f' t) t) {hi : ℝ}
    (h0 : f 0 ≤ hi) (h1 : f 1 ≤ hi) (hcrit : ∀ t ∈ Set.Ioo (0 : ℝ) 1, f' t = 0 → f t ≤ hi) :
    ∀ τ ∈ Set.Icc (0 : ℝ) 1, f τ ≤ hi := by
  obtain ⟨m, hm, hmax⟩ := isCompact_Icc.exists_isMaxOn (Set.nonempty_Icc.mpr zero_le_one)
    fun x _ => (hf x).continuousAt.continuousWithinAt
  intro τ hτ
  refine le_trans (hmax hτ) ?_
  rcases eq_or_lt_of_le hm.1 with rfl | hm0
  · exact h0
  rcases eq_or_lt_of_le hm.2 with rfl | hm1
  · exact h1
  exact hcrit m ⟨hm0, hm1⟩ ((hmax.isLocalMax (Icc_mem_nhds hm0 hm1)).hasDerivAt_eq_zero (hf m))

/-- The slope of the cubic, as the quadratic `a x² + b x + c` of Mathlib's discriminant. -/
theorem evaluateDerivative_eq_quadratic (c : Fin 4 → ℝ) (t : ℝ) :
    evaluateDerivative c t = 3 * c 3 * (t * t) + 2 * c 2 * t + c 1 := by
  unfold evaluateDerivative
  ring

theorem discrim_evaluateDerivative (c : Fin 4 → ℝ) :
    discrim (3 * c 3) (2 * c 2) (c 1) = 4 * c 2 ^ 2 - 12 * c 3 * c 1 := by
  unfold discrim
  ring

/-! ## The candidates cover every critical point -/

/-- Outside the bands, every critical point of the cubic is accounted for: its value is one
of `get_local_extrema`'s candidates. -/
theorem critical_value_covered (c : Fin 4 → ℝ) (hc : ¬ InToleranceBand c) {t : ℝ}
    (ht : evaluateDerivative c t = 0) :
    ∃ x ∈ extremaCandidates Real.sqrt c, evaluateSpline c t = x := by
  rw [evaluateDerivative_eq_quadratic] at ht
  simp only [InToleranceBand, not_or, not_and, not_lt, not_le] at hc
  obtain ⟨hb1, hb2, hb3⟩ := hc
  unfold extremaCandidates
  dsimp only
  split_ifs with h3 h2 hD hneg
  · -- treated as a quadratic, whose vertex is a candidate
    have h3' : c 3 = 0 := by_contra fun h => absurd h3 (not_lt.mpr (hb1 h))
    have h2' : c 2 ≠ 0 := fun h => by simp [h] at h2; norm_num at h2
    refine ⟨_, List.mem_append_right _ (List.mem_singleton_self _), ?_⟩
    congr 1
    field_simp
    rw [h3'] at ht
    linarith
  · -- treated as a line, which is critical only where it is constant
    have h3' : c 3 = 0 := by_contra fun h => absurd h3 (not_lt.mpr (hb1 h))
    have h2' : c 2 = 0 := by_contra fun h => absurd (not_lt.mp h2) (not_le.mpr (hb2 h3' h))
    refine ⟨_, List.mem_append_left _ (List.mem_cons_self _ _), ?_⟩
    simp only [evaluateSpline, h3', h2'] at ht ⊢
    have : c 1 = 0 := by linarith
    simp [this]
  all_goals
    have h3' : 3 * c 3 ≠ 0 := mul_ne_zero three_ne_zero fun h => h3 (by rw [h, abs_zero]; norm_num)
    have hdisc := discrim_evaluateDerivative c
  · -- a double root, or none
    have hD' : 4 * c 2 ^ 2 - 12 * c 3 * c 1 ≤ 0 :=
      not_lt.mp fun hpos => absurd (hb3 (not_lt.mp h3) hpos) (not_le.mpr (abs_lt.mp hD).2)
    rcases eq_or_lt_of_le hD' with h0 | hneg
    · refine ⟨_, List.mem_append_right _ (List.mem_singleton_self _), ?_⟩
      rcases (quadratic_eq_zero_iff h3' (by rw [hdisc, h0, mul_zero]) t).mp ht with h | h <;>
      · congr 1; rw [h]; ring
    · exact absurd ht (quadratic_ne_zero_of_discrim_ne_sq
        (fun s hs => absurd (hs ▸ hdisc ▸ hneg) (not_lt.mpr (sq_nonneg s))) t)
  · exact absurd ht (quadratic_ne_zero_of_discrim_ne_sq
      (fun s hs => absurd (hs ▸ hdisc ▸ hneg) (not_lt.mpr (sq_nonneg s))) t)
  · -- two roots by the formula
    have hpos : 0 ≤ 4 * c 2 ^ 2 - 12 * c 3 * c 1 := not_lt.mp hneg
    rcases (quadratic_eq_zero_iff h3' (by rw [hdisc, Real.mul_self_sqrt hpos]) t).mp ht with h | h
    · refine ⟨_, List.mem_append_right _ (List.mem_cons_self _ _), ?_⟩
      congr 1; rw [h]; ring
    · refine ⟨_, List.mem_append_right _ (List.mem_cons_of_mem _ (List.mem_singleton_self _)), ?_⟩
      congr 1; rw [h]; ring

/-- Outside the bands, `get_local_extrema` bounds the cubic over the whole segment. -/
theorem getLocalExtrema_bounds (c : Fin 4 → ℝ) (hc : ¬ InToleranceBand c) {τ : ℝ}
    (hτ : τ ∈ Set.Icc (0 : ℝ) 1) :
    (getLocalExtrema Real.sqrt c).1 ≤ evaluateSpline c τ ∧
      evaluateSpline c τ ≤ (getLocalExtrema Real.sqrt c).2 := by
  have hmin : ∀ {x}, x ∈ extremaCandidates Real.sqrt c → (getLocalExtrema Real.sqrt c).1 ≤ x :=
    minElement_le
  have hmax : ∀ {x}, x ∈ extremaCandidates Real.sqrt c → x ≤ (getLocalExtrema Real.sqrt c).2 :=
    le_maxElement
  constructor
  · -- the lower bound is the upper bound of the cubic with its sign turned
    have h := @le_of_critical (fun t => -evaluateSpline c t) (fun t => -evaluateDerivative c t)
      (fun t => (hasDerivAt_evaluateSpline c t).neg) (-(getLocalExtrema Real.sqrt c).1)
      (neg_le_neg (hmin (evaluateSpline_zero_mem _ c)))
      (neg_le_neg (hmin (evaluateSpline_one_mem _ c)))
      (fun t _ ht => by
        obtain ⟨x, hx, hxt⟩ := critical_value_covered c hc (neg_eq_zero.mp ht)
        exact neg_le_neg (hxt ▸ hmin hx)) τ hτ
    exact neg_le_neg_iff.mp h
  · exact le_of_critical (hasDerivAt_evaluateSpline c) (hmax (evaluateSpline_zero_mem _ c))
      (hmax (evaluateSpline_one_mem _ c))
      (fun t _ ht => by
        obtain ⟨x, hx, hxt⟩ := critical_value_covered c hc ht
        exact hxt ▸ hmax hx) τ hτ

/-! ## The boxes, and the prune -/

/-- The grown box of a spline contains `position(τ) ± ℓ` on both axes. -/
theorem adjustBoundingBox_contains (s : Spline ℝ) (l : ℝ)
    (hs : ∀ i, ¬ InToleranceBand (s.axisCoeffs i)) {τ : ℝ} (hτ : τ ∈ Set.Icc (0 : ℝ) 1)
    (i : Fin 2) :
    (adjustBoundingBox (getBoundingBox Real.sqrt s) l).min i ≤
        evaluateSpline (s.axisCoeffs i) τ - l ∧
      evaluateSpline (s.axisCoeffs i) τ + l ≤
        (adjustBoundingBox (getBoundingBox Real.sqrt s) l).max i := by
  obtain ⟨h1, h2⟩ := getLocalExtrema_bounds _ (hs i) hτ
  simp only [adjustBoundingBox, getBoundingBox_min, getBoundingBox_max]
  constructor <;> linarith

/-- The broadphase keeps every pair whose centres come within the footprint's and the
vicinity's characteristic lengths on both axes. -/
theorem overlap_of_close {sa sb : Spline ℝ} {pa pb : Profile ℝ} {f v : FinalConvexShape ℝ}
    (hf : pa.footprint = some f) (hv : pb.vicinity = some v)
    (ha : ∀ i, ¬ InToleranceBand (sa.axisCoeffs i)) (hb : ∀ i, ¬ InToleranceBand (sb.axisCoeffs i))
    {τa τb : ℝ} (hτa : τa ∈ Set.Icc (0 : ℝ) 1) (hτb : τb ∈ Set.Icc (0 : ℝ) 1)
    (hclose : ∀ i : Fin 2, |evaluateSpline (sa.axisCoeffs i) τa -
      evaluateSpline (sb.axisCoeffs i) τb| ≤ f.characteristicLength + v.characteristicLength) :
    overlap (getBoundingProfile Real.sqrt sa pa).footprint
      (getBoundingProfile Real.sqrt sb pb).vicinity = true := by
  simp only [getBoundingProfile, hf, hv, Option.map_some', overlap, decide_eq_true_eq]
  intro i
  obtain ⟨ha1, ha2⟩ := adjustBoundingBox_contains sa f.characteristicLength ha hτa i
  obtain ⟨hb1, hb2⟩ := adjustBoundingBox_contains sb v.characteristicLength hb hτb i
  obtain ⟨h1, h2⟩ := abs_le.mp (hclose i)
  constructor <;> exact not_lt.mpr (by linarith)

/-! ## Soundness of the broadphase, and where it fails -/

/-- The broadphase is sound for every spline whose `x` and `y` cubics lie outside the
tolerance bands of `get_local_extrema`: the extrema bound the cubic on `[0, 1]`, the grown
box contains `position(τ) ± ℓ`, and `overlap(bound_a.footprint, bound_b.vicinity)` keeps
every pair whose centres come within the two characteristic lengths on both axes. -/
theorem broadphase_sound_outside_tolerance_bands :
    (∀ c : Fin 4 → ℝ, ¬ InToleranceBand c → ∀ τ ∈ Set.Icc (0 : ℝ) 1,
      (getLocalExtrema Real.sqrt c).1 ≤ evaluateSpline c τ ∧
        evaluateSpline c τ ≤ (getLocalExtrema Real.sqrt c).2) ∧
    (∀ (s : Spline ℝ) (l : ℝ), (∀ i, ¬ InToleranceBand (s.axisCoeffs i)) →
      ∀ τ ∈ Set.Icc (0 : ℝ) 1, ∀ i : Fin 2,
        (adjustBoundingBox (getBoundingBox Real.sqrt s) l).min i ≤
            evaluateSpline (s.axisCoeffs i) τ - l ∧
          evaluateSpline (s.axisCoeffs i) τ + l ≤
            (adjustBoundingBox (getBoundingBox Real.sqrt s) l).max i) ∧
    (∀ (sa sb : Spline ℝ) (pa pb : Profile ℝ) (f v : FinalConvexShape ℝ),
      pa.footprint = some f → pb.vicinity = some v →
      (∀ i, ¬ InToleranceBand (sa.axisCoeffs i)) → (∀ i, ¬ InToleranceBand (sb.axisCoeffs i)) →
      ∀ τa ∈ Set.Icc (0 : ℝ) 1, ∀ τb ∈ Set.Icc (0 : ℝ) 1,
        (∀ i : Fin 2, |evaluateSpline (sa.axisCoeffs i) τa -
          evaluateSpline (sb.axisCoeffs i) τb| ≤ f.characteristicLength + v.characteristicLength) →
        overlap (getBoundingProfile Real.sqrt sa pa).footprint
          (getBoundingProfile Real.sqrt sb pb).vicinity = true) :=
  ⟨fun c hc _ hτ => getLocalExtrema_bounds c hc hτ,
    fun s l hs _ hτ i => adjustBoundingBox_contains s l hs hτ i,
    fun _ _ _ _ _ _ hf hv ha hb _ hτa _ hτb hclose => overlap_of_close hf hv ha hb hτa hτb hclose⟩


/-- A unit-sized cubic in the discriminant band (`D = 3.6e-5`): `get_local_extrema` keeps the
inflection point `0.999`, where the cubic is `0`, and drops the maximum `2e-9` at `0.998`.
A stationary vehicle at `x = 2e-9` is then pruned, although at `0.998 s` the two centres
coincide. -/
theorem broadphase_prunes_pair_in_discriminant_band :
    let sa : Spline ℝ := ⟨⟨0, ![-997000002 / 1000000000, 0, 0], ![2994 / 1000, 0, 0]⟩,
      ⟨1000000000, ![-2 / 1000000000, 0, 0], 0⟩⟩
    let sb : Spline ℝ := ⟨⟨0, ![2 / 1000000000, 0, 0], 0⟩, ⟨1000000000, ![2 / 1000000000, 0, 0], 0⟩⟩
    sa.computePosition 998000000 = sb.computePosition 998000000 ∧
      overlap (getBoundingProfile Real.sqrt sa ⟨some ⟨0, 0⟩, none⟩).footprint
        (getBoundingProfile Real.sqrt sb ⟨none, some ⟨1, 0⟩⟩).vicinity = false := by
  intro sa sb
  constructor
  · funext i
    match i with
    | 0 | 1 | 2 =>
      norm_num [sa, sb, Spline.computePosition, Spline.getParams, Spline.scaledTime, Spline.startTime,
        Spline.finishTime, toSeconds, evaluateSpline, Spline.hermite]
  · -- the `x` cubics: `τ³ - 2.997 τ² + 2.994 τ - 0.997000002` and the constant `2e-9`
    have ha : sa.axisCoeffs 0 = ![-997000002 / 1000000000, 2994 / 1000, -2997 / 1000, 1] := by
      funext j
      fin_cases j <;> norm_num [sa, Spline.axisCoeffs, Spline.getParams, Spline.hermite,
        Spline.startTime, Spline.finishTime, toSeconds]
    have hb : sb.axisCoeffs 0 = ![2 / 1000000000, 0, 0, 0] := by
      funext j
      fin_cases j <;> norm_num [sb, Spline.axisCoeffs, Spline.getParams, Spline.hermite,
        Spline.startTime, Spline.finishTime, toSeconds]
    have hmax : (getLocalExtrema Real.sqrt (sa.axisCoeffs 0)).2 = 0 := by
      -- a true cubic whose discriminant falls in the band: one candidate, at `0.999`
      have hc3 : ¬ |(1 : ℝ)| < 1e-12 := by norm_num
      have hD : |4 * (-2997 / 1000 : ℝ) ^ 2 - 12 * 1 * (2994 / 1000)| < 1e-4 := by
        norm_num [abs_lt]
      simp only [ha, getLocalExtrema, extremaCandidates, Matrix.cons_val_zero,
        Matrix.cons_val_one, Matrix.head_cons, Matrix.cons_val_two, Matrix.cons_val_three,
        Matrix.tail_cons, if_neg hc3, if_pos hD, List.cons_append, List.nil_append]
      norm_num [maxElement, evaluateSpline]
    have hmin : (getLocalExtrema Real.sqrt (sb.axisCoeffs 0)).1 = 2 / 1000000000 := by
      rw [hb]
      norm_num [getLocalExtrema, extremaCandidates, minElement, evaluateSpline]
    simp only [getBoundingProfile, Option.map_some', overlap, decide_eq_false_iff_not]
    intro h
    have := (h 0).1
    simp only [adjustBoundingBox, getBoundingBox_max, getBoundingBox_min, hmax, hmin] at this
    norm_num at this

/-! ## Critical points past the segment -/

/-- A vehicle slowing from `x = 4` to `x = 1` over one second, `x(τ) = (τ - 2)²`: the critical
point `τ = 2` lies past the segment, yet `get_local_extrema` counts its value `0`, so the box
reaches `x = 0`, which the vehicle never takes on `[0, 1]`. -/
theorem getLocalExtrema_widens_past_segment :
    let s : Spline ℝ := ⟨⟨0, ![4, 0, 0], ![-4, 0, 0]⟩, ⟨1000000000, ![1, 0, 0], ![-2, 0, 0]⟩⟩
    s.axisCoeffs 0 = ![4, -4, 1, 0] ∧ getLocalExtrema Real.sqrt (s.axisCoeffs 0) = (0, 4) ∧
      (getBoundingBox Real.sqrt s).min 0 = 0 ∧
      ¬ ∃ τ : ℝ, 0 ≤ τ ∧ τ ≤ 1 ∧
        evaluateSpline (s.axisCoeffs 0) τ = (getLocalExtrema Real.sqrt (s.axisCoeffs 0)).1 := by
  intro s
  have hc : s.axisCoeffs 0 = ![4, -4, 1, 0] := by
    funext j
    fin_cases j <;> norm_num [s, Spline.axisCoeffs, Spline.getParams, Spline.hermite,
      Spline.startTime, Spline.finishTime, toSeconds]
  have he : getLocalExtrema Real.sqrt (s.axisCoeffs 0) = (0, 4) := by
    rw [hc]
    norm_num [getLocalExtrema, extremaCandidates, minElement, maxElement, evaluateSpline]
  refine ⟨hc, he, by rw [getBoundingBox_min, he], ?_⟩
  rintro ⟨τ, -, hτ, h⟩
  rw [he, hc] at h
  simp only [evaluateSpline, Matrix.cons_val_zero, Matrix.cons_val_one, Matrix.head_cons] at h
  norm_num at h
  nlinarith

end RmfTraffic
