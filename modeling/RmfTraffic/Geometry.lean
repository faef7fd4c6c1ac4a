import RmfTraffic.Spline

/-!
# Shapes, profiles, and what the engine asks of the collision library

A vehicle's `Profile` holds two optional convex shapes: the `footprint`, its body, and the
`vicinity`, the region around it that another vehicle should not enter. A shape is a
`FinalConvexShape`: an opaque collision geometry with a characteristic length, a radius large
enough to enclose it. Shapes are held by shared pointer, and the engine compares the pointers
(`profile.vicinity != profile.footprint`), so a shape here is an object with an identity.

The collision library (fcl) and `DistanceDifferential` are not among the sources. The engine
consults them through `Oracle`, whose fields are the calls it makes, and every result proved
about the engine holds for every oracle unless a theorem names a property of it. What the
spec does say of `DistanceDifferential` (the window it analyses) is modelled in the engine.
-/

set_option autoImplicit false

namespace RmfTraffic

/-- `geometry::FinalConvexShape`, as an object: `id` tells two objects apart, as the pointers to
them do, and stands for the collision geometry the library is handed. -/
structure FinalConvexShape (K : Type) where
  id : Nat
  characteristicLength : K
  deriving DecidableEq

/-- `Profile::Implementation`: footprint and vicinity, each a possibly null pointer. -/
structure Profile (K : Type) where
  footprint : Option (FinalConvexShape K)
  vicinity : Option (FinalConvexShape K)
  deriving DecidableEq

/-- A pose `(x, y, yaw)`: where `check_overlap` places a shape, and a region's placement. -/
abbrev Pose (K : Type) := Fin 3 → K

/-- The calls the engine makes into code that is not among the sources. -/
structure Oracle (K : Type) where
  /-- `fcl::collide` on two continuous collision objects, each a shape moving along its
  spline over the window `[start, finish]`: the fraction of the window at first contact. -/
  continuousCollide :
    FinalConvexShape K → Spline K → FinalConvexShape K → Spline K → Int → Int → Option K
  /-- `fcl::collide` of two shapes at two poses. -/
  collide : FinalConvexShape K → Pose K → FinalConvexShape K → Pose K → Bool
  /-- `DistanceDifferential::initially_approaching`. -/
  initiallyApproaching : Spline K → Spline K → Bool
  /-- `DistanceDifferential::approach_times`. -/
  approachTimes : Spline K → Spline K → List Int
  /-- `fcl::collide` of a shape moving along a spline over `[start, finish]` with one convex
  piece of a region's shape, held at the region's pose. -/
  regionCollide : FinalConvexShape K → Spline K → Int → Int → Nat → Pose K → Option K
  /-- `std::sqrt`, which the bounding boxes use for the roots of a quadratic. -/
  sqrt : K → K

variable {K : Type}

/-- `convert_profile`: a profile without a vicinity takes its footprint as its vicinity. -/
def convertProfile (profile : Profile K) : Profile K :=
  if profile.vicinity.isNone then { profile with vicinity := profile.footprint } else profile

@[simp] theorem convertProfile_mk_none (footprint : Option (FinalConvexShape K)) :
    convertProfile ⟨footprint, none⟩ = ⟨footprint, footprint⟩ := rfl

@[simp] theorem convertProfile_mk_some (footprint : Option (FinalConvexShape K))
    (vicinity : FinalConvexShape K) :
    convertProfile ⟨footprint, some vicinity⟩ = ⟨footprint, some vicinity⟩ := rfl

/-- After `convert_profile` the vicinity is absent only when the footprint is. -/
theorem convertProfile_vicinity_isNone (profile : Profile K) :
    (convertProfile profile).vicinity.isNone =
      (profile.vicinity.isNone && profile.footprint.isNone) := by
  obtain ⟨footprint, vicinity⟩ := profile
  cases vicinity <;> simp [convertProfile]

@[simp] theorem convertProfile_footprint (profile : Profile K) :
    (convertProfile profile).footprint = profile.footprint := by
  unfold convertProfile
  split <;> rfl

/-- The public accessor `Profile::vicinity()`, which `internal::detect_conflicts` reads. Its body
is not among the sources; the specification normalises a profile so that one without a
vicinity has its footprint as its vicinity, and the accessor is read that way: it is the
vicinity `convert_profile` gives. -/
def Profile.normalizedVicinity (profile : Profile K) : Option (FinalConvexShape K) :=
  (convertProfile profile).vicinity

/-- A vicinity that is set is what the accessor returns. -/
theorem Profile.normalizedVicinity_of_vicinity {profile : Profile K} {vicinity : FinalConvexShape K}
    (h : profile.vicinity = some vicinity) : profile.normalizedVicinity = some vicinity := by
  obtain ⟨footprint, _⟩ := profile
  subst h
  rfl

end RmfTraffic
