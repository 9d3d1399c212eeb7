import MeshRoom.Geometry.Vector

/-!
# Bounding spheres

The sphere around points has its centre in the middle of their bounding box and reaches to the
farthest of them.
-/

namespace MeshRoom

/-- The corners of the box around points. -/
def boundingBox? : List Vec3 → Option (Vec3 × Vec3)
  | [] => none
  | p :: ps => some (ps.foldl Vec3.least p, ps.foldl Vec3.greatest p)

/-- A centre and a radius. -/
structure Sphere where
  center : Vec3
  radius : Single
deriving DecidableEq

/-- The greatest distance of points from a centre, zero if there are none. -/
def reach (center : Vec3) (points : List Vec3) : Single :=
  (points.map (Vec3.distance · center)).foldl Single.greatest 0

/-- The sphere around points, if there are any. -/
def boundingSphere? (points : List Vec3) : Option Sphere := do
  let (lower, upper) ← boundingBox? points
  let center := (lower + upper).scale (.ofDecimal 5 (-1))
  some ⟨center, reach center points⟩

end MeshRoom
