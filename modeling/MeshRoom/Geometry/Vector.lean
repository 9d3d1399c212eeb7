import MeshRoom.Number.Single

/-!
# Vectors

Points, directions and colours in three coordinates, and offsets in two. Sums of products are taken
from the left, each step rounded on its own.
-/

namespace MeshRoom

/-- A vector of three coordinates. -/
structure Vec3 where
  x : Single
  y : Single
  z : Single
deriving DecidableEq, Inhabited

/-- A vector of two coordinates. -/
structure Vec2 where
  x : Single
  y : Single
deriving DecidableEq, Inhabited

namespace Vec3

instance : Add Vec3 := ⟨fun a b => ⟨a.x + b.x, a.y + b.y, a.z + b.z⟩⟩
instance : Sub Vec3 := ⟨fun a b => ⟨a.x - b.x, a.y - b.y, a.z - b.z⟩⟩

/-- The origin. -/
def zero : Vec3 := ⟨0, 0, 0⟩

/-- Every coordinate times a factor. -/
def scale (a : Vec3) (k : Single) : Vec3 := ⟨a.x * k, a.y * k, a.z * k⟩

def dot (a b : Vec3) : Single := a.x * b.x + a.y * b.y + a.z * b.z

def length (a : Vec3) : Single := (a.dot a).sqrt

def distance (a b : Vec3) : Single := (a - b).length

/-- The lower corner of the box around two points. -/
def least (a b : Vec3) : Vec3 := ⟨a.x.least b.x, a.y.least b.y, a.z.least b.z⟩

/-- The upper corner of the box around two points. -/
def greatest (a b : Vec3) : Vec3 := ⟨a.x.greatest b.x, a.y.greatest b.y, a.z.greatest b.z⟩

def isFinite (a : Vec3) : Bool := a.x.isFinite && a.y.isFinite && a.z.isFinite

/-- The direction of a vector, or zero where its length has no usable reciprocal. -/
def direction (a : Vec3) : Vec3 :=
  let r := 1 / a.length
  if r.isFinite && Single.below 0 r then a.scale r else zero

/-- Numeric equality of every coordinate. -/
def agrees (a b : Vec3) : Bool := a.x.agrees b.x && a.y.agrees b.y && a.z.agrees b.z

end Vec3

/-- Numeric equality of both coordinates. -/
def Vec2.agrees (a b : Vec2) : Bool := a.x.agrees b.x && a.y.agrees b.y

end MeshRoom
