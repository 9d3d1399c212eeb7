import Std.Data.ExtTreeMap

/-!
# Tables

Things that are looked up by name, in the order of their names.
-/

namespace MeshRoom

/-- Things by name. -/
abbrev Table (α : Type) := Std.ExtTreeMap String α

end MeshRoom
