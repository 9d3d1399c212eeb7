import MeshRoom.View.Basic

/-!
# Reports of a delta

What became of every entry of a delta, in the order of the entries, and whether the delta brought
the first meshes into an empty scene.
-/

namespace MeshRoom

/-- Why an entry is not followed. -/
inductive EntryError where
  | malformed
  | geometry (e : GeometryError)
  | rejected (r : Rejection)
deriving DecidableEq, Repr

/-- What is told about an entry that is not followed. -/
def EntryError.message : EntryError → String
  | .malformed => "invalid mesh entry"
  | .geometry e => e.message
  | .rejected r => r.message

/-- What became of an entry: a mesh was added or rebuilt; one was removed, or there was none to
remove; the entry could not be read and nothing changed; or the view rejected the mesh, and the one
it was to replace, if any, is gone. -/
inductive EntryFate where
  | added
  | rebuilt
  | removed
  | unknown
  | unread (e : EntryError)
  | rejected (r : Rejection) (replaced : Bool)
deriving DecidableEq, Repr

namespace EntryFate

/-- Whether a mesh is gone. -/
def isLoss : EntryFate → Bool
  | .removed => true
  | .rejected _ replaced => replaced
  | _ => false

/-- What went wrong, if anything did. -/
def error? : EntryFate → Option EntryError
  | .unread e => some e
  | .rejected r _ => some (.rejected r)
  | _ => none

end EntryFate

/-- What a delta did. -/
structure Report where
  fates : List (String × EntryFate) := []
  framed : Bool := false
deriving DecidableEq, Repr

namespace Report

/-- The entries with a fate of some kind. -/
def having (r : Report) (p : EntryFate → Bool) : List String :=
  (r.fates.filter fun (_, f) => p f).map Prod.fst

/-- The meshes that were not there before. -/
def added (r : Report) : List String := r.having (· = .added)

/-- The meshes that were replaced. -/
def updated (r : Report) : List String := r.having (· = .rebuilt)

/-- The meshes that are gone, those included whose replacement the view rejected. -/
def removed (r : Report) : List String := r.having EntryFate.isLoss

/-- The entries that were not followed, with the reasons. -/
def failed (r : Report) : List (String × EntryError) :=
  r.fates.filterMap fun (uuid, f) => f.error?.map (uuid, ·)

/-- Whether the meshes are as before. -/
def isNoop (r : Report) : Bool := r.added.isEmpty && r.updated.isEmpty && r.removed.isEmpty

end Report

end MeshRoom
