import MeshRoom.Session
import MeshRoom.Table
import MeshRoom.View.Controls

/-!
# Cursors of the room

The cursors of the other sessions. A cursor appears when a notice first shows it and leaves when a
notice removes it; notices of the own session and of nobody are ignored.
-/

namespace MeshRoom

open Wire

/-- The cursors of other sessions, by session. -/
abbrev CursorTable := Table Cursor

/-- What became of a cursor. -/
inductive CursorFate where
  | added
  | moved
  | removed
  | ignored
deriving DecidableEq, Repr

namespace CursorTable

/-- Put the cursor of a session in its place. -/
def place (t : CursorTable) (id : String) (c : Cursor) : CursorFate × CursorTable :=
  (if id ∈ t then .moved else .added, t.insert id c)

/-- Take the cursor of a session away. -/
def drop (t : CursorTable) (id : String) : CursorFate × CursorTable :=
  if id ∈ t then (.removed, t.erase id) else (.ignored, t)

/-- Follow a notice, as the session `own`. -/
def follow (own : Session) (n : CursorNotice) (t : CursorTable) : CursorFate × CursorTable :=
  if n.session.isEmpty || own.owns n.session then (.ignored, t)
  else if n.isRemoval then t.drop n.session
  else
    match n.cursor with
    | none => (.ignored, t)
    | some m => t.place n.session (.ofMark m)

end CursorTable

end MeshRoom
