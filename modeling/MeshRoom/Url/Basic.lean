import MeshRoom.Url.Host

/-!
# Addresses

An address in its parts. In the special schemes a host is always there, and a port is kept only if
it is not the default one; `Url.effectivePort?` is the port a connection goes to.
-/

namespace MeshRoom

/-- The part after the authority: segments, or in an address without authority any text. -/
inductive UrlPath where
  | segments (parts : List String)
  | rootless (text : String)
deriving DecidableEq, Repr

/-- An address in its parts. -/
structure Url where
  scheme : String
  username : String := ""
  password : String := ""
  host : Option Host := none
  port : Option Nat := none
  path : UrlPath := .segments []
  query : Option String := none
  fragment : Option String := none
deriving DecidableEq, Repr

namespace Url

/-- The default port of a scheme that has one. -/
def defaultPort? (scheme : String) : Option Nat :=
  if scheme = "http" ∨ scheme = "ws" then some 80
  else if scheme = "https" ∨ scheme = "wss" then some 443
  else if scheme = "ftp" then some 21
  else none

/-- The special schemes: those with a default port, and files. -/
def isSpecial (scheme : String) : Bool := (defaultPort? scheme).isSome || scheme = "file"

/-- The port a connection goes to. -/
def effectivePort? (u : Url) : Option Nat := u.port.or (defaultPort? u.scheme)

/-! ### Text -/

/-- The user and password before a host. -/
def credentialsText (u : Url) : String :=
  if u.username.isEmpty ∧ u.password.isEmpty then ""
  else u.username ++ (if u.password.isEmpty then "" else ":" ++ u.password) ++ "@"

/-- The authority, if there is a host. -/
def authorityText (u : Url) : String :=
  match u.host with
  | none => ""
  | some h =>
    "//" ++ u.credentialsText ++ h.text ++
      (match u.port with | none => "" | some p => ":" ++ toString p)

/-- The path. Without an authority, a path that starts with an empty segment is marked, so that it
is not taken for one. -/
def pathText (u : Url) : String :=
  match u.path with
  | .rootless t => t
  | .segments parts =>
    (if u.host.isNone ∧ 1 < parts.length ∧ parts.head? = some "" then "/." else "") ++
      String.join (parts.map ("/" ++ ·))

/-- The query after a path. -/
def queryText (u : Url) : String :=
  match u.query with | none => "" | some q => "?" ++ q

/-- What is asked of the server: path and query. -/
def target (u : Url) : String := u.pathText ++ u.queryText

/-- The whole address. -/
def text (u : Url) : String :=
  u.scheme ++ ":" ++ u.authorityText ++ u.target ++
    (match u.fragment with | none => "" | some f => "#" ++ f)

end Url

end MeshRoom
