import MeshRoom.Json.Value
import MeshRoom.Table
import MeshRoom.Url.Parse

/-!
# Servers

A server whose answers are laid down: the requests under one name get its answers in order, the last
of them again and again. What a request is named is told by the end of its path. A server answers
requests to its own address only, and keeps a record of those it gets.
-/

namespace MeshRoom

open Json

/-- What a server answers. -/
structure Response where
  status : Nat
  body : String
deriving DecidableEq, Repr

/-- Whether a response says that the request succeeded. -/
def Response.isSuccess (r : Response) : Bool := 200 ≤ r.status && r.status ≤ 299

/-- A request that a server got: what was asked for and the body that came with it. -/
structure SeenRequest where
  target : String
  body : String
deriving DecidableEq, Repr

/-- A server. Where no answer is laid down to a request, or where `none` is, the server hangs up or
has nothing under that name. -/
structure Server where
  address : Url
  isUp : Bool := true
  answers : Table (List (Option Response)) := ∅
  seen : List SeenRequest := []

namespace Server

/-- What a request is named: its target after the last slash. -/
def nameOf (target : String) : String :=
  String.ofList (target.toList.reverse.takeWhile (· ≠ '/')).reverse

/-- Whether an address lies on the server. -/
def serves (s : Server) (u : Url) : Bool :=
  s.isUp && u.scheme = s.address.scheme && u.host = s.address.host &&
    u.effectivePort? = s.address.effectivePort?

/-- What is said of names that the server has nothing under. -/
def notFound : Response := ⟨404, "null"⟩

/-- The next answer, and the answers after it. -/
def nextAnswer : List (Option Response) → Option Response × List (Option Response)
  | [] => (some notFound, [])
  | [a] => (a, [a])
  | a :: rest => (a, rest)

/-- Get a request, and answer it. -/
def post (u : Url) (body : Value) (s : Server) : Option Response × Server :=
  if s.serves u then
    let target := u.target
    let name := nameOf target
    let (answer, rest) := nextAnswer ((s.answers[name]?).getD [])
    (answer,
      { s with
        answers := s.answers.insert name rest
        seen := s.seen ++ [⟨target, body.text⟩] })
  else (none, s)

end Server

end MeshRoom
