import MeshRoom.Duration

/-!
# Sessions

The server gives a session its identity, which is never empty and never changes: repeating it is
accepted, any other is refused. Whoever needs the identity waits for it within a limit.
-/

namespace MeshRoom

/-- Why there is no identity, or why one is refused. -/
inductive SessionError where
  | alreadyAssigned (current offered : String)
  | empty
  | timeout (limit : Duration)
deriving DecidableEq, Repr

/-- What is told about a session error. -/
def SessionError.message : SessionError → String
  | .alreadyAssigned current offered =>
    "session already assigned as " ++ current ++ ", refusing " ++ offered
  | .empty => "session identifier is empty"
  | .timeout limit => "no session assigned within " ++ limit.text

/-- A session, with its identity once it has one. -/
structure Session where
  id : Option String := none
deriving DecidableEq, Repr

/-- An identity offered some time from now. -/
structure Offer where
  after : Duration
  id : String
deriving DecidableEq, Repr

namespace Session

def isAssigned (s : Session) : Bool := s.id.isSome

/-- Whether the session has this very identity. -/
def owns (s : Session) (id : String) : Bool := s.id = some id

/-- Give the session an identity. -/
def assign (s : Session) (offered : String) : Except SessionError Session :=
  if offered.isEmpty then .error .empty
  else
    match s.id with
    | none => .ok ⟨some offered⟩
    | some current =>
      if current = offered then .ok s else .error (.alreadyAssigned current offered)

/-- The session after an offer; a refused one changes nothing. -/
def offer (s : Session) (offered : String) : Session :=
  match s.assign offered with
  | .ok s' => s'
  | .error _ => s

/-- The session after the offers of a list that come within a limit. -/
def within (s : Session) (limit : Duration) (offers : List Offer) : Session :=
  (offers.filter fun o => o.after.millis < limit.millis).foldl (fun s o => s.offer o.id) s

/-- The identity, waited for within a limit while offers come in. -/
def await (s : Session) (limit : Duration) (offers : List Offer) : Except SessionError String :=
  match (s.within limit offers).id with
  | some id => .ok id
  | none => .error (.timeout limit)

end Session

end MeshRoom
