import MeshRoom.Session
import Mathlib.Tactic.Lemma

/-!
# The identity of a session

Of all the identities that a session is offered, in whatever order, the first one that is not empty
becomes its own and stays so. An offer is accepted if it is of that very identity.
-/

namespace MeshRoom

/-- The first of some identities that is not empty. -/
def firstNamed? (ids : List String) : Option String := ids.find? fun id => !id.isEmpty

lemma firstNamed?_append (ids more : List String) :
    firstNamed? (ids ++ more) = (firstNamed? ids).or (firstNamed? more) :=
  List.find?_append

lemma ne_empty_of_firstNamed? {ids : List String} {id : String} (h : firstNamed? ids = some id) :
    id ≠ "" := by
  unfold firstNamed? at h
  have hid := List.find?_some h
  rintro rfl
  cases hid

namespace Session

/-- An identity that a session has stays; otherwise it gets the one it is offered, if that is not
empty. -/
lemma id_offer (s : Session) (offered : String) :
    (s.offer offered).id = s.id.or (firstNamed? [offered]) := by
  unfold offer assign firstNamed?
  cases hempty : offered.isEmpty with
  | true => simp [hempty]
  | false =>
    obtain ⟨_ | current⟩ := s
    · simp [hempty]
    · by_cases hsame : current = offered <;> simp [hsame]

/-- What becomes of a session that is offered identities one after the other. -/
theorem id_foldl_offer (ids : List String) (s : Session) :
    (ids.foldl offer s).id = s.id.or (firstNamed? ids) := by
  induction ids generalizing s with
  | nil => exact (Option.or_none).symm
  | cons id ids ih =>
    rw [List.foldl_cons, ih, id_offer, Option.or_assoc, ← firstNamed?_append, List.singleton_append]

/-- The session keeps its identity. -/
lemma id_offer_of_id {s : Session} {id : String} (h : s.id = some id) (offered : String) :
    (s.offer offered).id = some id := by
  rw [id_offer, h, Option.some_or]

/-- Whether an offer is accepted. -/
def accepts (s : Session) (offered : String) : Bool := (s.assign offered).isOk

/-- An offer is accepted if it is no empty one, and the identity afterwards. -/
lemma accepts_iff (s : Session) (offered : String) :
    s.accepts offered = true ↔ offered ≠ "" ∧ (s.offer offered).id = some offered := by
  unfold accepts offer assign
  by_cases hempty : offered = ""
  · simp [hempty, Except.isOk, Except.toBool]
  · obtain ⟨_ | current⟩ := s
    · simp [hempty, Except.isOk, Except.toBool]
    · by_cases hsame : current = offered <;> simp [hempty, hsame, Except.isOk, Except.toBool]

/-- An offer that is refused leaves the session as it was. -/
lemma offer_of_refused {s : Session} {offered : String} (h : s.accepts offered = false) :
    s.offer offered = s := by
  unfold accepts at h
  unfold offer
  cases hassign : s.assign offered with
  | error => rfl
  | ok s' =>
    rw [hassign] at h
    cases h

/-! ### Waiting -/

/-- The identities that are offered within a limit. -/
def inTime (limit : Duration) (offers : List Offer) : List String :=
  (offers.filter fun o => o.after.millis < limit.millis).map Offer.id

lemma within_eq_foldl (s : Session) (limit : Duration) (offers : List Offer) :
    s.within limit offers = (inTime limit offers).foldl offer s := by
  rw [within, inTime, List.foldl_map]

/-- Who waits gets the identity that the session then has. -/
lemma await_eq_ok_iff (s : Session) (limit : Duration) (offers : List Offer) (id : String) :
    s.await limit offers = .ok id ↔ (s.within limit offers).id = some id := by
  unfold await
  cases (s.within limit offers).id <;> simp

end Session

end MeshRoom
