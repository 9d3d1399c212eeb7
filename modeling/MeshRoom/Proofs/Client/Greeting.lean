import MeshRoom.Proofs.Client.Booting

/-!
# Greetings

A frame greets a client if it grants it an identity that is not empty. The first greeting gives the
client its identity and every other one is of no consequence, while no other frame ever gives it
one.
-/

namespace MeshRoom

open Json Wire

/-- Whether a frame grants an identity that is not empty. -/
def isGreeting (text : String) : Bool := (granted? text).any fun id => !id.isEmpty

namespace Client

variable {V : Type} [View V] {c : Client V} {text : String}

/-- What a client may come to by receiving a frame, if there is one. -/
lemma of_receiveMany_one {P : Client V → Prop} (h : P c)
    (hframe : ∀ text rest, c.channel.inbound = text :: rest →
      P (({ c with channel := { c.channel with inbound := rest } } : Client V).handle text).2) :
    P (c.receiveMany 1) := by
  unfold receiveMany receive? MemoryChannel.receive
  cases hinbound : c.channel.inbound with
  | nil => cases c.channel.isOpen <;> exact h
  | cons text rest => exact hframe text rest hinbound

/-- A greeting gives a client its identity, if it has none, and is otherwise of no consequence. -/
lemma handle_greeting (hd : c.dispatcher.IsStandard) (h : isGreeting text = true) :
    ∃ session events, (c.handle text).2 = { c with room := { c.room with session, events } } ∧
      session.isAssigned = true ∧ events.filter Event.isMilestone = c.room.milestones := by
  obtain ⟨id, hgranted, hid⟩ := Option.any_eq_true _ _ |>.1 h
  have hoffered : c.offered? text = some id := (offered?_eq_granted? hd text).trans hgranted
  obtain ⟨e, grant, hparse, hfind, hgrant, rfl⟩ := exists_of_offered? hoffered
  have hassigned : (c.room.session.offer grant.session).isAssigned = true := by
    have hfirst : firstNamed? [grant.session] = some grant.session :=
      List.find?_cons_of_pos hid
    rw [Session.isAssigned, Session.id_offer, hfirst]
    cases c.room.session.id <;> rfl
  rw [handle_of_handler hparse hfind trivial]
  simp only [Handler.run, Handler.reading, hgrant]
  unfold Session.offer at hassigned
  cases hassign : c.room.session.assign grant.session with
  | ok session =>
    rw [hassign] at hassigned
    exact ⟨session, _, rfl, hassigned, Room.milestones_tell rfl⟩
  | error e =>
    rw [hassign] at hassigned
    exact ⟨c.room.session, _, rfl, hassigned, rfl⟩

/-- No other frame gives a client its identity. -/
lemma id_handle_of_not_greeting (hd : c.dispatcher.IsStandard) (h : isGreeting text = false) :
    (c.handle text).2.room.session.id = c.room.session.id := by
  have hsession := c.session_handle text
  rw [offered?_eq_granted? hd text] at hsession
  unfold isGreeting at h
  cases hgranted : granted? text with
  | none =>
    rw [hgranted] at hsession
    rw [hsession]
  | some id =>
    rw [hgranted] at hsession h
    rw [hsession.1, Session.id_offer, firstNamed?, List.find?_cons_of_neg (by simpa using h)]
    exact Option.or_none

/-- A client that has its identity keeps it, whatever it receives. -/
lemma id_handle_of_id {id : String} (h : c.room.session.id = some id) (text : String) :
    (c.handle text).2.room.session.id = some id := by
  have hsession := c.session_handle text
  split at hsession
  · rw [hsession.1, Session.id_offer_of_id h]
  · rw [hsession, h]

lemma isAssigned_handle (h : c.room.session.isAssigned = true) (text : String) :
    (c.handle text).2.room.session.isAssigned = true := by
  obtain ⟨id, hid⟩ := Option.isSome_iff_exists.1 h
  exact Option.isSome_of_eq_some (id_handle_of_id hid text)

end Client

end MeshRoom
