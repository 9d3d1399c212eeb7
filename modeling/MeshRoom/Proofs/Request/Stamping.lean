import MeshRoom.Plugin.Hook
import Mathlib.Tactic.Lemma

/-!
# Requests carry the identity

A payload that names no session is sent with the identity of the own session in it, and is not sent
at all before there is one. All that hooks ask for goes out with such a payload.
-/

namespace MeshRoom

open Json

/-- A payload that names no session: nothing, or an object that does not name one. -/
def isAnonymous : Value → Bool
  | .object members => !namesSession members
  | .null => true
  | _ => false

lemma stampMembers_of_anonymous {own : Session} {members stamped : Entries Value}
    (h : namesSession members = false) (hstamp : stampMembers own members = .ok stamped) :
    ∃ id, own.id = some id ∧ stamped.lookup sessionField = some (.string id) := by
  unfold stampMembers at hstamp
  rw [h, if_neg Bool.false_ne_true] at hstamp
  cases hid : own.id with
  | none =>
    rw [hid] at hstamp
    cases hstamp
  | some id =>
    rw [hid] at hstamp
    cases hstamp
    exact ⟨id, rfl, by rw [Entries.lookup_insert, if_pos rfl]⟩

/-- What is sent for a payload that names no session names the own one. -/
lemma stamp_of_isAnonymous {own : Session} {payload body : Value}
    (h : isAnonymous payload = true) (hstamp : stamp own payload = .ok body) :
    ∃ id members, own.id = some id ∧ body = .object members ∧
      members.lookup sessionField = some (.string id) := by
  have hmembers : ∀ given, namesSession given = false →
      (stampMembers own given).map Value.object = .ok body →
        ∃ id members, own.id = some id ∧ body = .object members ∧
          members.lookup sessionField = some (.string id) := by
    intro given hgiven hbody
    cases hstamped : stampMembers own given with
    | error =>
      rw [hstamped] at hbody
      cases hbody
    | ok members =>
      rw [hstamped] at hbody
      cases hbody
      obtain ⟨id, hid, hlookup⟩ := stampMembers_of_anonymous hgiven hstamped
      exact ⟨id, members, hid, rfl, hlookup⟩
  cases payload with
  | object given => exact hmembers given (by simpa [isAnonymous] using h) hstamp
  | null => exact hmembers [] rfl hstamp
  | bool | number | string | array => cases h

/-! ### What a server hears -/

/-- A request that carries an identity: its body is an object that has it where the session is
named. -/
def SeenRequest.Carries (r : SeenRequest) (id : String) : Prop :=
  ∃ members, r.body = (Value.object members).text ∧
    members.lookup sessionField = some (.string id)

/-- All that a server has heard in between carries the identity of the session. -/
def Server.Hears (own : Session) (s s' : Server) : Prop :=
  ∃ heard, s'.seen = s.seen ++ heard ∧ ∀ r ∈ heard, ∃ id, own.id = some id ∧ r.Carries id

namespace Server.Hears

variable {own : Session} {s : Server}

lemma refl (own : Session) (s : Server) : s.Hears own s :=
  ⟨[], (List.append_nil _).symm, by simp⟩

lemma post {id : String} (hid : own.id = some id) {members : Entries Value}
    (hmembers : members.lookup sessionField = some (.string id)) (u : Url) :
    s.Hears own (s.post u (.object members)).2 := by
  unfold Server.post
  split
  · refine ⟨_, rfl, fun r hr => ⟨id, hid, members, ?_, hmembers⟩⟩
    rw [List.mem_singleton.1 hr]
  · exact refl own s

variable {payload : Value}

lemma send (h : isAnonymous payload = true) (r : Requester) (task : String) :
    s.Hears own (r.send own task payload s).2 := by
  unfold Requester.send Requester.prepare
  cases hstamp : stamp own payload with
  | error => exact refl own s
  | ok body =>
    obtain ⟨id, members, hid, rfl, hlookup⟩ := stamp_of_isAnonymous h hstamp
    cases r.taskUrl? task with
    | none => exact refl own s
    | some u => exact post hid hlookup u

lemma call (h : isAnonymous payload = true) (r : Requester) (task : String) :
    s.Hears own (r.call own task payload s).server := send h r task

lemma callAs {α : Type} (h : isAnonymous payload = true) (d : Decoder α) (r : Requester)
    (task : String) : s.Hears own (r.callAs d own task payload s).server := send h r task

/-- The payload that names a mesh names no session, and no other is made use of by hooks. -/
lemma hook (h : Hook) (r : Requester) (e : MeshEntry) : s.Hears own (h.run r own e s).server := by
  cases h with
  | visibilityToggle => exact refl own s
  | label => exact refl own s
  | healthBadge => exact callAs rfl Wire.MeshHealth.listing r _

end Server.Hears

end MeshRoom
