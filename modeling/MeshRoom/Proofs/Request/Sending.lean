import MeshRoom.Proofs.Json.Entries
import MeshRoom.Proofs.Request.Stamping
import MeshRoom.Proofs.Session

/-!
# Requests sent and told

What is sent for a payload is the payload with the session named: a session that it names itself is
kept, and otherwise the own one takes the place. A payload that this cannot be done for is not sent.

A request that fails before there is a response to read is told as an event, once; a response that
says that the request succeeded, and then cannot be read, is not.
-/

namespace MeshRoom

open Json

/-! ### Bodies -/

/-- The members that a payload brings. No payload brings none. -/
def membersOf? : Value → Option (Entries Value)
  | .object members => some members
  | .null => some []
  | _ => none

/-- A payload of a kind that is not sent. -/
def isScalar : Value → Bool
  | .bool _ | .number _ | .string _ => true
  | _ => false

/-- Members that name a session. -/
def Names (members : Entries Value) (id : String) : Prop :=
  members.lookup sessionField = some (.string id) ∧ id ≠ ""

/-- Members signed with an identity. It takes the place of what stood there instead of a session, or
goes to the end if nothing did; all the other members stay as and where they are. -/
inductive Signed (id : String) : Entries Value → Entries Value → Prop where
  | replaced {before after : Entries Value} {v : Value} (h : sessionField ∉ before.keys)
      (hv : ∀ kept, v = .string kept → kept = "") :
      Signed id (before ++ (sessionField, v) :: after)
        (before ++ (sessionField, .string id) :: after)
  | appended {members : Entries Value} (h : sessionField ∉ members.keys) :
      Signed id members (members ++ [(sessionField, .string id)])

/-- What a payload is made to be sent, with the session as it is. -/
inductive StampRule (own : Session) : Value → Except RequestError Value → Prop where
  | list (items : List Value) : StampRule own (.array items) (.ok (.array items))
  | named {members : Entries Value} {id : String} (h : Names members id) :
      StampRule own (.object members) (.ok (.object members))
  | signed {payload : Value} {members signed : Entries Value} {id : String}
      (hmembers : membersOf? payload = some members) (hown : own.id = some id)
      (h : Signed id members signed) : StampRule own payload (.ok (.object signed))
  | noSession {payload : Value} {members : Entries Value}
      (hmembers : membersOf? payload = some members) (h : ∀ id, ¬ Names members id)
      (hown : own.id = none) : StampRule own payload (.error .noSession)
  | scalar {payload : Value} (h : isScalar payload = true) :
      StampRule own payload (.error .invalidPayload)

lemma namesSession_iff {members : Entries Value} :
    namesSession members = true ↔ ∃ id, Names members id := by
  unfold namesSession Names
  split
  case h_1 id hlookup => simp [hlookup]
  case h_2 hother =>
    refine iff_of_false Bool.false_ne_true ?_
    rintro ⟨id, hlookup, -⟩
    exact hother id hlookup

/-- Writing the identity under the name of the session signs members that name none. -/
lemma signed_insert {members : Entries Value} (h : ∀ id, ¬ Names members id) (id : String) :
    Signed id members (Entries.insert sessionField (.string id) members) := by
  cases hlookup : members.lookup sessionField with
  | none =>
    have hnew := Entries.lookup_eq_none_iff_notMem.1 hlookup
    rw [Entries.insert_of_notMem hnew]
    exact .appended hnew
  | some v =>
    obtain ⟨before, after, rfl, hnew⟩ := Entries.exists_split_of_lookup hlookup
    rw [Entries.insert_append hnew]
    refine .replaced hnew fun kept hv => ?_
    by_contra hkept
    exact h kept ⟨by rw [hlookup, hv], hkept⟩

lemma Signed.names {members signed : Entries Value} {id : String} (h : Signed id members signed)
    (hid : id ≠ "") : Names signed id := by
  refine ⟨?_, hid⟩
  cases h with
  | replaced h =>
    rw [List.lookup_append, Entries.lookup_eq_none_iff_notMem.2 h, Option.none_or,
      Entries.lookup_cons, if_pos rfl]
  | appended h =>
    rw [List.lookup_append, Entries.lookup_eq_none_iff_notMem.2 h, Option.none_or,
      Entries.lookup_cons, if_pos rfl]

lemma stampMembers_of_named {members : Entries Value} {id : String} (h : Names members id)
    (own : Session) : stampMembers own members = .ok members := by
  rw [stampMembers, if_pos (namesSession_iff.2 ⟨id, h⟩)]

lemma StampRule.of_stampMembers (own : Session) {payload : Value} {members : Entries Value}
    (hmembers : membersOf? payload = some members) (h : ∀ id, ¬ Names members id) :
    StampRule own payload ((stampMembers own members).map .object) := by
  have hnone : namesSession members = false :=
    Bool.eq_false_iff.2 fun hnames => (namesSession_iff.1 hnames).elim h
  rw [stampMembers, hnone, if_neg Bool.false_ne_true]
  cases hown : own.id with
  | none => exact .noSession hmembers h hown
  | some id => exact .signed hmembers hown (signed_insert h id)

lemma StampRule.of_stamp (own : Session) (payload : Value) :
    StampRule own payload (stamp own payload) := by
  cases payload with
  | object members =>
    by_cases h : ∃ id, Names members id
    · obtain ⟨id, hnames⟩ := h
      rw [stamp, stampMembers_of_named hnames]
      exact .named hnames
    · exact .of_stampMembers own rfl (not_exists.1 h)
  | null =>
    refine .of_stampMembers own rfl fun id h => ?_
    cases h.1
  | array items => exact .list items
  | bool | number | string => exact .scalar rfl

/-- What was stamped stays as it is, whatever the session. -/
lemma stamp_of_stamped {own : Session} (hown : own.id ≠ some "") {payload body : Value}
    (h : stamp own payload = .ok body) (own' : Session) : stamp own' body = .ok body := by
  have hrule := StampRule.of_stamp own payload
  rw [h] at hrule
  cases hrule with
  | list items => rfl
  | named hnames => rw [stamp, stampMembers_of_named hnames, Except.map]
  | @signed _ _ _ id _ hid hsigned =>
    have hne : id ≠ "" := by
      rintro rfl
      exact hown hid
    rw [stamp, stampMembers_of_named (hsigned.names hne), Except.map]

/-- Nothing but these keeps a payload from being stamped. -/
lemma eq_of_stamp_eq_error {own : Session} {payload : Value} {e : RequestError}
    (h : stamp own payload = .error e) : e = .noSession ∨ e = .invalidPayload := by
  have hrule := StampRule.of_stamp own payload
  rw [h] at hrule
  cases hrule with
  | noSession => exact .inl rfl
  | scalar => exact .inr rfl

lemma isScalar_of_membersOf? {payload : Value} {members : Entries Value}
    (h : membersOf? payload = some members) : isScalar payload = false := by
  cases payload with
  | object | null => rfl
  | bool | number | string | array => cases h

lemma stamp_eq_invalidPayload_iff {own : Session} {payload : Value} :
    stamp own payload = .error .invalidPayload ↔ isScalar payload = true := by
  have hrule := StampRule.of_stamp own payload
  generalize stamp own payload = result at hrule ⊢
  cases hrule with
  | list | named => simp [isScalar]
  | signed hmembers | noSession hmembers => simp [isScalar_of_membersOf? hmembers]
  | scalar h => simp [h]

lemma stamp_eq_noSession_iff {own : Session} {payload : Value} :
    stamp own payload = .error .noSession ↔ own.id = none ∧
      ∃ members, membersOf? payload = some members ∧ ∀ id, ¬ Names members id := by
  have hrule := StampRule.of_stamp own payload
  generalize stamp own payload = result at hrule ⊢
  cases hrule with
  | list => simp [membersOf?]
  | named h =>
    refine iff_of_false (by simp) ?_
    rintro ⟨-, members, hmembers, hnone⟩
    obtain rfl := Option.some.inj hmembers
    exact hnone _ h
  | signed _ hown => simp [hown]
  | noSession hmembers h hown => simp [hown, hmembers, h]
  | scalar h =>
    refine iff_of_false (by simp) ?_
    rintro ⟨-, members, hmembers, -⟩
    rw [isScalar_of_membersOf? hmembers] at h
    cases h

lemma id_of_offers_ne_empty (ids : List String) : (ids.foldl Session.offer {}).id ≠ some "" := by
  rw [Session.id_foldl_offer]
  exact fun h => ne_empty_of_firstNamed? h rfl

/-! ### Courses of a request -/

namespace Requester

variable {α : Type} {read : String → Option α} {r : Requester} {own : Session} {task : String}
  {payload : Value} {server : Server}

/-- What is told of a task that failed. -/
def told (r : Requester) (task : String) : List Event :=
  if r.reporting then [.requestFailed task ("Error: " ++ task)] else []

/-- How a request goes whose response is to be read, with all the places where it may fail. -/
inductive Course (read : String → Option α) (r : Requester) (own : Session) (task : String)
    (payload : Value) (server : Server) : Called α → Prop where
  | unstamped {e : RequestError} (h : stamp own payload = .error e) :
      Course read r own task payload server ⟨.error e, r.told task, server⟩
  | unaddressed {body : Value} (h : stamp own payload = .ok body)
      (hurl : r.taskUrl? task = none) :
      Course read r own task payload server ⟨.error .url, r.told task, server⟩
  | unanswered {body : Value} {u : Url} {server' : Server} (h : stamp own payload = .ok body)
      (hurl : r.taskUrl? task = some u) (hpost : server.post u body = (none, server')) :
      Course read r own task payload server ⟨.error .http, r.told task, server'⟩
  | rejected {body : Value} {u : Url} {a : Response} {server' : Server}
      (h : stamp own payload = .ok body) (hurl : r.taskUrl? task = some u)
      (hpost : server.post u body = (some a, server')) (hstatus : a.isSuccess = false) :
      Course read r own task payload server
        ⟨.error (.unexpectedStatus a.status a.body), r.told task, server'⟩
  | unreadable {body : Value} {u : Url} {a : Response} {server' : Server}
      (h : stamp own payload = .ok body) (hurl : r.taskUrl? task = some u)
      (hpost : server.post u body = (some a, server')) (hstatus : a.isSuccess = true)
      (hread : read a.body = none) :
      Course read r own task payload server ⟨.error (.decode task), [], server'⟩
  | answered {body : Value} {u : Url} {a : Response} {server' : Server} {x : α}
      (h : stamp own payload = .ok body) (hurl : r.taskUrl? task = some u)
      (hpost : server.post u body = (some a, server')) (hstatus : a.isSuccess = true)
      (hread : read a.body = some x) :
      Course read r own task payload server ⟨.ok x, [], server'⟩

/-- What is read from the response, or that it cannot be read. -/
def readBody (read : String → Option α) (task body : String) : Except RequestError α :=
  match read body with
  | some x => .ok x
  | none => .error (.decode task)

lemma course_send (read : String → Option α) (r : Requester) (own : Session) (task : String)
    (payload : Value) (server : Server) :
    let sent := r.send own task payload server
    Course read r own task payload server
      ⟨sent.1.bind (readBody read task), r.eventsOf task sent.1, sent.2⟩ := by
  -- One case for each place where a request ends, in the order in which it comes to them.
  unfold send prepare
  cases hstamp : stamp own payload with
  | error e => exact .unstamped hstamp
  | ok body =>
    cases hurl : r.taskUrl? task with
    | none =>
      simp only [bind, Except.bind]
      exact .unaddressed hstamp hurl
    | some u =>
      simp only [bind, Except.bind]
      obtain ⟨answer, server', hpost⟩ : ∃ answer server', server.post u body = (answer, server') :=
        ⟨_, _, rfl⟩
      simp only [hpost]
      cases answer with
      | none => exact .unanswered hstamp hurl hpost
      | some a =>
        cases hstatus : a.isSuccess with
        | false =>
          simp only [resultOf, hstatus]
          exact .rejected hstamp hurl hpost hstatus
        | true =>
          simp only [resultOf, hstatus, if_true, readBody]
          cases hread : read a.body with
          | none => exact .unreadable hstamp hurl hpost hstatus hread
          | some x => exact .answered hstamp hurl hpost hstatus hread

lemma course_callAs (d : Decoder α) (r : Requester) (own : Session) (task : String)
    (payload : Value) (server : Server) :
    Course d.onText r own task payload server (r.callAs d own task payload server) :=
  course_send d.onText r own task payload server

lemma course_call (r : Requester) (own : Session) (task : String) (payload : Value)
    (server : Server) :
    Course some r own task payload server (r.call own task payload server) := by
  have h := course_send some r own task payload server
  unfold call
  cases hsend : r.send own task payload server with
  | mk result server' =>
    rw [hsend] at h
    cases result <;> exact h

/-! ### What is sent -/

/-- A request fails for want of a body just if its payload cannot be stamped. -/
lemma Course.error_iff {called : Called α} (h : Course read r own task payload server called)
    {e : RequestError} (he : e = .invalidPayload ∨ e = .noSession) :
    called.result = .error e ↔ stamp own payload = .error e := by
  have hne : e ≠ .url ∧ e ≠ .http ∧ (∀ status body, e ≠ .unexpectedStatus status body) ∧
      e ≠ .decode task := by
    rcases he with rfl | rfl <;> simp
  cases h with
  | unstamped h => simp [h]
  | unaddressed h => simp [h, hne.1.symm]
  | unanswered h => simp [h, hne.2.1.symm]
  | rejected h => simp [h, (hne.2.2.1 _ _).symm]
  | unreadable h => simp [h, hne.2.2.2.symm]
  | answered h => simp [h]

/-- How a request sends its payload: what is made of it is handed to the server, if the task has an
address, and nothing is if the payload is not one to be sent or there is no session to name. -/
structure Sends (r : Requester) (own : Session) (task : String) (payload : Value) (server : Server)
    (called : Called α) : Prop where
  invalidPayload : called.result = .error .invalidPayload ↔ isScalar payload = true
  noSession : called.result = .error .noSession ↔ own.id = none ∧
    ∃ members, membersOf? payload = some members ∧ ∀ id, ¬ Names members id
  unsent : called.result = .error .invalidPayload ∨ called.result = .error .noSession →
    called.server = server
  sent : ∀ body u, stamp own payload = .ok body → r.taskUrl? task = some u →
    called.server = (server.post u body).2 ∧ (server.serves u = true →
      called.server.seen = server.seen ++ [⟨u.target, body.text⟩])

lemma seen_post {u : Url} (h : server.serves u = true) (body : Value) :
    (server.post u body).2.seen = server.seen ++ [⟨u.target, body.text⟩] := by
  rw [Server.post, if_pos h]

lemma Course.server_of_error {called : Called α}
    (h : Course read r own task payload server called) {e : RequestError}
    (hstamp : stamp own payload = .error e) : called.server = server := by
  cases h with
  | unstamped | unaddressed => rfl
  | unanswered h | rejected h | unreadable h | answered h =>
    rw [h] at hstamp
    cases hstamp

lemma Course.server_of_ok {called : Called α} (h : Course read r own task payload server called)
    {body : Value} {u : Url} (hstamp : stamp own payload = .ok body)
    (hurl : r.taskUrl? task = some u) : called.server = (server.post u body).2 := by
  cases h with
  | unstamped h =>
    rw [h] at hstamp
    cases hstamp
  | unaddressed _ hnone =>
    rw [hnone] at hurl
    cases hurl
  | unanswered h hurl' hpost | rejected h hurl' hpost | unreadable h hurl' hpost
  | answered h hurl' hpost =>
    obtain rfl := Except.ok.inj (h.symm.trans hstamp)
    obtain rfl := Option.some.inj (hurl'.symm.trans hurl)
    exact (congrArg Prod.snd hpost).symm

lemma Course.sends {called : Called α} (h : Course read r own task payload server called) :
    Sends r own task payload server called where
  invalidPayload := (h.error_iff (.inl rfl)).trans stamp_eq_invalidPayload_iff
  noSession := (h.error_iff (.inr rfl)).trans stamp_eq_noSession_iff
  unsent := by
    rintro (hinvalid | hnone)
    · exact h.server_of_error ((h.error_iff (.inl rfl)).1 hinvalid)
    · exact h.server_of_error ((h.error_iff (.inr rfl)).1 hnone)
  sent := by
    intro body u hstamp hurl
    have hserver := h.server_of_ok hstamp hurl
    exact ⟨hserver, fun hserves => hserver ▸ seen_post hserves body⟩

/-- Whatever identities a session was offered, a payload is stamped by the rule, what was stamped
stays as it is from then on, and a request, whether its response is read or not, sends that and
nothing else. -/
theorem stamped_and_sent (ids : List String) (r : Requester) (task : String) (payload : Value)
    (server : Server) (d : Decoder α) :
    let own := ids.foldl Session.offer {}
    StampRule own payload (stamp own payload) ∧
    (∀ body, stamp own payload = .ok body → ∀ own', stamp own' body = .ok body) ∧
    Sends r own task payload server (r.call own task payload server) ∧
    Sends r own task payload server (r.callAs d own task payload server) := by
  intro own
  have hown : own.id ≠ some "" := id_of_offers_ne_empty ids
  exact ⟨.of_stamp own payload, fun body hbody => stamp_of_stamped hown hbody,
    (course_call r own task payload server).sends,
    (course_callAs d r own task payload server).sends⟩

/-- Requests to a room on the own machine. -/
def lobby : Requester := ⟨{ scheme := "http", host := some (.ipv4 0x7F000001), port := some 8080 },
  "lobby", true⟩

/-- An empty identity in a payload gives way to the own one where it stands, and that is sent. -/
theorem stamped_and_sent_in_place :
    let own := ["", "s-1", "s-2"].foldl Session.offer {}
    let server : Server := { address := lobby.base }
    let payload (id : String) : Value :=
      .object [("before", .null), (sessionField, .string id), ("after", .null)]
    stamp own (payload "") = .ok (payload "s-1") ∧
      (∀ own', stamp own' (payload "s-1") = .ok (payload "s-1")) ∧
      (lobby.call own "undo" (payload "") server).server.seen
        = [⟨"/lobby/undo", (payload "s-1").text⟩] := by
  intro own server payload
  obtain ⟨-, hstamped, hsends, -⟩ :=
    stamped_and_sent ["", "s-1", "s-2"] lobby "undo" (payload "") server Decoder.value
  have hstamp : stamp own (payload "") = .ok (payload "s-1") := by decide +kernel
  let u : Url := { lobby.base with path := .segments ["lobby", "undo"] }
  have hurl : lobby.taskUrl? "undo" = some u := by decide +kernel
  have hserves : server.serves u = true := by decide +kernel
  have htarget : u.target = "/lobby/undo" := by decide +kernel
  have hseen := (hsends.sent _ u hstamp hurl).2 hserves
  rw [htarget] at hseen
  exact ⟨hstamp, hstamped _ hstamp, hseen⟩

/-! ### What is told -/

/-- A request that succeeds is not told. -/
lemma Course.events_of_ok {called : Called α} (h : Course read r own task payload server called)
    {x : α} (hx : called.result = .ok x) : called.events = [] := by
  cases h with
  | answered => rfl
  | unstamped | unaddressed | unanswered | rejected | unreadable => cases hx

/-- A request that fails is told, unless it is its response that cannot be read. -/
lemma Course.events_of_error {called : Called α}
    (h : Course read r own task payload server called) {e : RequestError}
    (he : called.result = .error e) (hread : e ≠ .decode task) : called.events = r.told task := by
  cases h with
  | unstamped | unaddressed | unanswered | rejected => rfl
  | unreadable =>
    cases he
    exact absurd rfl hread
  | answered => cases he

lemma Course.events_of_unreadable {called : Called α}
    (h : Course read r own task payload server called)
    (he : called.result = .error (.decode task)) : called.events = [] := by
  cases h with
  | unstamped h =>
    cases he
    exact absurd (eq_of_stamp_eq_error h) (by simp)
  | unreadable => rfl
  | unaddressed | unanswered | rejected | answered => cases he

/-- A response that is taken as it is can always be read. -/
lemma Course.ne_decode {called : Called String}
    (h : Course some r own task payload server called) (task' : String) :
    called.result ≠ .error (.decode task') := by
  intro he
  cases h with
  | unstamped h =>
    cases he
    exact absurd (eq_of_stamp_eq_error h) (by simp)
  | unreadable _ _ _ _ hread => cases hread
  | unaddressed | unanswered | rejected | answered => cases he

/-- What fails of a request whose response is read beyond the request itself is reading it. -/
lemma callAs_eq_decode_iff (d : Decoder α) (r : Requester) (own : Session) (task : String)
    (payload : Value) (server : Server) :
    (r.callAs d own task payload server).result = .error (.decode task) ↔
      ∃ body, (r.call own task payload server).result = .ok body ∧ d.onText body = none := by
  have hne := (course_call r own task payload server).ne_decode task
  -- The response is read after the request has been told of.
  show (r.call own task payload server).result.bind (readBody d.onText task) = _ ↔ _
  cases hresult : (r.call own task payload server).result with
  | error e =>
    rw [hresult] at hne
    show Except.error e = _ ↔ _
    exact iff_of_false (fun h => hne (congrArg Except.error (Except.error.inj h))) (by simp)
  | ok body =>
    show readBody d.onText task body = _ ↔ _
    unfold readBody
    cases hread : d.onText body <;> simp [hread]

/-- A request is told just if it fails, once and as the failure of its task; and so is one whose
response is to be read, unless that is where it fails: a response that says that the request
succeeded and then cannot be read is told to nobody. -/
theorem told_unless_unreadable (r : Requester) (own : Session) (task : String) (payload : Value)
    (server : Server) (d : Decoder α) (hreporting : r.reporting = true) :
    let called := r.call own task payload server
    let typed := r.callAs d own task payload server
    let failure := [Event.requestFailed task ("Error: " ++ task)]
    (Course some r own task payload server called ∧
      Course d.onText r own task payload server typed) ∧
    (∀ body, called.result = .ok body → called.events = []) ∧
    (∀ e, called.result = .error e → called.events = failure) ∧
    (∀ x, typed.result = .ok x → typed.events = []) ∧
    (∀ e, typed.result = .error e → e ≠ .decode task → typed.events = failure) ∧
    (typed.result = .error (.decode task) → typed.events = []) ∧
    (typed.result = .error (.decode task) ↔
      ∃ body, called.result = .ok body ∧ d.onText body = none) := by
  intro called typed failure
  have hcalled := course_call r own task payload server
  have htyped := course_callAs d r own task payload server
  have htold : r.told task = failure := if_pos hreporting
  refine ⟨⟨hcalled, htyped⟩, fun body => hcalled.events_of_ok, fun e he => ?_,
    fun x => htyped.events_of_ok, fun e he hread => ?_, htyped.events_of_unreadable,
    callAs_eq_decode_iff d r own task payload server⟩
  · rw [← htold]
    refine hcalled.events_of_error he ?_
    rintro rfl
    exact hcalled.ne_decode task he
  · rw [← htold]
    exact htyped.events_of_error he hread

/-- A server that is down is told of, also by a request whose response was to be read. -/
theorem told_unless_unreadable_down :
    let own : Session := ⟨some "s-1"⟩
    let server : Server := { address := lobby.base, isUp := false }
    lobby.reporting = true ∧ (lobby.callAs Decoder.value own "undo" .null server).events
      = [.requestFailed "undo" "Error: undo"] := by
  intro own server
  obtain ⟨-, -, -, -, htold, -, -⟩ :=
    told_unless_unreadable lobby own "undo" .null server Decoder.value rfl
  have hresult : (lobby.callAs Decoder.value own "undo" .null server).result = .error .http := by
    decide +kernel
  exact ⟨rfl, htold _ hresult (by decide)⟩

/-- A response that is no document is told to nobody. -/
theorem not_told_always :
    ¬ ∀ (r : Requester) (own : Session) (task : String) (payload : Value) (server : Server)
      (e : RequestError), r.reporting = true →
        (r.callAs Decoder.value own task payload server).result = .error e →
          (r.callAs Decoder.value own task payload server).events
            = [.requestFailed task ("Error: " ++ task)] := by
  intro h
  let own : Session := ⟨some "s-1"⟩
  let server : Server :=
    { address := lobby.base
      answers := (∅ : Table (List (Option Response))).insert "undo" [some ⟨200, "oops"⟩] }
  have hresult : (lobby.callAs Decoder.value own "undo" .null server).result
      = .error (.decode "undo") := by decide +kernel
  have hevents : (lobby.callAs Decoder.value own "undo" .null server).events = [] := by
    decide +kernel
  have hnil := hevents.symm.trans (h lobby own "undo" .null server _ rfl hresult)
  cases hnil

end Requester

end MeshRoom
