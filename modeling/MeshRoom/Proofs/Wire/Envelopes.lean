import MeshRoom.Proofs.Json.Written
import MeshRoom.Proofs.Wire.Frames

/-!
# What counts as an envelope

A frame is an envelope if it holds an object with a task: the member `task`, or the member `API` of
an object that has no `task`. An object without parameters of its own carries what is left of it
when its task is taken out.

Read as a plain record, a frame has to name its task `task`, may write neither field twice, and has
no parameters if it gives none. Where both readers apply they agree.
-/

namespace MeshRoom.Wire

open Json

namespace Envelope

variable {text task : String} {members : Entries Value} {k : String} {v : Value}

/-! ### The task of a frame -/

/-- The member that gives an object its task, with its value: `task`, or else `API`. -/
inductive TaskMember (members : Entries Value) : String → Value → Prop where
  | first {v : Value} (h : members.lookup "task" = some v) : TaskMember members "task" v
  | second {v : Value} (hnone : members.lookup "task" = none)
      (h : members.lookup "API" = some v) : TaskMember members "API" v

lemma takeFirst?_eq_none_iff :
    takeFirst? taskNames members = none ↔
      members.lookup "task" = none ∧ members.lookup "API" = none := by
  simp [takeFirst?, taskNames, Entries.take?_eq_none_iff]

namespace TaskMember

lemma ne_parameters (h : TaskMember members k v) : "parameters" ≠ k := by
  cases h <;> decide

lemma functional {j : String} {w : Value} (h : TaskMember members k v)
    (h' : TaskMember members j w) : k = j ∧ v = w := by
  cases h with
  | first h => cases h' with
    | first h' => exact ⟨rfl, Option.some.inj (h.symm.trans h')⟩
    | second hnone => rw [h] at hnone; cases hnone
  | second hnone h => cases h' with
    | first h' => rw [hnone] at h'; cases h'
    | second _ h' => exact ⟨rfl, Option.some.inj (h.symm.trans h')⟩

/-- The task is taken out, and leaves its place to the last member. -/
lemma exists_takeFirst? (h : TaskMember members k v) :
    ∃ rest, Entries.Vacated k members rest ∧ members.take? k = some (v, rest) ∧
      takeFirst? taskNames members = some (v, rest) := by
  cases h with
  | first h =>
    obtain ⟨rest, hvacated, htake⟩ := Entries.exists_vacated h
    exact ⟨rest, hvacated, htake, takeFirst?_of_take? htake⟩
  | second hnone h =>
    obtain ⟨rest, hvacated, htake⟩ := Entries.exists_vacated h
    refine ⟨rest, hvacated, htake, ?_⟩
    rw [takeFirst?, taskNames, List.findSome?_cons, Entries.take?_eq_none_iff.2 hnone,
      List.findSome?_cons, htake]

end TaskMember

/-- An object has a task or it has none. -/
lemma untasked_or_exists_taskMember (members : Entries Value) :
    (members.lookup "task" = none ∧ members.lookup "API" = none) ∨
      ∃ k v, TaskMember members k v := by
  cases htask : members.lookup "task" with
  | some v => exact .inr ⟨_, v, .first htask⟩
  | none =>
    cases hapi : members.lookup "API" with
    | some v => exact .inr ⟨_, v, .second htask hapi⟩
    | none => exact .inl ⟨rfl, rfl⟩

/-! ### The grammar of frames -/

/-- What is left of an object whose task was taken out: the last member has moved into its place,
and under every other name there is what there was. -/
structure Untasked (members : Entries Value) (k : String) (rest : Entries Value) : Prop where
  vacated : Entries.Vacated k members rest
  lookup : ∀ j, rest.lookup j = if j = k then none else members.lookup j

/-- What a frame is read as, by what its text holds. -/
inductive ParseRule (text : String) : Except EnvelopeError Envelope → Prop where
  | unreadable (h : Value.read? text = none) : ParseRule text (.error .invalidJson)
  | noObject {v : Value} (h : Value.read? text = some v)
      (hv : ∀ members : Entries Value, v ≠ .object members) : ParseRule text (.error .notAnObject)
  | untasked {members : Entries Value} (h : Value.read? text = some (.object members))
      (hnone : members.lookup "task" = none ∧ members.lookup "API" = none) :
      ParseRule text (.error .missingTask)
  | mistasked {members : Entries Value} {k : String} {v : Value}
      (h : Value.read? text = some (.object members)) (hk : TaskMember members k v)
      (hv : ∀ task, v ≠ .string task) : ParseRule text (.error .taskNotString)
  | framed {members rest : Entries Value} {k task : String}
      (h : Value.read? text = some (.object members)) (hk : TaskMember members k (.string task))
      (hrest : Untasked members k rest) :
      ParseRule text (.ok ⟨task, (members.lookup "parameters").getD (.object rest)⟩)

lemma nodup_keys_of_read? (h : Value.read? text = some (.object members)) :
    members.keys.Nodup := by
  obtain ⟨written, -, rfl⟩ := Value.read?_eq_object_iff.1 h
  exact Entries.nodup_keys_ofPairs written

lemma parse_of_object (h : Value.read? text = some (.object members)) :
    parse text = ofMembers members := by
  rw [parse, h]

lemma parse_of_untasked (h : Value.read? text = some (.object members))
    (hnone : members.lookup "task" = none ∧ members.lookup "API" = none) :
    parse text = .error .missingTask := by
  rw [parse_of_object h, ofMembers, takeFirst?_eq_none_iff.2 hnone]

lemma parse_of_mistasked (h : Value.read? text = some (.object members))
    (hk : TaskMember members k v) (hv : ∀ task, v ≠ .string task) :
    parse text = .error .taskNotString := by
  obtain ⟨rest, -, -, hfirst⟩ := hk.exists_takeFirst?
  rw [parse_of_object h, ofMembers, hfirst]
  cases v with
  | string task => exact absurd rfl (hv task)
  | null | bool | number | array | object => rfl

/-- An object whose task is a string is an envelope. -/
lemma exists_parse_eq_ok (h : Value.read? text = some (.object members))
    (hk : TaskMember members k (.string task)) :
    ∃ rest, Untasked members k rest ∧
      parse text = .ok ⟨task, (members.lookup "parameters").getD (.object rest)⟩ := by
  obtain ⟨rest, hvacated, htake, hfirst⟩ := hk.exists_takeFirst?
  have hrest : Untasked members k rest :=
    ⟨hvacated, Entries.lookup_of_take? (nodup_keys_of_read? h) htake⟩
  refine ⟨rest, hrest, ?_⟩
  rw [parse_of_object h, ofMembers_of_takeFirst? hfirst, hrest.lookup, if_neg hk.ne_parameters]

lemma ParseRule.of_parse (text : String) : ParseRule text (parse text) := by
  cases hread : Value.read? text with
  | none =>
    rw [parse, hread]
    exact .unreadable hread
  | some v => cases v with
    | null | bool | number | string | array =>
      rw [parse, hread]
      exact .noObject hread (by simp)
    | object members =>
      rcases untasked_or_exists_taskMember members with hnone | ⟨k, v, hk⟩
      · rw [parse_of_untasked hread hnone]
        exact .untasked hread hnone
      by_cases hv : ∃ task, v = .string task
      · obtain ⟨task, rfl⟩ := hv
        obtain ⟨rest, hrest, hparse⟩ := exists_parse_eq_ok hread hk
        rw [hparse]
        exact .framed hread hk hrest
      · have hother : ∀ task, v ≠ .string task := not_exists.1 hv
        rw [parse_of_mistasked hread hk hother]
        exact .mistasked hread hk hother

lemma parse_eq_invalidJson_iff : parse text = .error .invalidJson ↔ Value.read? text = none := by
  refine ⟨fun hparse => ?_, fun h => by rw [parse, h]⟩
  have rule := ParseRule.of_parse text
  rw [hparse] at rule
  cases rule with
  | unreadable h => exact h

lemma parse_eq_notAnObject_iff : parse text = .error .notAnObject ↔
    ∃ v, Value.read? text = some v ∧ ∀ members : Entries Value, v ≠ .object members := by
  constructor
  · intro hparse
    have rule := ParseRule.of_parse text
    rw [hparse] at rule
    cases rule with
    | noObject h hv => exact ⟨_, h, hv⟩
  · rintro ⟨v, h, hv⟩
    rw [parse, h]
    cases v with
    | object members => exact absurd rfl (hv members)
    | null | bool | number | string | array => rfl

lemma parse_eq_missingTask_iff (h : Value.read? text = some (.object members)) :
    parse text = .error .missingTask ↔
      members.lookup "task" = none ∧ members.lookup "API" = none := by
  refine ⟨fun hparse => ?_, parse_of_untasked h⟩
  have rule := ParseRule.of_parse text
  rw [hparse] at rule
  cases rule with
  | untasked h' hnone =>
    rw [h] at h'
    cases h'
    exact hnone

lemma parse_eq_taskNotString_iff (h : Value.read? text = some (.object members))
    (hk : TaskMember members k v) :
    parse text = .error .taskNotString ↔ ∀ task, v ≠ .string task := by
  refine ⟨fun hparse => ?_, parse_of_mistasked h hk⟩
  have rule := ParseRule.of_parse text
  rw [hparse] at rule
  cases rule with
  | mistasked h' hk' hv =>
    rw [h] at h'
    cases h'
    rwa [(hk.functional hk').2]

/-- What every text is read as. A text that holds no value, or one that is no object, is refused for
that; an object without a task for want of it, and one whose task is no string for that. Any other
object is an envelope, of the parameters that it has or else of all its members but the one that
gives the task. -/
theorem parse_outcome_iff (text : String) :
    (parse text = .error .invalidJson ↔ Value.read? text = none) ∧
    (parse text = .error .notAnObject ↔
      ∃ v, Value.read? text = some v ∧ ∀ members : Entries Value, v ≠ .object members) ∧
    ∀ members : Entries Value, Value.read? text = some (.object members) →
      (∃ written, Value.written? text = some written ∧
        ∀ k, members.lookup k = written.reverse.lookup k) ∧
      (parse text = .error .missingTask ↔
        members.lookup "task" = none ∧ members.lookup "API" = none) ∧
      ∀ k v, TaskMember members k v →
        (parse text = .error .taskNotString ↔ ∀ task, v ≠ .string task) ∧
        ∀ task, v = .string task → ∃ rest, Untasked members k rest ∧
          parse text = .ok ⟨task, (members.lookup "parameters").getD (.object rest)⟩ := by
  refine ⟨parse_eq_invalidJson_iff, parse_eq_notAnObject_iff, fun members h => ⟨?_,
    parse_eq_missingTask_iff h, fun k v hk => ⟨parse_eq_taskNotString_iff h hk, ?_⟩⟩⟩
  · obtain ⟨written, hwritten, rfl⟩ := Value.read?_eq_object_iff.1 h
    exact ⟨written, hwritten, Entries.lookup_ofPairs written⟩
  · rintro task rfl
    exact exists_parse_eq_ok h hk

/-- An object that has both names keeps the one that does not give the task. Of a name written twice
the last value counts, and the last member moves into the place of the task. -/
theorem parse_outcome_iff_both_names :
    let text := "\x7b\"API\":\"undo\",\"x\":1,\"task\":\"redo\",\"y\":null,\"x\":true\x7d"
    let members : Entries Value :=
      [("API", .string "undo"), ("x", .bool true), ("task", .string "redo"), ("y", .null)]
    Value.read? text = some (.object members) ∧ TaskMember members "task" (.string "redo") ∧
      ∃ rest, Untasked members "task" rest ∧ parse text = .ok ⟨"redo", .object rest⟩ := by
  intro text members
  have hread : Value.read? text = some (.object members) := by decide +kernel
  have hk : TaskMember members "task" (.string "redo") := .first rfl
  exact ⟨hread, hk, (((parse_outcome_iff text).2.2 members hread).2.2 "task" _ hk).2 "redo" rfl⟩

/-! ### Frames read as plain records -/

variable {written : List (String × Value)}

/-- A frame that holds an object is opened as a record of its members as they are written. -/
lemma exists_record (hwritten : Value.written? text = some written) :
    ∃ named, List.Forall₂ (Tree.Means (nestingLimit - 1)) named written ∧
      decoder.onText text
        = (Record.required ⟨nestingLimit - 1, .inr named⟩ 0 ["task"] .string).bind fun task =>
            (Record.optional ⟨nestingLimit - 1, .inr named⟩ 1 ["parameters"] .value
              (.object [])).map (mk task) := by
  rw [Value.written?, Option.bind_eq_some_iff] at hwritten
  obtain ⟨t, ht, hwritten⟩ := hwritten
  cases t with
  | null | bool | number | string | array => cases hwritten
  | object ms =>
    obtain ⟨named, hnamed, hmeans⟩ := Tree.exists_named hwritten
    have hopen : Record.open? 2 nestingLimit (.object ms)
        = some ⟨nestingLimit - 1, .inr named⟩ := by
      rw [show nestingLimit = nestingLimit - 1 + 1 from rfl, Record.open?, hnamed]
      rfl
    refine ⟨named, hmeans, ?_⟩
    rw [Decoder.onText, ht, Option.bind_eq_bind, Option.bind_some, decoder, hopen]
    simp only [Option.bind_eq_bind, Option.bind_some, Option.map_eq_bind, Function.comp_def]

/-- A frame that writes its task once and its parameters at most once is read by its task, with no
parameters if it writes none. -/
lemma decoder_onText (hwritten : Value.written? text = some written)
    (hv : written.filter (fun (j, _) => ["task"].contains j) = [("task", v)])
    (hp : "parameters" ∉ Entries.keys written ∨ (Entries.keys written).count "parameters" = 1) :
    decoder.onText text = v.asString?.map fun task =>
      ⟨task, ((Entries.ofPairs written).lookup "parameters").getD (.object [])⟩ := by
  obtain ⟨named, hmeans, hdecoder⟩ := exists_record hwritten
  obtain ⟨t, htask, ht⟩ := Record.exists_field? hmeans hv 0
  have hparameters : Record.optional ⟨nestingLimit - 1, .inr named⟩ 1 ["parameters"] .value
      (.object []) = some (((Entries.ofPairs written).lookup "parameters").getD (.object [])) := by
    rcases hp with hnone | hone
    · rw [Record.optional, Record.field?_of_notMem hmeans hnone,
        Entries.lookup_ofPairs_of_notMem hnone]
      rfl
    · obtain ⟨p, hp⟩ := Entries.exists_filter_of_count hone
      obtain ⟨u, hfield, hu⟩ := Record.exists_field? hmeans hp 1
      rw [Record.optional, hfield, Entries.lookup_ofPairs_of_filter hp]
      exact hu
  have hstring : Record.required ⟨nestingLimit - 1, .inr named⟩ 0 ["task"] .string
      = v.asString? := by
    rw [Record.required, htask]
    exact Decoder.string_eq_asString? ht
  rw [hdecoder, hstring, hparameters]
  cases v.asString? <;> rfl

/-- The two readers agree on what a frame is that writes its task once, and its parameters once:
both refuse it, for a task that is no string, or both read the same envelope. If it writes no
parameters they agree on its task, and the one takes all other members for its parameters and the
other none. -/
theorem decoders_agree (hwritten : Value.written? text = some written)
    (htask : (Entries.keys written).count "task" = 1) :
    ((∃ e, parse text = .ok e) ↔ ∃ task, ("task", .string task) ∈ written) ∧
    ((Entries.keys written).count "parameters" = 1 →
      ∀ e, parse text = .ok e ↔ decoder.onText text = some e) ∧
    ("parameters" ∉ Entries.keys written →
      ((∃ e, parse text = .ok e) ↔ ∃ e, decoder.onText text = some e) ∧
      ∀ e, parse text = .ok e → decoder.onText text = some ⟨e.task, .object []⟩ ∧
        ∃ rest, Untasked (Entries.ofPairs written) "task" rest ∧ e.parameters = .object rest) := by
  obtain ⟨v, hv⟩ := Entries.exists_filter_of_count htask
  have hread : Value.read? text = some (.object (Entries.ofPairs written)) :=
    Value.read?_eq_object_iff.2 ⟨written, hwritten, rfl⟩
  have hk : TaskMember (Entries.ofPairs written) "task" v :=
    .first (Entries.lookup_ofPairs_of_filter hv)
  have hmem (task : String) : ("task", .string task) ∈ written ↔ .string task = v :=
    Entries.mem_iff_of_filter hv
  simp only [hmem]
  -- both readers turn on whether the task that is written is a string
  by_cases hstring : ∃ task, .string task = v
  · obtain ⟨task, rfl⟩ := hstring
    obtain ⟨rest, hrest, hparse⟩ := exists_parse_eq_ok hread hk
    refine ⟨by simp [hparse], fun hone e => ?_, fun hnone => ?_⟩
    · have hdecoder := decoder_onText hwritten hv (.inr hone)
      obtain ⟨p, hp⟩ := Entries.exists_filter_of_count hone
      rw [Entries.lookup_ofPairs_of_filter hp] at hparse hdecoder
      rw [hparse, hdecoder]
      simp [Value.asString?]
    · have hdecoder := decoder_onText hwritten hv (.inl hnone)
      rw [Entries.lookup_ofPairs_of_notMem hnone] at hparse hdecoder
      rw [hparse, hdecoder]
      refine ⟨by simp [Value.asString?], fun e he => ?_⟩
      cases he
      exact ⟨rfl, rest, hrest, rfl⟩
  · have hother : ∀ task, v ≠ .string task := fun task hv => hstring ⟨task, hv.symm⟩
    have hparse := parse_of_mistasked hread hk hother
    have hdecoder (hp : "parameters" ∉ Entries.keys written ∨
        (Entries.keys written).count "parameters" = 1) : decoder.onText text = none := by
      rw [decoder_onText hwritten hv hp, Value.asString?_eq_none hother]
      rfl
    refine ⟨by simp [hparse, hstring], fun hone => ?_, fun hnone => ?_⟩
    · simp [hparse, hdecoder (.inr hone)]
    · simp [hparse, hdecoder (.inl hnone)]

/-- Both readers take parameters that are `null` for what they are. A frame without parameters,
which has a task under the other name too and writes a name twice, has none for the one and these
members for the other. -/
theorem decoders_agree_null_and_none :
    let null := "\x7b\"parameters\":null,\"API\":[],\"task\":\"undo\"\x7d"
    let nullWritten : List (String × Value) :=
      [("parameters", .null), ("API", .array []), ("task", .string "undo")]
    let none := "\x7b\"x\":1,\"task\":\"undo\",\"API\":[],\"x\":true\x7d"
    let noneWritten : List (String × Value) :=
      [("x", .number (.integer 1 (by decide))), ("task", .string "undo"), ("API", .array []),
        ("x", .bool true)]
    (Value.written? null = some nullWritten ∧ (Entries.keys nullWritten).count "task" = 1 ∧
      (Entries.keys nullWritten).count "parameters" = 1 ∧
      decoder.onText null = some ⟨"undo", .null⟩ ∧ parse null = .ok ⟨"undo", .null⟩) ∧
    Value.written? none = some noneWritten ∧ (Entries.keys noneWritten).count "task" = 1 ∧
      "parameters" ∉ Entries.keys noneWritten ∧
      decoder.onText none = some ⟨"undo", .object []⟩ ∧
      parse none = .ok ⟨"undo", .object [("x", .bool true), ("API", .array [])]⟩ := by
  intro null nullWritten none noneWritten
  constructor
  · have hwritten : Value.written? null = some nullWritten := by decide +kernel
    have hone : (Entries.keys nullWritten).count "parameters" = 1 := by decide
    have hparse : parse null = .ok ⟨"undo", .null⟩ := by decide +kernel
    have hagree := (decoders_agree hwritten (by decide)).2.1 hone
    exact ⟨hwritten, by decide, hone, (hagree _).1 hparse, hparse⟩
  · have hwritten : Value.written? none = some noneWritten := by decide +kernel
    have hnone : "parameters" ∉ Entries.keys noneWritten := by decide
    have hparse : parse none = .ok ⟨"undo", .object [("x", .bool true), ("API", .array [])]⟩ := by
      decide +kernel
    have hagree := (decoders_agree hwritten (by decide)).2.2 hnone
    exact ⟨hwritten, by decide, hnone, (hagree.2 _ hparse).1, hparse⟩

end Envelope

end MeshRoom.Wire
