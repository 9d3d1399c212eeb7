import MeshRoom.Proofs.Json.Entries
import MeshRoom.Proofs.Scene.Rules
import MeshRoom.Proofs.View.Screening
import Mathlib.Data.List.Perm.Basic
import Mathlib.Data.List.Nodup

/-!
# What a scene holds

Up to the objects of its meshes, a scene is a table of contents that the entries of deltas write to.
An entry that can be read decides about the mesh it names, and about no other: a removal and a mesh
that the view does not accept take the content away, any other mesh sets it. The last decision about
a mesh counts.
-/

namespace MeshRoom

open Json Wire

/-- A delta that was read has each name once. -/
theorem nodup_keys_of_decoder {room : Nat} {t : Tree} {d : MeshDelta}
    (h : MeshDelta.decoder room t = some d) : d.meshes.keys.Nodup := by
  simp only [MeshDelta.decoder, Option.bind_eq_bind, Option.bind_eq_some_iff,
    Option.some.injEq] at h
  obtain ⟨r, -, meshes, hmeshes, rfl⟩ := h
  simp only [Record.optional, Option.bind_eq_bind, Option.bind_eq_some_iff] at hmeshes
  obtain ⟨_ | t, -, hfield⟩ := hmeshes
  · cases hfield
    exact List.nodup_nil
  · dsimp only at hfield
    unfold Decoder.entries at hfield
    split at hfield
    · simp only [Option.bind_eq_bind, Option.bind_eq_some_iff, Option.some.injEq] at hfield
      obtain ⟨pairs, -, rfl⟩ := hfield
      exact Entries.nodup_keys_ofPairs pairs
    · cases hfield

namespace Contents

/-! ### Decisions -/

/-- What an entry decides about its mesh when it can be read: the content the mesh gets, or none if
it is gone. -/
def decision? (accepts : Geometry → Bool) (uuid : String) (v : Value) :
    Option (Option MeshContent) :=
  match Scene.Instruction.ofValue v with
  | .error _ => none
  | .ok .remove => some none
  | .ok (.replace p g) => some (if accepts g then some (.ofPayload uuid p g) else none)

/-- Give a mesh a content, or take it away. -/
def put (uuid : String) : Option MeshContent → Table MeshContent → Table MeshContent
  | none, t => t.erase uuid
  | some c, t => t.insert uuid c

/-- Follow an entry. -/
def follow (accepts : Geometry → Bool) (t : Table MeshContent) (e : String × Value) :
    Table MeshContent :=
  match decision? accepts e.1 e.2 with
  | none => t
  | some c => put e.1 c t

/-- Follow entries one after the other. -/
def followAll (accepts : Geometry → Bool) (es : List (String × Value)) (t : Table MeshContent) :
    Table MeshContent :=
  es.foldl (follow accepts) t

/-- The decisions of entries about a mesh, in order. -/
def decisions (accepts : Geometry → Bool) (uuid : String) (es : List (String × Value)) :
    List (Option MeshContent) :=
  es.filterMap fun e => if e.1 = uuid then decision? accepts uuid e.2 else none

variable {accepts : Geometry → Bool} {t : Table MeshContent}

lemma getElem?_put (uuid k : String) (c : Option MeshContent) (t : Table MeshContent) :
    (put uuid c t)[k]? = if k = uuid then c else t[k]? := by
  cases c with
  | none => exact getElem?_erase_ite t uuid k
  | some c => exact getElem?_insert_ite t uuid k c

lemma getElem?_follow (e : String × Value) (k : String) :
    (follow accepts t e)[k]?
      = if k = e.1 then (decision? accepts e.1 e.2).getD t[k]? else t[k]? := by
  unfold follow
  split
  case h_1 hnone => simp [hnone]
  case h_2 c hc => rw [getElem?_put, hc, Option.getD_some]

/-- The last decision about a mesh counts. -/
lemma getElem?_followAll (es : List (String × Value)) (k : String) :
    (followAll accepts es t)[k]? = ((decisions accepts k es).getLast?).getD t[k]? := by
  induction es generalizing t with
  | nil => rfl
  | cons e es ih =>
    rw [followAll, List.foldl_cons, ← followAll, ih, getElem?_follow]
    by_cases hk : e.1 = k
    · subst hk
      cases hc : decision? accepts e.1 e.2 with
      | none => simp [decisions, hc]
      | some c => simp [decisions, hc, List.getLast?_cons]
    · simp [decisions, hk, Ne.symm hk]

lemma decisions_eq_nil {k : String} {es : List (String × Value)} (h : k ∉ Entries.keys es) :
    decisions accepts k es = [] := by
  refine List.filterMap_eq_nil_iff.2 fun e he => if_neg fun hk => h ?_
  exact List.mem_map.2 ⟨e, he, hk⟩

/-- Entries about different meshes may change places. -/
lemma follow_comm {e e' : String × Value} (h : e.1 ≠ e'.1) :
    follow accepts (follow accepts t e) e' = follow accepts (follow accepts t e') e := by
  refine Std.ExtTreeMap.ext_getElem? fun k => ?_
  simp only [getElem?_follow]
  by_cases hk : k = e.1
  · have hk' : k ≠ e'.1 := hk ▸ h
    simp [hk, h]
  · simp [hk]

/-- Entries about meshes that are all different may be followed in any order. -/
lemma followAll_perm {es es' : List (String × Value)} (hperm : es.Perm es')
    (hkeys : (Entries.keys es).Nodup) : followAll accepts es t = followAll accepts es' t := by
  refine hperm.foldl_eq' (fun e he e' he' t => ?_) t
  by_cases heq : e = e'
  · rw [heq]
  · exact follow_comm fun hk => heq (List.inj_on_of_nodup_map hkeys he he' hk)

/-- Lists of entries without a common mesh may change places, each under its own acceptance. -/
lemma followAll_comm {accepts' : Geometry → Bool} {es es' : List (String × Value)}
    (h : (Entries.keys es).Disjoint (Entries.keys es')) :
    followAll accepts' es' (followAll accepts es t)
      = followAll accepts es (followAll accepts' es' t) := by
  refine Std.ExtTreeMap.ext_getElem? fun k => ?_
  simp only [getElem?_followAll]
  by_cases hk : k ∈ Entries.keys es
  · rw [decisions_eq_nil (h hk)]
    rfl
  · rw [decisions_eq_nil hk]
    rfl

/-- An entry about another mesh makes no difference. -/
lemma getElem?_followAll_of_ne {e : String × Value} {k : String} (h : k ≠ e.1)
    (before after : List (String × Value)) :
    (followAll accepts (before ++ e :: after) t)[k]?
      = (followAll accepts (before ++ after) t)[k]? := by
  simp only [getElem?_followAll, decisions, List.filterMap_append, List.filterMap_cons,
    if_neg (Ne.symm h)]

end Contents

/-! ### Scenes -/

/-- A delta, and the setting of the view it is applied under. -/
structure Round (σ : Type) where
  setting : σ
  delta : MeshDelta
  refresh : Bool

namespace Scene

open Contents Screening

variable {V σ : Type} [View V] [Screening V σ]

/-- Adjust the view and apply a delta. -/
def round (s : Scene V) (r : Round σ) : Scene V :=
  (apply r.delta r.refresh { s with view := adjust r.setting s.view }).2

/-- Apply deltas one after the other, adjusting the view in between. -/
def rounds (rs : List (Round σ)) (s : Scene V) : Scene V := rs.foldl round s

lemma setting_evict (uuid : String) (s : Scene V) :
    setting (s.evict uuid).view = setting s.view := by
  unfold evict
  split
  · rfl
  · exact setting_release _ _

/-- An entry changes the contents as it says, and never the setting of the view. -/
lemma EntryRule.contents {uuid : String} {v : Value} {s : Scene V} {fs : EntryFate × Scene V}
    (h : EntryRule uuid v s fs) :
    fs.2.contents = follow (acceptsBoth V (setting s.view)) s.contents (uuid, v) ∧
      setting fs.2.view = setting s.view := by
  have hne : ∀ k, k ≠ uuid → fs.2.contents[k]?
      = (follow (acceptsBoth V (setting s.view)) s.contents (uuid, v))[k]? := by
    intro k hk
    rw [getElem?_contents, h.resource?_of_ne hk, getElem?_follow, if_neg hk, getElem?_contents]
  have hext : fs.2.contents[uuid]?
      = (follow (acceptsBoth V (setting s.view)) s.contents (uuid, v))[uuid]? →
      fs.2.contents = follow (acceptsBoth V (setting s.view)) s.contents (uuid, v) := by
    refine fun heq => Std.ExtTreeMap.ext_getElem? fun k => ?_
    by_cases hk : k = uuid
    · exact hk ▸ heq
    · exact hne k hk
  cases h with
  | unread e hv => exact ⟨hext (by simp [getElem?_follow, decision?, hv]), rfl⟩
  | remove hv =>
    refine ⟨hext ?_, setting_evict uuid s⟩
    simp [getElem?_follow, decision?, hv, resource?_evict]
  | build p g r view hv hbuild =>
    obtain ⟨haccepts, hsame⟩ := scene_build_ok hbuild
    rw [setting_evict] at haccepts hsame
    refine ⟨hext ?_, hsame⟩
    simp [getElem?_follow, decision?, hv, resource?_insert, haccepts, (build_ok hbuild).2]
  | reject p g e view hv hbuild =>
    obtain ⟨hrejects, hsame⟩ := scene_build_error hbuild
    rw [setting_evict] at hrejects hsame
    refine ⟨hext ?_, hsame⟩
    simp [getElem?_follow, decision?, hv, resource?_withView, resource?_evict, hrejects]

lemma contents_applyEntries (es : List (String × Value)) (s : Scene V) :
    (s.applyEntries es).2.contents
      = followAll (acceptsBoth V (setting s.view)) es s.contents := by
  induction es generalizing s with
  | nil => rfl
  | cons e es ih =>
    obtain ⟨hcontents, hsame⟩ := (EntryRule.of_applyEntry e.1 e.2 s).contents
    calc (s.applyEntries (e :: es)).2.contents
        = ((s.applyEntry e.1 e.2).2.applyEntries es).2.contents := rfl
      _ = followAll (acceptsBoth V (setting s.view)) es (s.applyEntry e.1 e.2).2.contents := by
        rw [ih, hsame]
      _ = followAll (acceptsBoth V (setting s.view)) (e :: es) s.contents := by
        rw [hcontents]
        rfl

/-- A delta changes the contents entry by entry, as its view accepts them. -/
theorem contents_apply (d : MeshDelta) (refresh : Bool) (s : Scene V) :
    (s.apply d refresh).2.contents
      = followAll (acceptsBoth V (setting s.view)) d.meshes s.contents :=
  contents_applyEntries d.meshes s

lemma contents_round (r : Round σ) (s : Scene V) :
    (s.round r).contents = followAll (acceptsBoth V r.setting) r.delta.meshes s.contents := by
  rw [round, contents_apply, setting_adjust]
  rfl

/-! ### Runs -/

/-- What deltas make of contents. -/
def writeRounds (V : Type) {σ : Type} [View V] [Screening V σ] (rs : List (Round σ))
    (t : Table MeshContent) : Table MeshContent :=
  rs.foldl (fun t r => followAll (acceptsBoth V r.setting) r.delta.meshes t) t

/-- The decisions of deltas about a mesh, in order. -/
def roundDecisions (V : Type) {σ : Type} [View V] [Screening V σ] (uuid : String)
    (rs : List (Round σ)) : List (Option MeshContent) :=
  rs.flatMap fun r => decisions (acceptsBoth V r.setting) uuid r.delta.meshes

lemma writeRounds_cons (r : Round σ) (rs : List (Round σ)) (t : Table MeshContent) :
    writeRounds V (r :: rs) t
      = writeRounds V rs (followAll (acceptsBoth V r.setting) r.delta.meshes t) := rfl

lemma contents_rounds (rs : List (Round σ)) (s : Scene V) :
    (s.rounds rs).contents = writeRounds V rs s.contents := by
  induction rs generalizing s with
  | nil => rfl
  | cons r rs ih =>
    rw [rounds, List.foldl_cons, ← rounds, ih, contents_round, writeRounds_cons]

lemma writeRounds_append (before after : List (Round σ)) (t : Table MeshContent) :
    writeRounds V (before ++ after) t = writeRounds V after (writeRounds V before t) :=
  List.foldl_append

lemma getElem?_writeRounds (rs : List (Round σ)) (t : Table MeshContent) (k : String) :
    (writeRounds V rs t)[k]? = ((roundDecisions V k rs).getLast?).getD t[k]? := by
  induction rs generalizing t with
  | nil => rfl
  | cons r rs ih =>
    have hcons : roundDecisions V k (r :: rs)
        = decisions (acceptsBoth V r.setting) k r.delta.meshes ++ roundDecisions V k rs := rfl
    rw [writeRounds_cons, ih, getElem?_followAll, hcons, List.getLast?_append]
    cases (roundDecisions V k rs).getLast? with
    | none => rfl
    | some c => rfl

/-- The scenes of a view hold what the entries of deltas decide. -/
structure HoldsDecisions (V : Type) {σ : Type} [View V] [Screening V σ] : Prop where
  /-- A delta changes the contents entry by entry, as the view accepts them at that time. -/
  delta (d : MeshDelta) (refresh : Bool) (s : Scene V) : (s.apply d refresh).2.contents
    = followAll (acceptsBoth V (setting s.view)) d.meshes s.contents
  /-- So do any number of deltas, with the view adjusted in between. -/
  run (rs : List (Round σ)) (s : Scene V) : (s.rounds rs).contents = writeRounds V rs s.contents
  /-- The last decision about a mesh counts. -/
  last (rs : List (Round σ)) (s : Scene V) (k : String) : (s.rounds rs).contents[k]?
    = ((roundDecisions V k rs).getLast?).getD s.contents[k]?
  /-- An entry makes no difference to other meshes. -/
  isolated (before after : List (String × Value)) (e : String × Value) (refresh : Bool)
    (s : Scene V) (k : String) (hk : k ≠ e.1) :
    (s.apply ⟨before ++ e :: after⟩ refresh).2.contents[k]?
      = (s.apply ⟨before ++ after⟩ refresh).2.contents[k]?
  /-- The entries of a delta may be reordered. -/
  reorder (before after : List (Round σ)) (x : σ) (d d' : MeshDelta) (refresh : Bool) (s : Scene V)
    (hkeys : d.meshes.keys.Nodup) (hperm : d.meshes.Perm d'.meshes) :
    (s.rounds (before ++ ⟨x, d, refresh⟩ :: after)).contents
      = (s.rounds (before ++ ⟨x, d', refresh⟩ :: after)).contents
  /-- Deltas without a common mesh may be exchanged. -/
  exchange (before after : List (Round σ)) (r r' : Round σ) (s : Scene V)
    (hdisjoint : r.delta.meshes.keys.Disjoint r'.delta.meshes.keys) :
    (s.rounds (before ++ r :: r' :: after)).contents
      = (s.rounds (before ++ r' :: r :: after)).contents

/-- Every view that screens meshes holds what entries decide. -/
lemma holdsDecisions (V : Type) {σ : Type} [View V] [Screening V σ] : HoldsDecisions V where
  delta := contents_apply
  run := contents_rounds
  last rs s k := by rw [contents_rounds, getElem?_writeRounds]
  isolated before after e refresh s k hk := by
    rw [contents_apply, contents_apply]
    exact getElem?_followAll_of_ne hk before after
  reorder before after x d d' refresh s hkeys hperm := by
    rw [contents_rounds, contents_rounds, writeRounds_append, writeRounds_append, writeRounds_cons,
      writeRounds_cons, followAll_perm hperm hkeys]
  exchange before after r r' s hdisjoint := by
    rw [contents_rounds, contents_rounds, writeRounds_append, writeRounds_append]
    simp only [writeRounds_cons, followAll_comm hdisjoint]

/-- Up to handles, a scene on either view is the table that the entries of the deltas write. -/
theorem contents_refine : HoldsDecisions RecordingView ∧ HoldsDecisions HeadlessView :=
  ⟨holdsDecisions RecordingView, holdsDecisions HeadlessView⟩

/-- A triangle that is sent again once back sides are rejected is gone; another, whose new entry
cannot be read, stays; and a third is removed. -/
theorem contents_refine_rejected_back :
    let mesh : Value := .object
      [("V", .string (.ofList (.replicate 48 'A'))), ("F", .string "AAAAAAEAAAACAAAA")]
    let rs : List (Round (Option Face)) :=
      [⟨none, ⟨[("a", mesh), ("b", mesh), ("c", mesh)]⟩, true⟩,
        ⟨some .back, ⟨[("b", .null), ("c", MeshEdit.removalMark), ("a", mesh)]⟩, false⟩]
    let s : Scene RecordingView := rounds rs ⟨{}, ∅⟩
    s.contents["a"]? = none ∧ s.contents["b"]? = some ⟨"b", true, 3, 1⟩ ∧
      s.contents["c"]? = none := by
  intro mesh rs s
  refine ⟨?_, ?_, ?_⟩
  · rw [contents_refine.1.last rs ⟨{}, ∅⟩ "a"]
    decide +kernel
  · rw [contents_refine.1.last rs ⟨{}, ∅⟩ "b"]
    decide +kernel
  · rw [contents_refine.1.last rs ⟨{}, ∅⟩ "c"]
    decide +kernel

end Scene

end MeshRoom
