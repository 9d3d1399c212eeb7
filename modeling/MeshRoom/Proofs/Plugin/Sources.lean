import MeshRoom.Plugin.Loader
import MeshRoom.Proofs.Table
import Mathlib.Data.List.Induction
import Mathlib.Tactic.Lemma

/-!
# Modules registered

A module registered for a version is served for whatever lies under the same path. A path does not
tell where the name of a plugin ends and its version begins if there is more than one underscore in
them, so that other versions, of other plugins even, may lie there too.
-/

namespace MeshRoom

/-! ### Paths -/

namespace ModuleSpec

variable {spec other : ModuleSpec}

/-- Two versions read off one path, the name of the first ending at an earlier underscore. -/
def SplitsBefore (spec other : ModuleSpec) : Prop :=
  ∃ middle, other.name = spec.name ++ "_" ++ middle ∧ spec.version = middle ++ "_" ++ other.version

lemma path_eq_iff_append : spec.path = other.path ↔
    spec.name.toList ++ '_' :: spec.version.toList
      = other.name.toList ++ '_' :: other.version.toList := by
  unfold path
  rw [← String.toList_inj]
  simp only [String.toList_append, List.append_assoc, List.append_cancel_left_eq]
  rw [← List.append_assoc, ← List.append_assoc, ← List.append_assoc, ← List.append_assoc,
    List.append_left_inj, List.append_assoc, List.append_assoc]
  rfl

lemma SplitsBefore.path_eq (h : spec.SplitsBefore other) : spec.path = other.path := by
  obtain ⟨middle, hname, hversion⟩ := h
  rw [path_eq_iff_append, hname, hversion]
  simp

/-- The name of the version that splits before is shorter. -/
lemma SplitsBefore.ne (h : spec.SplitsBefore other) : spec ≠ other := by
  rintro rfl
  obtain ⟨middle, hname, -⟩ := h
  have hlength := congrArg String.length hname
  simp only [String.length_append] at hlength
  have hunderscore : "_".length = 1 := rfl
  omega

/-- Where the name of one version goes on behind that of another, the other splits before. -/
lemma eq_or_splitsBefore {rest : List Char} (hname : other.name.toList = spec.name.toList ++ rest)
    (hversion : '_' :: spec.version.toList = rest ++ '_' :: other.version.toList) :
    spec = other ∨ spec.SplitsBefore other := by
  cases rest with
  | nil =>
    rw [List.append_nil, String.toList_inj] at hname
    rw [List.nil_append, List.cons.injEq, String.toList_inj] at hversion
    obtain ⟨name, version⟩ := spec
    obtain ⟨name', version'⟩ := other
    obtain rfl : name' = name := hname
    obtain rfl : version = version' := hversion.2
    exact .inl rfl
  | cons c rest =>
    rw [List.cons_append, List.cons.injEq] at hversion
    obtain ⟨rfl, hversion⟩ := hversion
    refine .inr ⟨String.ofList rest, ?_, ?_⟩
    · rw [← String.toList_inj, hname]
      simp
    · rw [← String.toList_inj, hversion]
      simp

/-- Versions lie under one path if they are the same or split it at different underscores. -/
lemma path_eq_iff : spec.path = other.path ↔
    spec = other ∨ spec.SplitsBefore other ∨ other.SplitsBefore spec := by
  constructor
  · intro h
    rw [path_eq_iff_append, List.append_eq_append_iff] at h
    rcases h with ⟨rest, hname, hversion⟩ | ⟨rest, hname, hversion⟩
    · exact (eq_or_splitsBefore hname hversion).imp_right .inl
    · exact (eq_or_splitsBefore hname hversion).imp Eq.symm .inr
  · rintro (rfl | h | h)
    · rfl
    · exact h.path_eq
    · exact h.path_eq.symm

/-- A version has its path to itself if there is no underscore in its name and none in itself. -/
lemma exists_other_iff : (∃ other, other ≠ spec ∧ other.path = spec.path) ↔
    '_' ∈ spec.name.toList ∨ '_' ∈ spec.version.toList := by
  constructor
  · rintro ⟨other, hne, hpath⟩
    rcases path_eq_iff.1 hpath with rfl | ⟨middle, hname, -⟩ | ⟨middle, -, hversion⟩
    · exact absurd rfl hne
    · exact .inl (by simp [hname])
    · exact .inr (by simp [hversion])
  · rintro (hname | hversion)
    · obtain ⟨before, after, hsplit⟩ := List.append_of_mem hname
      have h : SplitsBefore ⟨String.ofList before, String.ofList after ++ "_" ++ spec.version⟩
          spec :=
        ⟨String.ofList after, by rw [← String.toList_inj, hsplit]; simp, rfl⟩
      exact ⟨_, h.ne, h.path_eq⟩
    · obtain ⟨before, after, hsplit⟩ := List.append_of_mem hversion
      have h : SplitsBefore spec ⟨spec.name ++ "_" ++ String.ofList before, String.ofList after⟩ :=
        ⟨String.ofList before, rfl, by rw [← String.toList_inj, hsplit]; simp⟩
      exact ⟨_, h.ne.symm, h.path_eq.symm⟩

end ModuleSpec

/-! ### Registrations -/

/-- A module registered: for every version of a plugin, or for one version. -/
inductive Registration (M : Type) where
  | plugin (name : String) (m : M)
  | version (spec : ModuleSpec) (m : M)

namespace Registration

variable {M : Type}

/-- Register a module. -/
def perform (s : ModuleSource M) : Registration M → ModuleSource M
  | .plugin name m => s.register name m
  | .version spec m => s.registerVersion spec m

/-- The module, if it is registered for a plugin of that name. -/
def forPlugin? (name : String) : Registration M → Option M
  | .plugin name' m => if name = name' then some m else none
  | .version _ _ => none

/-- The module, if it is registered for that version. -/
def forVersion? (spec : ModuleSpec) : Registration M → Option M
  | .plugin _ _ => none
  | .version spec' m => if spec = spec' then some m else none

/-- The module, if it is registered for a version that lies there. -/
def atPath? (path : String) : Registration M → Option M
  | .plugin _ _ => none
  | .version spec m => if path = spec.path then some m else none

/-- The last of some registrations that serves, as a test tells. -/
def latest? (serves? : Registration M → Option M) (rs : List (Registration M)) : Option M :=
  rs.reverse.findSome? serves?

lemma latest?_concat (serves? : Registration M → Option M) (rs : List (Registration M))
    (r : Registration M) : latest? serves? (rs ++ [r]) = (serves? r).or (latest? serves? rs) := by
  simp only [latest?, List.reverse_append, List.reverse_singleton, List.singleton_append,
    List.findSome?_cons]
  cases serves? r <;> rfl

lemma latest?_congr {serves? serves?' : Registration M → Option M} {rs : List (Registration M)}
    (h : ∀ r ∈ rs, serves? r = serves?' r) : latest? serves? rs = latest? serves?' rs := by
  induction rs using List.reverseRecOn with
  | nil => rfl
  | append_singleton rs r ih =>
    rw [latest?_concat, latest?_concat, h r (by simp),
      ih fun r' hr' => h r' (List.mem_append_left _ hr')]

/-- Modules registered one after the other in a new source. -/
def source (rs : List (Registration M)) : ModuleSource M := rs.foldl perform {}

lemma source_concat (rs : List (Registration M)) (r : Registration M) :
    source (rs ++ [r]) = perform (source rs) r := by
  rw [source, List.foldl_append]
  rfl

lemma byPath_source (rs : List (Registration M)) (path : String) :
    (source rs).byPath[path]? = latest? (atPath? path) rs := by
  induction rs using List.reverseRecOn with
  | nil => exact Std.ExtTreeMap.getElem?_empty
  | append_singleton rs r ih =>
    rw [source_concat, latest?_concat, ← ih]
    cases r with
    | plugin name m => rfl
    | version spec m =>
      rw [perform, ModuleSource.registerVersion, getElem?_insert_ite, atPath?]
      split <;> rfl

lemma byName_source (rs : List (Registration M)) (name : String) :
    (source rs).byName[name]? = latest? (forPlugin? name) rs := by
  induction rs using List.reverseRecOn with
  | nil => exact Std.ExtTreeMap.getElem?_empty
  | append_singleton rs r ih =>
    rw [source_concat, latest?_concat, ← ih]
    cases r with
    | plugin name' m =>
      rw [perform, ModuleSource.register, getElem?_insert_ite, forPlugin?]
      split <;> rfl
    | version spec m => rfl

/-! ### What is served -/

/-- A version is served a module, or told that there is none. -/
def served (spec : ModuleSpec) : Option M → Except PluginError M
  | some m => .ok m
  | none => .error (.moduleNotFound spec.path)

lemma fetch_source (rs : List (Registration M)) (spec : ModuleSpec) :
    (source rs).fetch spec
      = served spec ((latest? (atPath? spec.path) rs).or (latest? (forPlugin? spec.name) rs)) := by
  rw [← byPath_source, ← byName_source, ModuleSource.fetch, ModuleSource.find?]
  cases (source rs).byPath[spec.path]? <;> rfl

/-- A version is served as if modules were kept by version: the one registered last for this very
version, or else the one registered last for the plugin. -/
def ServesOwn (rs : List (Registration M)) (spec : ModuleSpec) : Prop :=
  (source rs).fetch spec
    = served spec ((latest? (forVersion? spec) rs).or (latest? (forPlugin? spec.name) rs))

/-- As long as nothing else was registered under its path, a version is served as if modules were
kept by version. -/
lemma servesOwn_of_alone {rs : List (Registration M)} {spec : ModuleSpec}
    (h : ∀ other m, .version other m ∈ rs → other.path = spec.path → other = spec) :
    ServesOwn rs spec := by
  have hsame : latest? (atPath? spec.path) rs = latest? (forVersion? spec) rs := by
    refine latest?_congr fun r hr => ?_
    cases r with
    | plugin => rfl
    | version other m =>
      by_cases hpath : spec.path = other.path
      · rw [atPath?, forVersion?, if_pos hpath, if_pos (h other m hr hpath.symm).symm]
      · rw [atPath?, forVersion?, if_neg hpath, if_neg fun heq => hpath (congrArg _ heq)]
  rw [ServesOwn, fetch_source, hsame]

/-- What is registered for another version under its path is served to a version. -/
lemma not_servesOwn_of_other {spec other : ModuleSpec} (hne : other ≠ spec)
    (hpath : other.path = spec.path) (m : M) : ¬ ServesOwn [.version other m] spec := by
  intro h
  rw [ServesOwn, fetch_source] at h
  simp [latest?, atPath?, forVersion?, forPlugin?, hpath, hne.symm, served] at h

/-- A version is served what was registered last under its path, or else for its plugin. Other
versions lie under that path if they split it at another underscore; if none of these was
registered, the version is served its own. That is so whatever is registered if and only if there is
no underscore in the name of the plugin and none in the version. -/
theorem served_by_path [Inhabited M] (spec : ModuleSpec) :
    (∀ rs : List (Registration M), (source rs).fetch spec
      = served spec ((latest? (atPath? spec.path) rs).or (latest? (forPlugin? spec.name) rs))) ∧
    (∀ other : ModuleSpec, other.path = spec.path ↔
      other = spec ∨ other.SplitsBefore spec ∨ spec.SplitsBefore other) ∧
    (∀ rs : List (Registration M),
      (∀ other m, .version other m ∈ rs → other.path = spec.path → other = spec) →
        ServesOwn rs spec) ∧
    ((∀ rs : List (Registration M), ServesOwn rs spec) ↔
      '_' ∉ spec.name.toList ∧ '_' ∉ spec.version.toList) := by
  refine ⟨fun rs => fetch_source rs spec, fun other => ModuleSpec.path_eq_iff,
    fun rs => servesOwn_of_alone, ?_⟩
  rw [← not_or, ← ModuleSpec.exists_other_iff]
  constructor
  · rintro hserves ⟨other, hne, hpath⟩
    exact not_servesOwn_of_other hne hpath default (hserves _)
  · intro hnone rs
    refine servesOwn_of_alone fun other m _ hpath => ?_
    by_contra hne
    exact hnone ⟨other, hne, hpath⟩

/-- A version with an underscore is served its own as long as nothing else lies there. -/
theorem served_by_path_alone :
    let spec : ModuleSpec := ⟨"a_b", "c"⟩
    let rs : List (Registration Module) :=
      [.version spec .healthBadge, .plugin "a_b" .visibilityToggle,
        .version ⟨"a", "b"⟩ .visibilityToggle]
    (∀ other m, .version other m ∈ rs → other.path = spec.path → other = spec) ∧
      (source rs).fetch spec = .ok .healthBadge := by
  intro spec rs
  have : Inhabited Module := ⟨.healthBadge⟩
  have halone (other : ModuleSpec) (m : Module) (hr : .version other m ∈ rs)
      (hpath : other.path = spec.path) : other = spec := by
    simp only [rs, List.mem_cons, Registration.version.injEq, reduceCtorEq, List.not_mem_nil,
      or_false, false_or] at hr
    rcases hr with ⟨rfl, -⟩ | ⟨rfl, -⟩
    · rfl
    · exact absurd hpath (by decide +kernel)
  exact ⟨halone, ((served_by_path spec).2.2.1 rs halone).trans (by decide +kernel)⟩

/-- Version `b_c` of the plugin `a` lies where version `c` of `a_b` lies, and is served what was
registered for that. -/
theorem not_servesOwn_always :
    ¬ ∀ (rs : List (Registration Module)) (spec : ModuleSpec), ServesOwn rs spec := by
  intro h
  have hne : (⟨"a_b", "c"⟩ : ModuleSpec) ≠ ⟨"a", "b_c"⟩ := by decide
  have hpath : (⟨"a_b", "c"⟩ : ModuleSpec).path = (⟨"a", "b_c"⟩ : ModuleSpec).path := by
    decide +kernel
  exact not_servesOwn_of_other hne hpath Module.healthBadge (h _ _)

end Registration

end MeshRoom
