import MeshRoom.Proofs.Config
import Mathlib.Data.List.DropRight

/-!
# The name of the own machine

A server setting is kept with the address of the own machine for its name: the name is replaced
where it stands at the start of what is behind the scheme, and nothing else is. It is replaced at
the start of a longer name too. Replacing it again changes nothing, and encryption is asked for as
before.
-/

namespace MeshRoom.Config

open Url

variable {tail : List Char}

/-! ### Behind the scheme -/

/-- The scheme of a server setting with what follows it, if there is one. -/
def schemeText (server : String) : List Char :=
  match splitScheme server.toList with
  | some (scheme, _) => scheme ++ "://".toList
  | none => []

/-- What stands behind the scheme of a server setting. -/
def behindScheme (server : String) : List Char :=
  match splitScheme server.toList with
  | some (_, rest) => rest
  | none => server.toList

section Schemes

variable {cs name scheme rest : List Char}

lemma splitScheme_cons_of_ne {c : Char} (h : c ≠ ':') (cs : List Char) :
    splitScheme (c :: cs) = (splitScheme cs).map fun s => (c :: s.1, s.2) := by
  rw [splitScheme]
  intro rest hc
  exact absurd hc h

/-- A name without colons is part of the scheme before the first `://`. -/
lemma splitScheme_append_of_notMem (h : ':' ∉ name) (cs : List Char) :
    splitScheme (name ++ cs) = (splitScheme cs).map fun s => (name ++ s.1, s.2) := by
  induction name with
  | nil => simp
  | cons c name ih =>
    simp only [List.mem_cons, not_or] at h
    rw [List.cons_append, splitScheme_cons_of_ne (Ne.symm h.1), ih h.2, Option.map_map]
    rfl

/-- What stands behind the first `://` does not matter for where it is. -/
lemma splitScheme_eq_some (h : splitScheme cs = some (scheme, rest)) :
    cs = scheme ++ "://".toList ++ rest ∧
      ∀ rest', splitScheme (scheme ++ "://".toList ++ rest') = some (scheme, rest') := by
  induction cs using splitScheme.induct generalizing scheme with
  | case1 rest =>
    cases h
    exact ⟨rfl, fun _ => rfl⟩
  | case2 c cs hfirst ih =>
    rw [splitScheme] at h
    · obtain ⟨⟨scheme', rest'⟩, hcs, heq⟩ := Option.map_eq_some_iff.1 h
      cases heq
      obtain ⟨hcs', hsplit⟩ := ih hcs
      refine ⟨by rw [hcs']; rfl, fun other => ?_⟩
      rw [List.cons_append, List.cons_append, splitScheme, hsplit]
      · rfl
      · rintro r rfl hr
        -- the first `://` would have been here already
        rw [hcs'] at hfirst
        rcases scheme' with _ | ⟨a, _ | ⟨b, scheme'⟩⟩
        · simp at hr
        · simp at hr
        · simp only [List.cons_append, List.cons.injEq] at hr
          obtain ⟨rfl, rfl, -⟩ := hr
          exact hfirst _ rfl rfl
    · exact hfirst
  | case3 => cases h

end Schemes

lemma schemeText_append_behindScheme (server : String) :
    schemeText server ++ behindScheme server = server.toList := by
  unfold schemeText behindScheme
  cases h : splitScheme server.toList with
  | none => rfl
  | some split => exact (splitScheme_eq_some h).1.symm

lemma toList_normalizeServer (server : String) :
    (normalizeServer server).toList = schemeText server ++ replaceLocal (behindScheme server) := by
  unfold normalizeServer schemeText behindScheme
  cases h : splitScheme server.toList with
  | none => simp
  | some split => simp

/-! ### The name and its address -/

lemma replaceLocal_append (tail : List Char) :
    replaceLocal (localName ++ tail) = localAddress ++ tail := by
  simp [replaceLocal]

lemma replaceLocal_of_not_local {cs : List Char} (h : ¬localName <+: cs) :
    replaceLocal cs = cs := by
  simp [replaceLocal, h]

/-- The address does not start like the name. -/
lemma address_startsOtherwise (tail : List Char) : ¬localName <+: localAddress ++ tail := by
  rintro ⟨more, h⟩
  have hhead : some 'l' = some '1' := congrArg List.head? h
  simp at hhead

/-- A text starts with the name or stays as it is. -/
lemma replaceLocal_cases (cs : List Char) :
    (∃ tail, cs = localName ++ tail ∧ replaceLocal cs = localAddress ++ tail) ∨
      ¬localName <+: cs ∧ replaceLocal cs = cs := by
  by_cases h : localName <+: cs
  · obtain ⟨tail, rfl⟩ := h
    exact .inl ⟨tail, rfl, replaceLocal_append tail⟩
  · exact .inr ⟨h, replaceLocal_of_not_local h⟩

lemma replaceLocal_idem (cs : List Char) : replaceLocal (replaceLocal cs) = replaceLocal cs := by
  rcases replaceLocal_cases cs with ⟨tail, -, htail⟩ | ⟨-, hcs⟩
  · rw [htail]
    exact replaceLocal_of_not_local (address_startsOtherwise tail)
  · rw [hcs, hcs]

/-- A scheme is not touched, nor does one come about. -/
lemma splitScheme_normalizeServer (server : String) :
    splitScheme (normalizeServer server).toList
      = (splitScheme server.toList).map fun s => (s.1, replaceLocal s.2) := by
  rw [toList_normalizeServer]
  unfold schemeText behindScheme
  cases h : splitScheme server.toList with
  | some split => exact (splitScheme_eq_some h).2 _
  | none =>
    rcases replaceLocal_cases server.toList with ⟨tail, hserver, htail⟩ | ⟨-, hcs⟩
    · rw [hserver, splitScheme_append_of_notMem (by decide)] at h
      simp only [List.nil_append, htail]
      rw [splitScheme_append_of_notMem (by decide)]
      simpa using h
    · simpa [hcs] using h

lemma schemeText_normalizeServer (server : String) :
    schemeText (normalizeServer server) = schemeText server := by
  unfold schemeText
  rw [splitScheme_normalizeServer]
  cases splitScheme server.toList <;> rfl

lemma behindScheme_normalizeServer (server : String) :
    behindScheme (normalizeServer server) = replaceLocal (behindScheme server) := by
  have hsplit := splitScheme_normalizeServer server
  have htext := toList_normalizeServer server
  unfold schemeText behindScheme at *
  rw [hsplit]
  cases h : splitScheme server.toList with
  | none => simpa [h] using htext
  | some split => rfl

lemma normalizeServer_idem (server : String) :
    normalizeServer (normalizeServer server) = normalizeServer server := by
  rw [← String.toList_inj, toList_normalizeServer, schemeText_normalizeServer,
    behindScheme_normalizeServer, replaceLocal_idem, ← toList_normalizeServer]

/-! ### Encryption -/

lemma hostPart_eq (server : String) :
    hostPart server = (behindScheme server).rdropWhile (· = '/') := rfl

/-- Slashes at the end are those of what stands behind a name. -/
lemma rdropWhile_append_of_eq_self {name : List Char} (h : name.rdropWhile (· = '/') = name)
    (tail : List Char) :
    (name ++ tail).rdropWhile (· = '/') = name ++ tail.rdropWhile (· = '/') := by
  rw [List.rdropWhile] at h
  rw [List.rdropWhile, List.rdropWhile, List.reverse_append, List.dropWhile_append]
  split
  case isTrue hempty => rw [List.isEmpty_iff.1 hempty, h, List.reverse_nil, List.append_nil]
  case isFalse => rw [List.reverse_append, List.reverse_reverse]

/-- A text whose start names no port ends in a port if and only if the rest does. -/
lemma port_suffix_append {name : List Char} (h : ':' ∉ name) (tail : List Char) :
    ":443".toList <:+ name ++ tail ↔ ":443".toList <:+ tail := by
  constructor
  · rintro ⟨front, hfront⟩
    rcases List.append_eq_append_iff.1 hfront with ⟨more, rfl, hmore⟩ | ⟨more, rfl, hmore⟩
    · cases more with
      | nil => exact ⟨[], by simpa using hmore⟩
      | cons c more =>
        obtain rfl : ':' = c := by simpa using congrArg List.head? hmore
        simp at h
    · exact ⟨more, hmore.symm⟩
  · exact fun hsuffix => hsuffix.trans (List.suffix_append name tail)

/-- A server setting that starts with a scheme of a few characters has it before the first `://`. -/
lemma isPrefixOf_iff {scheme : List Char} (h : ':' ∉ scheme) (cs : List Char) :
    (scheme ++ "://".toList).isPrefixOf cs = true
      ↔ (splitScheme cs).map Prod.fst = some scheme := by
  rw [List.isPrefixOf_iff_prefix]
  constructor
  · rintro ⟨rest, rfl⟩
    rw [List.append_assoc, splitScheme_append_of_notMem h]
    simp [splitScheme]
  · intro hsplit
    obtain ⟨⟨_, rest⟩, hcs, rfl⟩ := Option.map_eq_some_iff.1 hsplit
    exact ⟨rest, (splitScheme_eq_some hcs).1.symm⟩

/-- The name and the address of the own machine ask for encryption alike. -/
lemma asksForTls_normalizeServer (server : String) :
    asksForTls (normalizeServer server) = asksForTls server := by
  have hscheme (scheme : List Char) (h : ':' ∉ scheme) :
      (scheme ++ "://".toList).isPrefixOf (normalizeServer server).toList
        = (scheme ++ "://".toList).isPrefixOf server.toList := by
    rw [Bool.eq_iff_iff, isPrefixOf_iff h, isPrefixOf_iff h, splitScheme_normalizeServer]
    simp [Function.comp_def]
  have hport : ":443".toList.isSuffixOf (hostPart (normalizeServer server))
      = ":443".toList.isSuffixOf (hostPart server) := by
    rw [Bool.eq_iff_iff, List.isSuffixOf_iff_suffix, List.isSuffixOf_iff_suffix, hostPart_eq,
      hostPart_eq, behindScheme_normalizeServer]
    rcases replaceLocal_cases (behindScheme server) with ⟨tail, hname, htail⟩ | ⟨-, hcs⟩
    · rw [htail, hname, rdropWhile_append_of_eq_self (by decide),
        rdropWhile_append_of_eq_self (by decide), port_suffix_append (by decide),
        port_suffix_append (by decide)]
    · rw [hcs]
  unfold asksForTls
  rw [hport]
  exact congrArg₂ (fun a b => a || b || _) (hscheme "https".toList (by decide))
    (hscheme "wss".toList (by decide))

lemma tls_withServer (c : Config) (server : String) :
    (c.withServer server).tls = ({ c with server }).tls :=
  congrArg c.useTls.getD (asksForTls_normalizeServer server)

/-! ### Which names are replaced -/

lemma normalizeServer_of_not_local {server : String}
    (h : replaceLocal (behindScheme server) = behindScheme server) :
    normalizeServer server = server := by
  rw [← String.toList_inj, toList_normalizeServer, h, schemeText_append_behindScheme]

/-- What becomes of a server setting in which the own machine, and no other, is to be called by its
address. -/
inductive Localized (server : String) : String → Prop where
  | own (tail : List Char) (hname : behindScheme server = localName ++ tail)
      (hends : ∀ ch ∈ tail.head?, ch = ':' ∨ ch = '/') :
      Localized server (String.ofList (schemeText server ++ localAddress ++ tail))
  | other (h : ∀ tail, behindScheme server = localName ++ tail →
      ∃ ch ∈ tail.head?, ch ≠ ':' ∧ ch ≠ '/') : Localized server server

/-- A server setting whose host starts with the name of the own machine and goes on. -/
def StartsLikeLocal (server : String) : Prop :=
  ∃ ch tail, behindScheme server = localName ++ ch :: tail ∧ ch ≠ ':' ∧ ch ≠ '/'

lemma normalizeServer_of_local {server : String} (h : behindScheme server = localName ++ tail) :
    normalizeServer server = String.ofList (schemeText server ++ localAddress ++ tail) := by
  rw [← String.toList_inj, toList_normalizeServer, h, replaceLocal_append, String.toList_ofList,
    List.append_assoc]

lemma localized_iff (server : String) :
    Localized server (normalizeServer server) ↔ ¬StartsLikeLocal server := by
  constructor
  · rintro hlocal ⟨ch, tail, hname, hcolon, hslash⟩
    rw [normalizeServer_of_local hname] at hlocal
    generalize hstored : String.ofList (schemeText server ++ localAddress ++ ch :: tail) = stored
      at hlocal
    cases hlocal with
    | own tail' hname' hends =>
      obtain rfl := List.append_cancel_left (hname.symm.trans hname')
      rcases hends ch rfl with rfl | rfl
      · exact hcolon rfl
      · exact hslash rfl
    | other =>
      have hserver := schemeText_append_behindScheme server
      rw [← congrArg String.toList hstored, String.toList_ofList, hname, List.append_assoc]
        at hserver
      exact address_startsOtherwise _ ⟨_, List.append_cancel_left hserver⟩
  · intro h
    rcases replaceLocal_cases (behindScheme server) with ⟨tail, hname, -⟩ | ⟨hother, hcs⟩
    · rw [normalizeServer_of_local hname]
      refine .own tail hname fun ch hch => ?_
      by_contra hother
      rw [not_or] at hother
      obtain ⟨others, rfl⟩ := List.head?_eq_some_iff.1 hch
      exact h ⟨ch, others, hname, hother⟩
    · rw [normalizeServer_of_not_local hcs]
      exact .other fun tail hname => absurd ⟨tail, hname.symm⟩ hother

end MeshRoom.Config
