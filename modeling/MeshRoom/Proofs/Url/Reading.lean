import MeshRoom.Proofs.Url.Path
import MeshRoom.Url.Parse
import Mathlib.Data.List.TakeWhile

/-!
# Reading addresses of the web

An address of a scheme of the web is its authority and what follows, up to slashes before it. The
authority is read alike in schemes that share a default port, and what follows it does not matter
for that. Up to a slash, the path is read whatever comes behind.
-/

namespace MeshRoom.Url

/-! ### Cutting -/

section Cutting

variable {α : Type} {p : α → Bool} {x : α}

lemma takeWhile_append_of_stop (hx : p x = false) (xs ys : List α) :
    (xs ++ x :: ys).takeWhile p = xs.takeWhile p := by
  induction xs with
  | nil => simp [hx]
  | cons a xs ih => cases ha : p a <;> simp [ha, ih]

lemma dropWhile_append_of_stop (hx : p x = false) (xs ys : List α) :
    (xs ++ x :: ys).dropWhile p = xs.dropWhile p ++ x :: ys := by
  induction xs with
  | nil => simp [hx]
  | cons a xs ih => cases ha : p a <;> simp [ha, ih]

/-- A text is cut before what it is to be cut at, whatever comes behind. -/
lemma cutAt_append {p : Char → Bool} {c : Char} (hc : p c = true) (xs ys : List Char) :
    cutAt p (xs ++ c :: ys) = ((cutAt p xs).1, (cutAt p xs).2 ++ c :: ys) := by
  have hstop : (!p c) = false := by rw [hc]; rfl
  exact Prod.ext (takeWhile_append_of_stop (p := (!p ·)) hstop xs ys)
    (dropWhile_append_of_stop (p := (!p ·)) hstop xs ys)

lemma cutAt_eq_self {p : Char → Bool} {cs : List Char} (h : ∀ c ∈ cs, p c = false) :
    cutAt p cs = (cs, []) := by
  have hgo : ∀ c ∈ cs, (!p c) = true := fun c hc => by rw [h c hc]; rfl
  exact Prod.ext (List.takeWhile_eq_self_iff.2 hgo) (List.dropWhile_eq_nil_iff.2 hgo)

lemma dropWhile_of_head? {xs : List α} (h : ∀ a ∈ xs.head?, p a = false) : xs.dropWhile p = xs := by
  cases xs with
  | nil => rfl
  | cons a xs => exact List.dropWhile_cons_of_neg (by simp [h a rfl])

end Cutting

/-! ### Cleaning -/

/-- A text without control characters or spaces at its ends only loses its line breaks. -/
lemma clean_eq_filter {input : String} (hfirst : ∀ c ∈ input.toList.head?, isEdge c = false)
    (hlast : ∀ c ∈ input.toList.getLast?, isEdge c = false) :
    clean input = input.toList.filter (!isBreak ·) := by
  rw [clean, dropWhile_of_head? hfirst, dropWhile_of_head? (by rwa [List.head?_reverse]),
    List.reverse_reverse]

/-- Visible characters are no line breaks. -/
lemma filter_isBreak_eq_self {cs : List Char} (h : ∀ c ∈ cs, 0x20 < c.toNat) :
    cs.filter (!isBreak ·) = cs := by
  refine List.filter_eq_self.2 fun c hc => ?_
  have hvisible := h c hc
  simp only [isBreak, Bool.not_eq_true', Bool.or_eq_false_iff, decide_eq_false_iff_not]
  refine ⟨⟨?_, ?_⟩, ?_⟩ <;> rintro rfl <;> exact absurd hvisible (by decide)

/-- A text of visible characters counts as a whole. -/
lemma clean_eq_self {input : String} (h : ∀ c ∈ input.toList, 0x20 < c.toNat) :
    clean input = input.toList := by
  have hedge : ∀ c ∈ input.toList, isEdge c = false := fun c hc => by simp [isEdge, h c hc]
  rw [clean_eq_filter (fun c hc => hedge c (List.mem_of_mem_head? hc))
    (fun c hc => hedge c (List.mem_of_mem_getLast? hc)), filter_isBreak_eq_self h]

/-! ### Schemes -/

/-- No scheme is read beyond a slash. -/
lemma splitScheme?_append (xs ys : List Char) :
    splitScheme? (xs ++ '/' :: ys) = (splitScheme? xs).map fun s => (s.1, s.2 ++ '/' :: ys) := by
  have hslash : isSchemeChar '/' = false := by decide
  unfold splitScheme?
  rw [takeWhile_append_of_stop hslash, dropWhile_append_of_stop hslash]
  generalize xs.takeWhile isSchemeChar = name
  generalize xs.dropWhile isSchemeChar = rest
  dsimp only
  split
  case h_1 c _ after hrest =>
    cases rest with
    | nil => cases hrest
    | cons d rest =>
      cases hrest
      cases halpha : c.isAlpha <;> simp [halpha]
  case h_2 hother =>
    split
    case h_1 c _ after => exact absurd rfl (hother _ _ _ rfl)
    case h_2 => rfl

/-- A scheme stands before a colon. -/
lemma exists_of_splitScheme? {cs rest : List Char} {scheme : String}
    (h : splitScheme? cs = some (scheme, rest)) : ∃ name, cs = name ++ ':' :: rest := by
  refine ⟨cs.takeWhile isSchemeChar, ?_⟩
  unfold splitScheme? at h
  dsimp only at h
  split at h
  case h_1 c _ after _ hafter =>
    split at h
    · cases h
      rw [← hafter, List.takeWhile_append_dropWhile]
    · cases h
  case h_2 => cases h

/-- The schemes of requests and channels. -/
def webSchemes : List String := ["http", "https", "ws", "wss"]

section Web

variable {scheme : String}

lemma mem_webSchemes :
    scheme ∈ webSchemes ↔ scheme = "http" ∨ scheme = "https" ∨ scheme = "ws" ∨ scheme = "wss" := by
  simp [webSchemes]

lemma isSpecial_of_mem (h : scheme ∈ webSchemes) : isSpecial scheme = true := by
  rcases mem_webSchemes.1 h with rfl | rfl | rfl | rfl <;> decide

lemma splitScheme?_web (h : scheme ∈ webSchemes) (rest : List Char) :
    splitScheme? (scheme.toList ++ ':' :: rest) = some (scheme, rest) := by
  rcases mem_webSchemes.1 h with rfl | rfl | rfl | rfl <;> rfl

lemma ne_file_of_mem (h : scheme ∈ webSchemes) : scheme ≠ "file" := by
  rcases mem_webSchemes.1 h with rfl | rfl | rfl | rfl <;> decide

lemma visible_of_mem (h : scheme ∈ webSchemes) : ∀ c ∈ scheme.toList, 0x20 < c.toNat := by
  have hall : (scheme.toList.all fun c => decide (0x20 < c.toNat)) = true := by
    rcases mem_webSchemes.1 h with rfl | rfl | rfl | rfl <;> decide
  exact fun c hc => of_decide_eq_true (List.all_eq_true.1 hall c hc)

lemma exists_toList_of_mem (h : scheme ∈ webSchemes) :
    ∃ first others, scheme.toList = first :: others := by
  rcases mem_webSchemes.1 h with rfl | rfl | rfl | rfl <;> exact ⟨_, _, rfl⟩

/-- An address of a scheme of the web is read from its authority on. -/
lemma parse?_web (h : scheme ∈ webSchemes) (text : List Char) :
    parse? (scheme ++ "://" ++ String.ofList text ++ "/")
      = readAuthority? scheme (dropSlashes (text.filter (!isBreak ·) ++ ['/'])) := by
  have hvisible := visible_of_mem h
  obtain ⟨first, others, hscheme⟩ := exists_toList_of_mem h
  have hinput : (scheme ++ "://" ++ String.ofList text ++ "/").toList
      = scheme.toList ++ ':' :: '/' :: '/' :: text ++ ['/'] := by simp
  have hfirst : ∀ c ∈ (scheme ++ "://" ++ String.ofList text ++ "/").toList.head?,
      isEdge c = false := by
    intro c hc
    rw [hinput, hscheme] at hc
    obtain rfl : first = c := Option.some.inj hc
    have hfirst := hvisible first (hscheme ▸ List.mem_cons_self)
    simp [isEdge, hfirst]
  have hlast : ∀ c ∈ (scheme ++ "://" ++ String.ofList text ++ "/").toList.getLast?,
      isEdge c = false := by
    intro c hc
    rw [hinput, List.getLast?_concat] at hc
    obtain rfl : '/' = c := Option.some.inj hc
    rfl
  have hclean : clean (scheme ++ "://" ++ String.ofList text ++ "/")
      = scheme.toList ++ ':' :: '/' :: '/' :: (text.filter (!isBreak ·) ++ ['/']) := by
    rw [clean_eq_filter hfirst hlast, hinput, List.filter_append, List.filter_append,
      filter_isBreak_eq_self hvisible]
    simp [isBreak]
  simp only [parse?, read?, hclean, splitScheme?_web h]
  rw [if_neg (ne_file_of_mem h), if_pos (isSpecial_of_mem h)]
  rfl

end Web

/-! ### Authorities -/

lemma mem_of_mem_splitUser {cs : List Char} {c : Char} (h : c ∈ (splitUser cs).2) : c ∈ cs := by
  have hhost : (splitUser cs).2 = (cs.reverse.takeWhile (· ≠ '@')).reverse := by
    unfold splitUser
    dsimp only
    split <;> rfl
  rw [hhost, List.mem_reverse] at h
  exact List.mem_reverse.1 (List.takeWhile_subset _ h)

lemma mem_of_mem_splitPort {inBrackets : Bool} {cs : List Char} {c : Char}
    (h : c ∈ (splitPort inBrackets cs).2.getD []) : c ∈ cs := by
  induction cs generalizing inBrackets with
  | nil => cases h
  | cons d cs ih =>
    rw [splitPort] at h
    split at h
    · exact List.mem_cons_of_mem _ h
    · exact List.mem_cons_of_mem _ (ih h)

/-- Who logs in, the host and the port that an authority names. -/
def place? (scheme : String) (authority : List Char) : Option Url := do
  let (user, hostPort) := splitUser authority
  let (username, password) := credentials (user.getD [])
  let (hostText, portText) := splitPort false hostPort
  let (digits, spill) := cutAt (!Char.isDigit ·) (portText.getD [])
  if spill ≠ [] then none
  else
    let host ← host? scheme false hostText
    let port ← port? scheme digits
    some { scheme, username, password, host := some host, port }

lemma host?_of_isSpecial {scheme : String} (h : isSpecial scheme = true) (bare : Bool)
    (text : List Char) : host? scheme bare text = host? scheme false text := by
  simp [host?, h]

/-- In the special schemes an authority is read apart from what follows. -/
lemma readAuthority?_of_isSpecial {scheme : String} (h : isSpecial scheme = true)
    (cs : List Char) :
    readAuthority? scheme cs
      = (place? scheme (cutAt (endsAuthority true) cs).1).map fun u =>
          afterAuthority u (cutAt (endsAuthority true) cs).2 := by
  have hbackslash : '\\' ∉ (cutAt (endsAuthority true) cs).1 := by
    intro hmem
    have hends := List.all_eq_true.1 List.all_takeWhile _ hmem
    simp [endsAuthority, isSlash] at hends
  unfold readAuthority? place?
  rw [h]
  rcases hcut : cutAt (endsAuthority true) cs with ⟨authority, rest⟩
  rw [hcut] at hbackslash
  dsimp only
  have huser := @mem_of_mem_splitUser authority
  rcases hlogin : splitUser authority with ⟨user, hostPort⟩
  rw [hlogin] at huser
  dsimp only
  rcases credentials (user.getD []) with ⟨username, password⟩
  have hport := @mem_of_mem_splitPort false hostPort
  rcases hsplit : splitPort false hostPort with ⟨hostText, portText⟩
  rw [hsplit] at hport
  dsimp only
  have hspill : ∀ c ∈ (cutAt (!Char.isDigit ·) (portText.getD [])).2, c ∈ portText.getD [] :=
    fun c hc => List.dropWhile_subset _ hc
  rcases hdigits : cutAt (!Char.isDigit ·) (portText.getD []) with ⟨digits, spill⟩
  rw [hdigits] at hspill
  dsimp only
  rw [host?_of_isSpecial h]
  cases spill with
  | cons c spill =>
    -- what spills over the port is in the authority, which holds no backslash
    have hc : c ≠ '\\' := by
      rintro rfl
      exact hbackslash (huser (hport (hspill _ List.mem_cons_self)))
    simp [hc]
  | nil =>
    by_cases hnobody : hostPort = []
    · have hhost : hostText = [] := by
        rw [hnobody] at hsplit
        exact (congrArg Prod.fst hsplit).symm
      simp [hhost, host?, h]
    · cases hhost : host? scheme false hostText with
      | none => simp [hnobody]
      | some host => cases port? scheme digits <;> simp [hnobody]

/-- The authority is read alike in special schemes with the same default port. -/
lemma place?_scheme {scheme scheme' : String} (h : isSpecial scheme = true)
    (h' : isSpecial scheme' = true) (hport : defaultPort? scheme = defaultPort? scheme')
    (authority : List Char) :
    place? scheme' authority = (place? scheme authority).map ({ · with scheme := scheme' }) := by
  have hhosts : host? scheme' false = host? scheme false := by
    funext text
    simp [host?, h, h']
  have hports : port? scheme' = port? scheme := by
    funext digits
    simp [port?, hport]
  unfold place?
  rw [hhosts, hports]
  dsimp only
  split
  · rfl
  · cases host? scheme false _ with
    | none => rfl
    | some host => cases port? scheme _ <;> rfl

/-- In the special schemes there is a host. -/
lemma place?_nil {scheme : String} (h : isSpecial scheme = true) : place? scheme [] = none := by
  simp [place?, splitUser, splitPort, cutAt, host?, h]

lemma scheme_of_place? {scheme : String} {authority : List Char} {u : Url}
    (h : place? scheme authority = some u) : u.scheme = scheme ∧ u.host ≠ none := by
  unfold place? at h
  dsimp only at h
  split at h
  · cases h
  · obtain ⟨host, -, h⟩ := Option.bind_eq_some_iff.1 h
    obtain ⟨port, -, h⟩ := Option.bind_eq_some_iff.1 h
    cases h
    exact ⟨rfl, Option.some_ne_none host⟩

/-! ### Paths behind an authority -/

variable {u : Url} {path : List String} {cs : List Char}

/-- The text of the path behind an authority does not depend on what comes behind a slash in it. -/
lemma exists_path_of_afterAuthority (rest : List Char) :
    ∃ front, EndsAtSlash front ∧ ∀ (u : Url) (more : List Char), isSpecial u.scheme = true →
      afterAuthority u (rest ++ '/' :: more) = withPath u [""] (front ++ more) := by
  cases rest with
  | nil => exact ⟨[], .inl rfl, fun u more _ => rfl⟩
  | cons c rest =>
    cases hc : isSlash true c with
    | true =>
      refine ⟨rest ++ ['/'], .inr ⟨rest, rfl⟩, fun u more hu => ?_⟩
      simp [afterAuthority, hu, hc]
    | false =>
      refine ⟨c :: rest ++ ['/'], .inr ⟨c :: rest, rfl⟩, fun u more hu => ?_⟩
      simp [afterAuthority, hu, hc]

lemma path_withPath :
    (withPath u path cs).path = .segments (resolve u.scheme path (cutAt endsPath cs).1) := rfl

/-- A text without query and fragment is a path. -/
lemma withPath_eq (h : ∀ c ∈ cs, endsPath c = false) :
    withPath u path cs = { u with
      path := .segments (resolve u.scheme path cs)
      query := none
      fragment := none } := by
  rw [withPath, cutAt_eq_self h]
  rfl

/-- A text in which the path ends has a query or a fragment. -/
lemma tail_withPath (h : ∃ c ∈ cs, endsPath c = true) :
    (withPath u path cs).query ≠ none ∨ (withPath u path cs).fragment ≠ none := by
  rcases hcut : cutAt endsPath cs with ⟨pathText, tail⟩
  have htail : cs.dropWhile (!endsPath ·) = tail := congrArg Prod.snd hcut
  have hhead := List.head?_dropWhile_not (!endsPath ·) cs
  rw [withPath, hcut]
  rw [htail] at hhead
  cases tail with
  | nil =>
    obtain ⟨c, hc, hends⟩ := h
    have hgo := List.dropWhile_eq_nil_iff.1 htail c hc
    rw [hends] at hgo
    cases hgo
  | cons c tail =>
    have hc : c = '?' ∨ c = '#' := by simpa [endsPath, or_iff_not_imp_left] using hhead
    rcases hc with rfl | rfl
    · exact .inl (Option.some_ne_none _)
    · exact .inr (Option.some_ne_none _)

/-- What comes behind the end of a path is none of the path. -/
lemma path_withPath_append (h : ∃ c ∈ cs, endsPath c = true) (more : List Char) :
    (withPath u path (cs ++ more)).path = (withPath u path cs).path := by
  obtain ⟨c, hc, hends⟩ := h
  obtain ⟨front, back, rfl⟩ := List.append_of_mem hc
  rw [path_withPath, path_withPath, List.append_assoc, List.cons_append, cutAt_append hends,
    cutAt_append hends]

lemma resolve_of_ne_file {scheme : String} (h : isSpecial scheme = true) (hfile : scheme ≠ "file")
    (path : List String) (cs : List Char) :
    resolve scheme path cs = follow false path (segmentsOf true cs) := by
  simp [resolve, h, hfile]

/-! ### References -/

/-- A reference that starts with neither a scheme, a slash, a query nor a fragment leads on from the
open segment of a path. -/
lemma readReference?_relative {base : Url} {parts : List String} (hpath : base.path = .segments parts)
    (hfile : base.scheme ≠ "file") {c : Char} (hc : endsPath c = false)
    (hslash : isSlash true c = false) (rest : List Char) :
    readReference? base (c :: rest)
      = some (withPath base (reopen false parts) (c :: rest)) := by
  have hhash : c ≠ '#' := by
    rintro rfl
    cases hc
  have hstart : startsAuthority (c :: rest) = false := by
    simp [startsAuthority, hslash]
  unfold readReference?
  rw [hpath]
  split
  case h_1 heq => exact absurd (List.head_eq_of_cons_eq heq) hhash
  case h_2 hrootless _ => cases hrootless
  case h_3 =>
    rw [if_neg hfile, readRelative?, if_neg (by simp [hc]), if_neg (by simp [hstart]),
      if_neg (by simp [hslash]), segments?, hpath]
    rfl

/-! ### Behind a scheme -/

/-- A text without slashes up to one that no other follows does not start with an authority. -/
lemma startsAuthority_append {front back : List Char} (hfront : ∀ c ∈ front, isSlash true c = false)
    (hback : ∀ c ∈ back, isSlash true c = false) : startsAuthority (front ++ '/' :: back) = false := by
  cases front with
  | nil =>
    cases back with
    | nil => rfl
    | cons c back =>
      simp [startsAuthority, List.takeWhile_cons, isSlash_slash, hback c List.mem_cons_self]
  | cons c front => simp [startsAuthority, hfront c List.mem_cons_self]

/-- No connection goes to a file. -/
lemma effectivePort?_of_readFile? {cs : List Char} (hstart : startsAuthority cs = false)
    (h : readFile? none cs = some u) : u.effectivePort? = none := by
  cases cs with
  | nil =>
    cases h
    rfl
  | cons c rest =>
    rw [readFile?, if_neg (by simp [hstart])] at h
    split at h
    · cases h
      rfl
    · cases h
      rfl

/-- Outside the special schemes there is no host without an authority. -/
lemma host_of_readOther? {scheme : String} {cs : List Char} (hstart : startsAuthority cs = false)
    (h : readOther? scheme cs = some u) : u.host = none := by
  unfold readOther? at h
  split at h
  · simp [startsAuthority, List.takeWhile_cons, isSlash_slash] at hstart
  · cases h
    rfl
  · cases h
    rfl

end MeshRoom.Url
