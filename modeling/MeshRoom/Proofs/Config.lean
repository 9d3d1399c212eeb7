import MeshRoom.Config
import MeshRoom.Proofs.Url.Reading
import Mathlib.Tactic.ByContra

/-!
# One server setting, two addresses

The base of the requests and the address of the room channel differ in their schemes and in what
stands behind the server. If the first can be read, there is a host in the server setting, and both
have that, with its user and port, and the path up to the last slash of the setting.
-/

namespace MeshRoom

open Url

/-- A name of visible characters that neither close a segment nor a path. -/
structure IsPlainName (name : String) : Prop where
  ne_empty : name ≠ ""
  visible : ∀ c ∈ name.toList, 0x20 < c.toNat ∧ c ∉ ['/', '\\', '?', '#']

namespace Config

variable (c : Config)

/-- The scheme of the requests. -/
def httpScheme : String := if c.tls then "https" else "http"

/-- The scheme of the room channel. -/
def channelScheme : String := if c.tls then "wss" else "ws"

/-- The characters of the server setting that count. -/
def serverText : List Char := (hostPart c.server).filter (!isBreak ·)

/-- The characters of the room that count. -/
def roomText : List Char := c.room.toList.filter (!isBreak ·)

lemma httpScheme_mem : c.httpScheme ∈ webSchemes := by
  unfold httpScheme
  split <;> decide

lemma channelScheme_mem : c.channelScheme ∈ webSchemes := by
  unfold channelScheme
  split <;> decide

lemma defaultPort?_schemes : defaultPort? c.httpScheme = defaultPort? c.channelScheme := by
  unfold httpScheme channelScheme
  split <;> rfl

lemma defaultPort?_channelScheme : defaultPort? c.channelScheme ≠ none := by
  unfold channelScheme
  split <;> decide

lemma httpBase?_eq :
    c.httpBase? = readAuthority? c.httpScheme (dropSlashes (c.serverText ++ ['/'])) :=
  parse?_web c.httpScheme_mem (hostPart c.server)

lemma channelUrl?_eq :
    c.channelUrl? = readAuthority? c.channelScheme
      (dropSlashes (c.serverText ++ '/' :: (c.roomText ++ ['/']))) := by
  have htext : c.channelScheme ++ "://" ++ String.ofList (hostPart c.server) ++ "/" ++ c.room ++ "/"
      = c.channelScheme ++ "://" ++ String.ofList (hostPart c.server ++ '/' :: c.room.toList)
        ++ "/" := by
    simp [← String.toList_inj]
  have hfilter : (hostPart c.server ++ '/' :: c.room.toList).filter (!isBreak ·)
      = c.serverText ++ '/' :: c.roomText := by
    simp [serverText, roomText, isBreak]
  have hchannel : c.channelUrl? = parse? (c.channelScheme ++ "://" ++
    String.ofList (hostPart c.server) ++ "/" ++ c.room ++ "/") := rfl
  rw [hchannel, htext, parse?_web c.channelScheme_mem, hfilter, List.append_assoc, List.cons_append]

/-! ### Slashes before an authority -/

/-- The server setting has a character that counts and is no slash. -/
def NamesServer : Prop := ∃ ch ∈ c.serverText, isSlash true ch = false

instance : Decidable c.NamesServer :=
  inferInstanceAs (Decidable (∃ ch ∈ c.serverText, isSlash true ch = false))

variable {c}

lemma namesServer_iff : c.NamesServer ↔ dropSlashes c.serverText ≠ [] := by
  simp [NamesServer, dropSlashes, List.dropWhile_eq_nil_iff]

/-- What stands behind the server does not matter for the slashes before it. -/
lemma NamesServer.dropSlashes_append (h : c.NamesServer) (more : List Char) :
    dropSlashes (c.serverText ++ more) = dropSlashes c.serverText ++ more := by
  have hhost := namesServer_iff.1 h
  rw [dropSlashes, List.dropWhile_append, if_neg]
  · rfl
  · intro hempty
    exact hhost (List.isEmpty_iff.1 hempty)

/-- Without a server, the slashes before what stands behind it are passed over too. -/
lemma dropSlashes_of_not_namesServer (h : ¬c.NamesServer) (more : List Char) :
    dropSlashes (c.serverText ++ '/' :: more) = dropSlashes more := by
  have hempty : dropSlashes c.serverText = [] := by simpa [namesServer_iff] using h
  rw [dropSlashes] at hempty
  rw [dropSlashes, List.dropWhile_append, hempty]
  exact List.dropWhile_cons_of_pos isSlash_slash

/-- Without a server nothing is left of the base. -/
lemma httpBase?_of_not_namesServer (h : ¬c.NamesServer) : c.httpBase? = none := by
  have hspecial := isSpecial_of_mem c.httpScheme_mem
  rw [httpBase?_eq, dropSlashes_of_not_namesServer h, readAuthority?_of_isSpecial hspecial]
  simp [dropSlashes, cutAt, place?_nil hspecial]

variable (c)

/-! ### Addresses -/

/-- If the base of the requests can be read, so can the address of the room channel, which has the
same host, user and port; its path goes on where the base ends. -/
lemma exists_addresses {base : Url} (h : c.httpBase? = some base) :
    ∃ place front, place.scheme = c.httpScheme ∧ place.host ≠ none ∧ EndsAtSlash front ∧
      base = withPath place [""] front ∧
      c.channelUrl? = some (withPath { place with scheme := c.channelScheme } [""]
        (front ++ (c.roomText ++ ['/']))) := by
  have hspecial := isSpecial_of_mem c.httpScheme_mem
  have hspecial' := isSpecial_of_mem c.channelScheme_mem
  have hnames : c.NamesServer := by
    by_contra hnot
    rw [httpBase?_of_not_namesServer hnot] at h
    cases h
  rw [httpBase?_eq, hnames.dropSlashes_append, readAuthority?_of_isSpecial hspecial,
    cutAt_append (by decide)] at h
  obtain ⟨place, hplace, hbase⟩ := Option.map_eq_some_iff.1 h
  obtain ⟨hscheme, hsome⟩ := scheme_of_place? hplace
  obtain ⟨front, hfront, hpath⟩ :=
    exists_path_of_afterAuthority (cutAt (endsAuthority true) (dropSlashes c.serverText)).2
  refine ⟨place, front, hscheme, hsome, hfront, ?_, ?_⟩
  · rw [← hbase, hpath place [] (hscheme ▸ hspecial), List.append_nil]
  · rw [channelUrl?_eq, hnames.dropSlashes_append, readAuthority?_of_isSpecial hspecial',
      cutAt_append (by decide), place?_scheme hspecial hspecial' c.defaultPort?_schemes, hplace]
    exact congrArg some (hpath _ _ hspecial')

end Config

namespace IsPlainName

variable {name : String}

instance : Decidable (IsPlainName name) :=
  decidable_of_iff (name ≠ "" ∧ (name.toList.all fun c =>
      decide (0x20 < c.toNat ∧ c ∉ ['/', '\\', '?', '#'])) = true)
    ⟨fun h => ⟨h.1, fun c hc => of_decide_eq_true (List.all_eq_true.1 h.2 c hc)⟩,
      fun h => ⟨h.ne_empty, List.all_eq_true.2 fun c hc => decide_eq_true (h.visible c hc)⟩⟩

lemma plain (h : IsPlainName name) :
    ∀ c ∈ name.toList, isSlash true c = false ∧ endsPath c = false := by
  intro c hc
  have hnot := (h.visible c hc).2
  simp only [List.mem_cons, List.not_mem_nil, or_false, not_or] at hnot
  simp [isSlash, endsPath, hnot]

lemma roomText {c : Config} (h : IsPlainName c.room) : c.roomText = c.room.toList :=
  filter_isBreak_eq_self fun ch hch => (h.visible ch hch).1

end IsPlainName

namespace Config

variable {c : Config} {base channel : Url}

lemma encrypted_iff : c.httpScheme = "https" ↔ c.channelScheme = "wss" := by
  unfold httpScheme channelScheme
  split <;> simp

/-- Both addresses are on one server. -/
lemma same_server (hbase : c.httpBase? = some base) (hchannel : c.channelUrl? = some channel) :
    base.scheme = c.httpScheme ∧ channel.scheme = c.channelScheme ∧ base.host = channel.host ∧
      base.port = channel.port ∧ channel.host ≠ none := by
  obtain ⟨place, front, hscheme, hhost, -, rfl, haddress⟩ := c.exists_addresses hbase
  obtain rfl := Option.some.inj (hchannel.symm.trans haddress)
  exact ⟨hscheme, rfl, rfl, rfl, hhost⟩

/-- The base has a path. -/
lemma exists_base_path (hbase : c.httpBase? = some base) : ∃ parts, base.path = .segments parts := by
  obtain ⟨place, front, -, -, -, rfl, -⟩ := c.exists_addresses hbase
  exact ⟨_, path_withPath⟩

/-- Without a query and a fragment, the channel goes on where the base ends, by the room and another
slash. -/
lemma exists_path (hroom : IsPlainName c.room) (hbase : c.httpBase? = some base)
    (hchannel : c.channelUrl? = some channel) (hquery : base.query = none)
    (hfragment : base.fragment = none) :
    ∃ parts, isFresh parts = true ∧ base.path = .segments parts ∧
      channel.path = .segments (followSegment false true parts c.room.toList) := by
  obtain ⟨place, front, hscheme, -, hfront, rfl, haddress⟩ := c.exists_addresses hbase
  obtain rfl := Option.some.inj (hchannel.symm.trans haddress)
  have hends : ∀ ch ∈ front, endsPath ch = false := by
    intro ch hch
    by_contra hend
    rcases tail_withPath ⟨ch, hch, by simpa using hend⟩ with htail | htail
    · exact htail hquery
    · exact htail hfragment
  obtain ⟨raws, hraws⟩ := @exists_segmentsOf_append true front hfront
  have hfresh : isFresh (followClosed [""] raws) = true := isFresh_followClosed rfl raws
  refine ⟨followClosed [""] raws, hfresh, ?_, ?_⟩
  · have hhttp := c.httpScheme_mem
    rw [withPath_eq hends, hscheme, resolve_of_ne_file (isSpecial_of_mem hhttp)
      (ne_file_of_mem hhttp), ← List.append_nil front, hraws,
      follow_append [""] raws (segmentsOf_ne_nil [])]
    exact congrArg UrlPath.segments (followSegment_nil hfresh)
  · have hws := c.channelScheme_mem
    have hall : ∀ ch ∈ front ++ (c.roomText ++ ['/']), endsPath ch = false := by
      rw [hroom.roomText, List.forall_mem_append, List.forall_mem_append,
        List.forall_mem_singleton]
      exact ⟨hends, fun ch hch => (hroom.plain ch hch).2, rfl⟩
    rw [withPath_eq hall, hroom.roomText]
    dsimp only
    rw [resolve_of_ne_file (isSpecial_of_mem hws) (ne_file_of_mem hws), hraws, segmentsOf_append,
      segmentsOf_of_isSlash_eq_false fun ch hch => (hroom.plain ch hch).1, List.singleton_append,
      follow_append [""] raws (List.cons_ne_nil _ _)]
    exact congrArg UrlPath.segments (followSegment_nil (isFresh_followSegment _ _))

/-- With a query or a fragment, the room is none of the path. -/
lemma pathText_channel_of_tail (hbase : c.httpBase? = some base)
    (hchannel : c.channelUrl? = some channel) (htail : base.query ≠ none ∨ base.fragment ≠ none) :
    channel.pathText = base.pathText := by
  obtain ⟨place, front, hscheme, -, -, rfl, haddress⟩ := c.exists_addresses hbase
  obtain rfl := Option.some.inj (hchannel.symm.trans haddress)
  have hends : ∃ ch ∈ front, endsPath ch = true := by
    by_contra hnone
    have hall : ∀ ch ∈ front, endsPath ch = false :=
      fun ch hch => Bool.eq_false_iff.2 fun hend => hnone ⟨ch, hch, hend⟩
    rw [withPath_eq hall] at htail
    exact htail.elim (absurd rfl) (absurd rfl)
  have hpath : (withPath { place with scheme := c.channelScheme } [""]
      (front ++ (c.roomText ++ ['/']))).path = (withPath place [""] front).path := by
    have hhttp := c.httpScheme_mem
    have hws := c.channelScheme_mem
    rw [path_withPath_append hends, path_withPath, path_withPath, hscheme,
      resolve_of_ne_file (isSpecial_of_mem hhttp) (ne_file_of_mem hhttp),
      resolve_of_ne_file (isSpecial_of_mem hws) (ne_file_of_mem hws)]
  rw [pathText, pathText, hpath]
  rfl

end Config

end MeshRoom
