import MeshRoom.Proofs.Config
import MeshRoom.Request.Basic

/-!
# Where requests go

A request goes to the server and the room that the channel is connected to: its address is that of
the channel with the task behind it. One is written as a text and the other as a reference from the
base, so this holds of the rooms whose names do not start like an address with a scheme, and of
server settings without a query and a fragment, which the room would come behind.
-/

namespace MeshRoom

open Url

/-- An address is on the server that another one is on. -/
structure Url.SameServer (channel u : Url) : Prop where
  host : u.host = channel.host
  port : u.effectivePort? = channel.effectivePort?
  encrypted : u.scheme = "https" ↔ channel.scheme = "wss"

/-- An address is that of a task in the room of a channel. -/
structure Url.SameRoom (channel : Url) (task : String) (u : Url) : Prop extends
    SameServer channel u where
  path : u.pathText = channel.pathText ++ task

/-! ### Texts of paths -/

namespace Url

lemma pathText_eq_join {u : Url} {parts : List String} (hhost : u.host ≠ none)
    (hpath : u.path = .segments parts) : u.pathText = String.join (parts.map ("/" ++ ·)) := by
  rw [pathText, hpath]
  simp [hhost]

lemma length_join (parts : List String) :
    (String.join (parts.map ("/" ++ ·))).length = size parts := by
  induction parts with
  | nil => rfl
  | cons part parts ih =>
    have hslash : "/".length = 1 := rfl
    rw [List.map_cons, String.join_cons, String.length_append, String.length_append, ih, hslash, size,
      Nat.add_comm 1]

/-- What is added to a fresh path is added to its text. -/
lemma join_extend {parts : List String} (h : isFresh parts = true) (text : String) :
    String.join ((extend parts text).map ("/" ++ ·))
      = String.join (parts.map ("/" ++ ·)) ++ text := by
  have hparts : String.join (parts.map ("/" ++ ·))
      = String.join ((parts.dropLast ++ [""]).map ("/" ++ ·)) := by
    rw [dropLast_append_of_isFresh h]
  rw [hparts, extend_of_isFresh h]
  simp [String.join_append, String.join_cons, String.append_assoc]

end Url

/-! ### The reference to a task -/

section Task

variable {room task : String}

lemma clean_reference (hroom : IsPlainName room) (htask : IsPlain task.toList) :
    clean (room ++ "/" ++ task) = room.toList ++ '/' :: task.toList := by
  have htext : (room ++ "/" ++ task).toList = room.toList ++ '/' :: task.toList := by simp
  rw [clean_eq_self, htext]
  intro c hc
  rw [htext, List.mem_append, List.mem_cons] at hc
  rcases hc with hc | rfl | hc
  · exact (hroom.visible c hc).1
  · decide
  · exact Nat.lt_of_lt_of_le (by decide) (toNat_of_isAlphanum (htask c hc)).1

lemma endsPath_of_isPlain {cs : List Char} (h : IsPlain cs) : ∀ c ∈ cs, endsPath c = false := by
  intro c hc
  rw [Url.endsPath, Bool.or_eq_false_iff, decide_eq_false_iff_not, decide_eq_false_iff_not]
  constructor <;> rintro rfl <;> exact absurd (h _ hc) (by decide)

lemma isSlash_of_isPlain {cs : List Char} (h : IsPlain cs) :
    ∀ c ∈ cs, isSlash true c = false := by
  intro c hc
  simp only [Url.isSlash, Bool.true_and, Bool.or_eq_false_iff, decide_eq_false_iff_not]
  constructor <;> rintro rfl <;> exact absurd (h _ hc) (by decide)

/-- A segment and a task behind it are followed one after the other. -/
lemma withPath_task {u : Url} {front cs : List Char} (hspecial : isSpecial u.scheme = true)
    (hfile : u.scheme ≠ "file")
    (hfront : ∀ c ∈ front, isSlash true c = false ∧ endsPath c = false) (hcs : IsPlain cs)
    (parts : List String) :
    withPath u parts (front ++ '/' :: cs) = { u with
      path := .segments (extend (followSegment false true parts front) (String.ofList cs))
      query := none
      fragment := none } := by
  have hends : ∀ c ∈ front ++ '/' :: cs, endsPath c = false :=
    List.forall_mem_append.2 ⟨fun c hc => (hfront c hc).2,
      List.forall_mem_cons.2 ⟨rfl, endsPath_of_isPlain hcs⟩⟩
  have hfollow : follow false parts ([front] ++ [cs])
      = extend (followSegment false true parts front) (String.ofList cs) :=
    followSegment_of_isPlain hcs _
  rw [withPath_eq hends, resolve_of_ne_file hspecial hfile, segmentsOf_append,
    segmentsOf_of_isSlash_eq_false fun c hc => (hfront c hc).1,
    segmentsOf_of_isSlash_eq_false (isSlash_of_isPlain hcs), hfollow]

/-- Where the name of the room is not read as a scheme, the reference leads on from the base. -/
lemma taskUrl?_of_no_scheme {base : Url} {parts : List String} (hpath : base.path = .segments parts)
    (hspecial : isSpecial base.scheme = true) (hfile : base.scheme ≠ "file")
    (hroom : IsPlainName room) (htask : IsPlain task.toList)
    (hscheme : splitScheme? room.toList = none) :
    ({ base, room } : Requester).taskUrl? task = some { base with
      path := .segments (extend (followSegment false true (reopen false parts) room.toList) task)
      query := none
      fragment := none } := by
  obtain ⟨c, rest, hcs⟩ : ∃ c rest, room.toList = c :: rest :=
    List.exists_cons_of_ne_nil (by simpa using hroom.ne_empty)
  have hread : ({ base, room } : Requester).taskUrl? task
      = readReference? base (room.toList ++ '/' :: task.toList) := by
    simp only [Requester.taskUrl?, join?, read?, clean_reference hroom htask, splitScheme?_append,
      hscheme]
    rfl
  have hrelative : readReference? base (room.toList ++ '/' :: task.toList)
      = some (withPath base (reopen false parts) (room.toList ++ '/' :: task.toList)) := by
    obtain ⟨hslash, hends⟩ := hroom.plain c (hcs ▸ List.mem_cons_self)
    rw [hcs]
    exact readReference?_relative hpath hfile hends hslash _
  rw [hread, hrelative, withPath_task hspecial hfile hroom.plain htask, String.ofList_toList]

/-! ### Rooms named like an address -/

/-- A task alone lengthens a fresh path by its own text. -/
lemma size_withPath_task {u : Url} {parts : List String} {cs : List Char} (h : IsPlain cs)
    (hspecial : isSpecial u.scheme = true) (hfile : u.scheme ≠ "file")
    (hfresh : isFresh parts = true) :
    ∃ parts', (withPath u parts cs).path = .segments parts' ∧
      size parts' = size parts + cs.length := by
  refine ⟨extend parts (String.ofList cs), ?_, ?_⟩
  · rw [withPath_eq (endsPath_of_isPlain h), resolve_of_ne_file hspecial hfile,
      segmentsOf_of_isSlash_eq_false (isSlash_of_isPlain h)]
    exact congrArg UrlPath.segments (followSegment_of_isPlain h parts)
  · rw [size_extend hfresh, String.length_ofList]

section Behind

variable {base u : Url} {scheme : String} {parts : List String} {rest cs : List Char}

/-- Behind the scheme of the base, the reference leads on from the base. -/
lemma size_readRelative?_le (hpath : base.path = .segments parts) (hfresh : isFresh parts = true)
    (hbase : isSpecial base.scheme = true) (hfile : base.scheme ≠ "file")
    (hrest : ∀ c ∈ rest, isSlash true c = false ∧ endsPath c = false) (hcs : IsPlain cs)
    (h : readRelative? base (rest ++ '/' :: cs) = some u) :
    ∃ parts', u.path = .segments parts' ∧
      size parts' ≤ size parts + (namedText rest).length + 1 + cs.length := by
  have hslash : ∀ c ∈ rest, isSlash true c = false := fun c hc => (hrest c hc).1
  have hstart := startsAuthority_append hslash (isSlash_of_isPlain hcs)
  -- with nothing before the slash, the path starts anew
  cases rest with
  | nil =>
    rw [List.nil_append] at h hstart
    rw [readRelative?, if_neg (by decide), if_neg (by simp [hstart]), if_pos isSlash_slash] at h
    cases h
    obtain ⟨parts', hparts', hsize⟩ :=
      @size_withPath_task base [""] cs hcs hbase hfile rfl
    refine ⟨parts', hparts', ?_⟩
    have hone : size [""] = 1 := rfl
    omega
  | cons c rest =>
    obtain ⟨hc, hends⟩ := hrest c List.mem_cons_self
    rw [List.cons_append] at h hstart
    rw [readRelative?, if_neg (by simp [hends]), if_neg (by simp [hstart]), if_neg (by simp [hc]),
      segments?, hpath, Option.getD_some, reopen_of_isFresh hfresh] at h
    cases h
    have hclosed := isFresh_followSegment parts (c :: rest)
    refine ⟨extend (followSegment false true parts (c :: rest)) (String.ofList cs), ?_, ?_⟩
    · rw [← List.cons_append, withPath_task hbase hfile hrest hcs]
    · rw [size_extend hclosed, String.length_ofList]
      exact Nat.add_le_add_right (size_followSegment_le hfresh (c :: rest)) _

/-- Behind another special scheme there is another server, and the path is the task. -/
lemma size_readAuthority?_le (hscheme : isSpecial scheme = true) (hfile : scheme ≠ "file")
    (hrest : ∀ c ∈ rest, isSlash true c = false ∧ endsPath c = false) (hcs : IsPlain cs)
    (h : readAuthority? scheme (dropSlashes (rest ++ '/' :: cs)) = some u) :
    ∃ parts', u.path = .segments parts' ∧ size parts' ≤ 1 + cs.length := by
  have hends : ∀ ds : List Char, (∀ c ∈ ds, isSlash true c = false ∧ endsPath c = false) →
      cutAt (endsAuthority true) ds = (ds, []) := by
    refine fun ds hds => cutAt_eq_self fun c hc => ?_
    have hc' := hds c hc
    simp only [endsPath, Bool.or_eq_false_iff] at hc'
    simp [endsAuthority, hc']
  rw [readAuthority?_of_isSpecial hscheme] at h
  obtain ⟨place, hplace, hu⟩ := Option.map_eq_some_iff.1 h
  have hspecial : isSpecial place.scheme = true := (scheme_of_place? hplace).1 ▸ hscheme
  have hfile' : place.scheme ≠ "file" := (scheme_of_place? hplace).1 ▸ hfile
  have hone : isFresh [""] = true ∧ size [""] = 1 := ⟨rfl, rfl⟩
  cases rest with
  | nil =>
    have hdrop : dropSlashes ('/' :: cs) = cs := by
      rw [dropSlashes, List.dropWhile_cons_of_pos isSlash_slash]
      exact dropWhile_of_head? fun c hc => isSlash_of_isPlain hcs c (List.mem_of_mem_head? hc)
    have hplain := fun c hc => And.intro (isSlash_of_isPlain hcs c hc) (endsPath_of_isPlain hcs c hc)
    rw [List.nil_append, hdrop, hends cs hplain] at hu
    have hroot : u = withPath place [""] [] := by
      rw [← hu, afterAuthority, if_pos hspecial]
    obtain ⟨parts', hparts', hsize⟩ := size_withPath_task (List.forall_mem_nil _) hspecial hfile' hone.1
    exact ⟨parts', hroot ▸ hparts', by rw [hsize, hone.2]; exact Nat.le_add_right 1 _⟩
  | cons c rest =>
    have hdrop : dropSlashes (c :: rest ++ '/' :: cs) = c :: rest ++ '/' :: cs :=
      dropWhile_of_head? (by rintro d ⟨⟩; exact (hrest c List.mem_cons_self).1)
    rw [hdrop, cutAt_append (by decide), hends _ hrest] at hu
    have htask : u = withPath place [""] cs := hu.symm
    obtain ⟨parts', hparts', hsize⟩ := size_withPath_task hcs hspecial hfile' hone.1
    exact ⟨parts', htask ▸ hparts', by rw [hsize, hone.2]⟩

/-- What is read behind a special scheme is an address whose path lacks the scheme. -/
lemma size_readSpecial?_le (hpath : base.path = .segments parts) (hfresh : isFresh parts = true)
    (hbase : isSpecial base.scheme = true) (hfile : base.scheme ≠ "file")
    (hscheme : isSpecial scheme = true) (hscheme' : scheme ≠ "file")
    (hrest : ∀ c ∈ rest, isSlash true c = false ∧ endsPath c = false) (hcs : IsPlain cs)
    (h : readSpecial? (some base) scheme (rest ++ '/' :: cs) = some u) :
    ∃ parts', u.path = .segments parts' ∧
      size parts' ≤ size parts + (namedText rest).length + 1 + cs.length := by
  unfold readSpecial? at h
  split at h
  case h_1 b hb =>
    obtain rfl : base = b := Option.some.inj (Option.filter_eq_some_iff.1 hb).1
    exact size_readRelative?_le hpath hfresh hbase hfile hrest hcs h
  case h_2 =>
    obtain ⟨parts', hparts', hsize⟩ := size_readAuthority?_le hscheme hscheme' hrest hcs h
    exact ⟨parts', hparts', by omega⟩

end Behind

/-- Where the name of the room is read as a scheme, there is no host, nothing to connect to, or a
path without the scheme. -/
lemma taskUrl?_of_scheme {base u : Url} {parts : List String} (hpath : base.path = .segments parts)
    (hfresh : isFresh parts = true) (hspecial : isSpecial base.scheme = true)
    (hfile : base.scheme ≠ "file") (hroom : IsPlainName room) (htask : IsPlain task.toList)
    {scheme : String} {rest : List Char} (hscheme : splitScheme? room.toList = some (scheme, rest))
    (h : ({ base, room } : Requester).taskUrl? task = some u) :
    u.host = none ∨ u.effectivePort? = none ∨ ∃ parts', u.path = .segments parts' ∧
      size parts' ≤ size parts + (namedText rest).length + 1 + task.length := by
  obtain ⟨name, hname⟩ := exists_of_splitScheme? hscheme
  have hrest : ∀ c ∈ rest, isSlash true c = false ∧ endsPath c = false := by
    intro c hc
    refine hroom.plain c ?_
    rw [hname]
    exact List.mem_append_right _ (List.mem_cons_of_mem _ hc)
  have hstart := startsAuthority_append (fun c hc => (hrest c hc).1) (isSlash_of_isPlain htask)
  simp only [Requester.taskUrl?, join?, read?, clean_reference hroom htask, splitScheme?_append,
    hscheme, Option.map_some] at h
  split at h
  · have hother : (some base).filter (fun b => b.scheme = "file") = none := by simp [hfile]
    rw [hother] at h
    exact .inr (.inl (effectivePort?_of_readFile? hstart h))
  · next hscheme' =>
    split at h
    · next hscheme =>
      have hsize := size_readSpecial?_le hpath hfresh hspecial hfile hscheme hscheme' hrest htask h
      rw [String.length_toList] at hsize
      exact .inr (.inr hsize)
    · exact .inl (host_of_readOther? hstart h)

end Task

/-- The room of a channel makes its path longer by a segment that the task stands behind. -/
lemma length_pathText_of_scheme {room : String} {channel : Url} {parts : List String}
    (hhost : channel.host ≠ none) (hfresh : isFresh parts = true)
    (hpath : channel.path = .segments (followSegment false true parts room.toList))
    {scheme : String} {rest : List Char} (hscheme : splitScheme? room.toList = some (scheme, rest)) :
    size parts + (namedText rest).length + 1 < channel.pathText.length := by
  obtain ⟨name, hname⟩ := exists_of_splitScheme? hscheme
  have hcolon : ':' ∈ room.toList := by
    rw [hname]
    exact List.mem_append_right _ List.mem_cons_self
  have hlonger := length_namedText_lt name rest
  rw [pathText_eq_join hhost hpath, length_join, followSegment_of_colon_mem hcolon,
    size_close_extend hfresh, hname]
  omega

/-- A request goes to the server that the channel is connected to, unless the name of the room is
read as a scheme; and to the room of the channel if besides the server setting has neither a query
nor a fragment. If it has one, the room is none of the path of the channel. -/
theorem taskUrl?_sameRoom_iff {c : Config} {base channel : Url} {task : String}
    (hroom : IsPlainName c.room) (htask : IsPlain task.toList)
    (hbase : c.httpBase? = some base) (hchannel : c.channelUrl? = some channel) :
    (splitScheme? c.room.toList = none → ∃ u,
        ({ base, room := c.room } : Requester).taskUrl? task = some u ∧ channel.SameServer u) ∧
      (base.query = none → base.fragment = none →
        ((∃ u, ({ base, room := c.room } : Requester).taskUrl? task = some u ∧
          channel.SameRoom task u) ↔ splitScheme? c.room.toList = none)) ∧
      (base.query ≠ none ∨ base.fragment ≠ none → channel.pathText = base.pathText) := by
  obtain ⟨hscheme, hscheme', hhost, hport, hsome⟩ := Config.same_server hbase hchannel
  have hspecial : isSpecial base.scheme = true := hscheme ▸ isSpecial_of_mem c.httpScheme_mem
  have hfile : base.scheme ≠ "file" := hscheme ▸ ne_file_of_mem c.httpScheme_mem
  have hserver : ∀ u : Url, u.scheme = base.scheme → u.host = base.host → u.port = base.port →
      channel.SameServer u := by
    intro u huscheme huhost huport
    refine ⟨huhost.trans hhost, ?_, ?_⟩
    · rw [effectivePort?, effectivePort?, huport, hport, huscheme, hscheme, hscheme',
        c.defaultPort?_schemes]
    · rw [huscheme, hscheme, hscheme']
      exact Config.encrypted_iff
  refine ⟨fun hnone => ?_, fun hquery hfragment => ?_, Config.pathText_channel_of_tail hbase hchannel⟩
  · obtain ⟨parts, hpath⟩ := Config.exists_base_path hbase
    exact ⟨_, taskUrl?_of_no_scheme hpath hspecial hfile hroom htask hnone, hserver _ rfl rfl rfl⟩
  · obtain ⟨parts, hfresh, hpath, hpath'⟩ :=
      Config.exists_path hroom hbase hchannel hquery hfragment
    constructor
    · rintro ⟨u, hu, hsame⟩
      cases hsplit : splitScheme? c.room.toList with
      | none => rfl
      | some split =>
        -- a path that lacks the scheme is too short to be that of the channel with the task
        exfalso
        rcases taskUrl?_of_scheme hpath hfresh hspecial hfile hroom htask hsplit hu with
          hnohost | hnoport | ⟨parts', hparts', hsize⟩
        · exact hsome (hsame.host.symm.trans hnohost)
        · have hnone := hsame.port.symm.trans hnoport
          rw [effectivePort?, hscheme'] at hnone
          exact c.defaultPort?_channelScheme (Option.or_eq_none_iff.1 hnone).2
        · have hlonger := length_pathText_of_scheme hsome hfresh hpath' hsplit
          have hlength := congrArg String.length hsame.path
          rw [pathText_eq_join (hsame.host ▸ hsome) hparts', length_join, String.length_append]
            at hlength
          omega
    · intro hnone
      refine ⟨_, taskUrl?_of_no_scheme hpath hspecial hfile hroom htask hnone,
        { hserver _ rfl rfl rfl with path := ?_ }⟩
      rw [reopen_of_isFresh hfresh, pathText_eq_join (hhost ▸ hsome) rfl,
        pathText_eq_join hsome hpath', join_extend (isFresh_followSegment _ _)]

/-- A room with dots in its name, on a server that is reached encrypted and not at its root. -/
theorem taskUrl?_sameRoom_iff_encrypted :
    let c : Config := { server := "https://10.0.0.7/geo/", room := "..hall" }
    ∃ base channel u, c.httpBase? = some base ∧ c.channelUrl? = some channel ∧
      ({ base, room := c.room } : Requester).taskUrl? "listPlugins" = some u ∧
        channel.SameRoom "listPlugins" u := by
  intro c
  let base : Url := { scheme := "https", host := some (.ipv4 0x0A000007), path := .segments ["geo", ""] }
  let channel : Url :=
    { scheme := "wss", host := some (.ipv4 0x0A000007), path := .segments ["geo", "..hall", ""] }
  have hbase : c.httpBase? = some base := by decide +kernel
  have hchannel : c.channelUrl? = some channel := by decide +kernel
  have hroom : IsPlainName c.room := by decide +kernel
  have htask : IsPlain "listPlugins".toList := by decide +kernel
  obtain ⟨u, hu, hsame⟩ :=
    ((taskUrl?_sameRoom_iff hroom htask hbase hchannel).2.1 rfl rfl).2 (by decide +kernel)
  exact ⟨base, channel, u, hbase, hchannel, hu, hsame⟩

/-- A room whose name starts with a letter and a colon further on has no requests. -/
theorem not_sameRoom_always :
    ¬ ∀ (c : Config) (base channel : Url) (task : String), IsPlainName c.room →
      IsPlain task.toList → c.httpBase? = some base → c.channelUrl? = some channel →
        ∃ u, ({ base, room := c.room } : Requester).taskUrl? task = some u ∧
          channel.SameRoom task u := by
  intro h
  let c : Config := { room := "team:alpha" }
  let base : Url :=
    { scheme := "http", host := some (.ipv4 0x7F000001), port := some 8080, path := .segments [""] }
  let channel : Url := { base with scheme := "ws", path := .segments ["team:alpha", ""] }
  let elsewhere : Url := { scheme := "team", path := .rootless "alpha/listPlugins" }
  have hroom : IsPlainName c.room := by decide +kernel
  have htask : IsPlain "listPlugins".toList := by decide +kernel
  have hbase : c.httpBase? = some base := by decide +kernel
  have hchannel : c.channelUrl? = some channel := by decide +kernel
  have helsewhere : ({ base, room := c.room } : Requester).taskUrl? "listPlugins" = some elsewhere := by
    decide +kernel
  obtain ⟨u, hu, hsame⟩ := h c base channel "listPlugins" hroom htask hbase hchannel
  obtain rfl := Option.some.inj (helsewhere.symm.trans hu)
  cases hsame.host

end MeshRoom
