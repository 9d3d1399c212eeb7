import MeshRoom.Proofs.Config.LocalName
import MeshRoom.Proofs.Url.Authority
import MeshRoom.Proofs.Url.Hosts

/-!
# The machine that a setting names

With the address of the own machine for its name, both addresses of a server setting lead to the
machine that they led to before, if the name ends where it was replaced. If a longer name starts
like it, they lead to another one.
-/

namespace MeshRoom

open Url

/-- Two hosts are one machine: they are the same, or the second is the address of the own machine
that the first names. -/
def Host.SameMachine (h h' : Host) : Prop :=
  h' = h ∨ h = .domain "localhost" ∧ h' = .ipv4 0x7F000001

/-- Two addresses lead to one machine. -/
def Url.SameMachine (u u' : Url) : Prop :=
  ∃ h h', u.host = some h ∧ u'.host = some h' ∧ h.SameMachine h'

/-- An address leads to the machine that another one leads to, and differs from it at most in how
that is called, and in who logs in there. -/
structure Url.LeadsAs (u u' : Url) : Prop where
  machine : u.SameMachine u'
  others : u' = { u with host := u'.host, username := u'.username }

namespace Url.LeadsAs

variable {u u' : Url}

lemma refl (h : u.host ≠ none) : u.LeadsAs u := by
  obtain ⟨host, hhost⟩ := Option.ne_none_iff_exists'.1 h
  exact ⟨⟨host, host, hhost, hhost, .inl rfl⟩, rfl⟩

/-- What follows an authority is the same for one machine. -/
lemma afterAuthority (h : u.LeadsAs u') (cs : List Char) :
    (Url.afterAuthority u cs).LeadsAs (Url.afterAuthority u' cs) := by
  obtain ⟨⟨host, host', hhost, hhost', hsame⟩, hothers⟩ := h
  refine ⟨⟨host, host', (host_afterAuthority u cs).trans hhost,
    (host_afterAuthority u' cs).trans hhost', hsame⟩, ?_⟩
  have hafter := afterAuthority_with u u'.host u'.username cs
  rw [← hothers] at hafter
  rw [hafter]

lemma map_afterAuthority {found found' : Option Url} (h : Option.Rel LeadsAs found found')
    (cs : List Char) :
    Option.Rel LeadsAs (found.map (Url.afterAuthority · cs))
      (found'.map (Url.afterAuthority · cs)) := by
  cases h with
  | none => exact .none
  | some hsame => exact .some (hsame.afterAuthority cs)

end Url.LeadsAs

namespace Config

open Url

variable {scheme : String} {tail : List Char}

/-- Where a name ends: at a port, a user, a path, a query or a fragment. -/
def endsName (ch : Char) : Bool := endsAuthority true ch || ch = ':' || ch = '@'

/-- A visible character in ASCII that stands for itself in a name. -/
def isNameChar (c : Char) : Bool :=
  0x20 < c.toNat && c.toNat < 0x80 && !endsName c && !(['%', '[', ']'].contains c)

lemma isNameChar_spec {c : Char} (h : isNameChar c) :
    0x20 < c.toNat ∧ c.toNat < 0x80 ∧ endsAuthority true c = false ∧
      c ∉ [':', '[', ']', '@'] ∧ c ≠ '%' := by
  simp only [isNameChar, endsName, Bool.and_eq_true, decide_eq_true_eq, Bool.not_eq_true',
    Bool.or_eq_false_iff, decide_eq_false_iff_not, List.contains_eq_mem, List.mem_cons,
    List.not_mem_nil, or_false, not_or] at h ⊢
  tauto

lemma isNameChar_localName : ∀ c ∈ localName, isNameChar c := List.all_eq_true.1 (by decide)

lemma isNameChar_localAddress : ∀ c ∈ localAddress, isNameChar c := List.all_eq_true.1 (by decide)

lemma parse?_localName : Host.parse? localName = some (.domain "localhost") := by decide +kernel

lemma parse?_localAddress : Host.parse? localAddress = some (.ipv4 0x7F000001) := by decide +kernel

/-- A name without at-signs, colons and brackets before a port is the host. -/
lemma place?_name {name : List Char} (hspecial : isSpecial scheme = true) (hnonempty : name ≠ [])
    (hname : ∀ c ∈ name, c ∉ [':', '[', ']', '@']) (hat : '@' ∉ tail)
    (htail : ∀ ch ∈ tail.head?, ch = ':' ∨ ch = '@') :
    place? scheme (name ++ tail) = (Host.parse? name).bind fun host =>
      (readPort? scheme (splitPort false tail).2).map fun port =>
        { scheme, host := some host, port } := by
  have hat' : '@' ∉ name ++ tail := by
    simp only [List.mem_append, not_or]
    exact ⟨fun hmem => hname '@' hmem (by decide), hat⟩
  have hbare : ∀ c ∈ name, c ∉ [':', '[', ']'] := by
    intro c hc hmem
    exact hname c hc (List.mem_append_left ['@'] hmem)
  have hport : (splitPort false tail).1 = [] := by
    cases tail with
    | nil => rfl
    | cons ch tail =>
      rcases htail ch rfl with rfl | rfl
      · rfl
      · simp at hat
  rw [place?_of_notMem scheme hat', splitPort_append hbare, hport, List.append_nil, host?,
    if_pos hspecial, if_neg hnonempty]

/-- An authority that starts with the name and one that starts with the address lead to one machine,
if the name ends there. -/
lemma place?_local (hspecial : isSpecial scheme = true)
    (htail : ∀ ch ∈ tail.head?, ch = ':' ∨ ch = '@') :
    Option.Rel LeadsAs (place? scheme (localName ++ tail))
      (place? scheme (localAddress ++ tail)) := by
  rcases exists_splitUser tail with ⟨user, host, rfl, hhost⟩ | hat
  · -- the name is part of who logs in
    rw [← List.append_assoc, ← List.append_assoc, place?_append scheme hhost,
      place?_append scheme hhost]
    cases hplace : place? scheme host with
    | none => exact .none
    | some u =>
      obtain ⟨machine, hmachine⟩ := Option.ne_none_iff_exists'.1 (scheme_of_place? hplace).2
      refine .some ⟨⟨machine, machine, hmachine, hmachine, .inl rfl⟩, ?_⟩
      have hname : ':' ∉ localName := by decide
      have haddress : ':' ∉ localAddress := by decide
      simp only [loggedIn, Option.getD_some, password_append hname, password_append haddress]
  · -- the name is the host
    have hname (c : Char) (hc : c ∈ localName) :=
      (isNameChar_spec (isNameChar_localName c hc)).2.2.2.1
    have haddress (c : Char) (hc : c ∈ localAddress) :=
      (isNameChar_spec (isNameChar_localAddress c hc)).2.2.2.1
    rw [place?_name hspecial (by decide) hname hat htail,
      place?_name hspecial (by decide) haddress hat htail, parse?_localName, parse?_localAddress]
    cases readPort? scheme (splitPort false tail).2 with
    | none => exact .none
    | some port => exact .some ⟨⟨_, _, rfl, rfl, .inr ⟨rfl, rfl⟩⟩, rfl⟩

/-- Behind a name that ends, an authority goes on with a port or by ending who logs in. -/
lemma head?_authority (htail : ∀ ch ∈ tail.head?, endsName ch) :
    ∀ ch ∈ (cutAt (endsAuthority true) tail).1.head?, ch = ':' ∨ ch = '@' := by
  cases tail with
  | nil => simp [cutAt]
  | cons ch tail =>
    have hch := htail ch rfl
    cases hends : endsAuthority true ch with
    | true => simp [cutAt, hends]
    | false => simpa [cutAt, hends, endsName] using hch

/-- Where the name ends, the address stands for it in whatever is read. -/
lemma readAuthority?_local (hspecial : isSpecial scheme = true)
    (htail : ∀ ch ∈ tail.head?, endsName ch) :
    Option.Rel LeadsAs (readAuthority? scheme (localName ++ tail))
      (readAuthority? scheme (localAddress ++ tail)) := by
  have hname (c : Char) (hc : c ∈ localName) := (isNameChar_spec (isNameChar_localName c hc)).2.2.1
  have haddress (c : Char) (hc : c ∈ localAddress) :=
    (isNameChar_spec (isNameChar_localAddress c hc)).2.2.1
  rw [readAuthority?_of_isSpecial hspecial, readAuthority?_of_isSpecial hspecial,
    cutAt_append_of_forall hname, cutAt_append_of_forall haddress]
  exact LeadsAs.map_afterAuthority (place?_local hspecial (head?_authority htail)) _

/-- Whatever is read leads where it leads. -/
lemma readAuthority?_leadsAs (hspecial : isSpecial scheme = true) (cs : List Char) :
    Option.Rel LeadsAs (readAuthority? scheme cs) (readAuthority? scheme cs) := by
  rw [readAuthority?_of_isSpecial hspecial]
  cases h : place? scheme (cutAt (endsAuthority true) cs).1 with
  | none => exact .none
  | some u => exact .some ((LeadsAs.refl (scheme_of_place? h).2).afterAuthority _)

/-! ### Addresses -/

/-- If a server setting starts with the name, the name ends there. -/
def LocalEnds (server : String) : Prop :=
  ∀ tail, behindScheme server = localName ++ tail →
    ∀ ch ∈ (tail.filter (!isBreak ·)).head?, endsName ch

section Texts

variable {server : String}

lemma serverText_of_local (c : Config) (h : behindScheme server = localName ++ tail) :
    ({ c with server }).serverText
      = localName ++ (tail.rdropWhile (· = '/')).filter (!isBreak ·) := by
  rw [serverText, hostPart_eq, h, rdropWhile_append_of_eq_self (by decide), List.filter_append]
  rfl

lemma serverText_withServer (c : Config) (h : behindScheme server = localName ++ tail) :
    (c.withServer server).serverText
      = localAddress ++ (tail.rdropWhile (· = '/')).filter (!isBreak ·) := by
  rw [serverText, withServer, hostPart_eq, behindScheme_normalizeServer, h, replaceLocal_append,
    rdropWhile_append_of_eq_self (by decide), List.filter_append]
  rfl

/-- What the slash behind a server setting is added to ends a name, or the slash does. -/
lemma head?_behind (more : List Char) (h : ∀ ch ∈ (tail.filter (!isBreak ·)).head?, endsName ch) :
    ∀ ch ∈ ((tail.rdropWhile (· = '/')).filter (!isBreak ·) ++ '/' :: more).head?, endsName ch := by
  obtain ⟨slashes, hslashes⟩ := List.rdropWhile_prefix (· = '/') tail
  intro ch hch
  cases htext : (tail.rdropWhile (· = '/')).filter (!isBreak ·) with
  | nil =>
    rw [htext] at hch
    obtain rfl : '/' = ch := Option.some.inj hch
    rfl
  | cons first others =>
    rw [htext] at hch
    refine h ch ?_
    rw [← hslashes, List.filter_append, htext]
    exact hch

/-- With the address for the name, the two server settings are read alike. -/
lemma LocalEnds.reads (h : LocalEnds server) (c : Config) (hspecial : isSpecial scheme = true)
    (more : List Char) :
    Option.Rel LeadsAs
      (readAuthority? scheme (dropSlashes (({ c with server }).serverText ++ '/' :: more)))
      (readAuthority? scheme (dropSlashes ((c.withServer server).serverText ++ '/' :: more))) := by
  rcases replaceLocal_cases (behindScheme server) with ⟨tail, hname, -⟩ | ⟨-, hcs⟩
  · rw [serverText_of_local c hname, serverText_withServer c hname, List.append_assoc,
      List.append_assoc]
    exact readAuthority?_local hspecial (head?_behind more (h tail hname))
  · rw [withServer, normalizeServer_of_not_local hcs]
    exact readAuthority?_leadsAs hspecial _

end Texts

/-! ### Longer names -/

section Longer

variable {name more : List Char}

/-- What follows a longer name does not change which machine it is. -/
lemma exists_host_of_readAuthority? (hspecial : isSpecial scheme = true) (hnonempty : name ≠ [])
    (hname : ∀ c ∈ name, isNameChar c) (htail : ∀ ch ∈ tail.head?, endsName ch)
    (hat : '@' ∉ (cutAt (endsAuthority true) tail).1) {u : Url}
    (h : readAuthority? scheme (name ++ tail) = some u) :
    ∃ host, Host.parse? name = some host ∧ u.host = some host := by
  have hcut := cutAt_append_of_forall (fun c hc => (isNameChar_spec (hname c hc)).2.2.1) tail
  rw [readAuthority?_of_isSpecial hspecial, hcut, place?_name hspecial hnonempty
    (fun c hc => (isNameChar_spec (hname c hc)).2.2.2.1) hat (head?_authority htail)] at h
  obtain ⟨place, hplace, rfl⟩ := Option.map_eq_some_iff.1 h
  obtain ⟨host, hhost, hplace⟩ := Option.bind_eq_some_iff.1 hplace
  obtain ⟨port, -, rfl⟩ := Option.map_eq_some_iff.1 hplace
  exact ⟨host, hhost, host_afterAuthority _ _⟩

/-- A name that goes on behind that of the own machine is of another machine than the address that
goes on alike. -/
lemma not_sameMachine_of_longer (hnonempty : more ≠ []) (hmore : ∀ c ∈ more, isNameChar c)
    {h h' : Host} (hh : Host.parse? (localName ++ more) = some h)
    (hh' : Host.parse? (localAddress ++ more) = some h') : ¬h.SameMachine h' := by
  have hparse {front : List Char} (hfront : ∀ c ∈ front, isNameChar c) {host : Host}
      (hhost : Host.parse? (front ++ more) = some host) :=
    have hall : ∀ c ∈ front ++ more, isNameChar c := List.forall_mem_append.2 ⟨hfront, hmore⟩
    Host.parse?_of_isAscii
      (List.all_eq_true.2 fun c hc => decide_eq_true (isNameChar_spec (hall c hc)).2.1)
      (fun hmem => (isNameChar_spec (hall _ hmem)).2.2.2.2 rfl)
      (fun hhead => (isNameChar_spec (hall _ (List.mem_of_mem_head? hhead))).2.2.2.1 (by decide))
      hhost
  rcases hparse isNameChar_localName hh with rfl | ⟨address, haddress, -⟩
  · rintro (rfl | ⟨hname, -⟩)
    · rcases hparse isNameChar_localAddress hh' with hdomain | ⟨address, -, hdomain⟩
      · -- the names start with different characters
        have htext := String.ofList_injective (Host.domain.inj hdomain)
        have hhead : some 'l' = some '1' := congrArg List.head? htext
        simp at hhead
      · cases hdomain
    · have htext := congrArg String.length (Host.domain.inj hname)
      rw [String.length_ofList, List.length_map, List.length_append] at htext
      have hlength : localName.length = "localhost".length := by decide
      exact hnonempty (List.length_eq_zero_iff.1 (by omega))
  · -- no address starts with a letter
    have hletter := Host.ipv4?_of_hexValue? (c := 'l') rfl (by decide)
      (("ocalhost".toList ++ more).map Char.toLower)
    exact absurd (haddress.symm.trans hletter) (Option.some_ne_none address)

end Longer

/-- The host of a server setting is a longer name that starts like that of the own machine. -/
def IsLongerName (server : String) : Prop :=
  ∃ more tail, behindScheme server = localName ++ (more ++ tail) ∧ more ≠ [] ∧
    (∀ c ∈ more, isNameChar c) ∧ (∀ ch ∈ tail.head?, ch = ':' ∨ ch = '/') ∧ '@' ∉ tail

/-- With the start of a longer name replaced, what is read leads to another machine. -/
lemma IsLongerName.reads {server : String} (h : IsLongerName server) (c : Config)
    (hspecial : isSpecial scheme = true) (rest : List Char) {u u' : Url}
    (hu : readAuthority? scheme (dropSlashes (({ c with server }).serverText ++ '/' :: rest))
      = some u)
    (hu' : readAuthority? scheme (dropSlashes ((c.withServer server).serverText ++ '/' :: rest))
      = some u') : ¬u.SameMachine u' := by
  obtain ⟨more, tail, hname, hnonempty, hmore, htail, hat⟩ := h
  have hplain (c : Char) (hc : c ∈ more) := isNameChar_spec (hmore c hc)
  have hslash : more.rdropWhile (· = '/') = more := by
    refine List.rdropWhile_eq_self_iff.2 fun hne hlast => ?_
    have hends := (hplain _ (List.getLast_mem hne)).2.2.1
    rw [of_decide_eq_true hlast] at hends
    cases hends
  have htext : ((more ++ tail).rdropWhile (· = '/')).filter (!isBreak ·)
      = more ++ (tail.rdropWhile (· = '/')).filter (!isBreak ·) := by
    rw [rdropWhile_append_of_eq_self hslash, List.filter_append,
      filter_isBreak_eq_self fun c hc => (hplain c hc).1]
  have hends : ∀ ch ∈ (tail.filter (!isBreak ·)).head?, endsName ch := by
    intro ch hch
    cases tail with
    | nil => cases hch
    | cons first tail =>
      rcases htail first rfl with rfl | rfl
      · obtain rfl : ':' = ch := Option.some.inj hch
        rfl
      · obtain rfl : '/' = ch := Option.some.inj hch
        rfl
  have hat' : '@' ∉ (cutAt (endsAuthority true)
      ((tail.rdropWhile (· = '/')).filter (!isBreak ·) ++ '/' :: rest)).1 := by
    rw [cutAt_append (by decide)]
    intro hmem
    have hfiltered := List.mem_of_mem_filter (List.takeWhile_subset _ hmem)
    exact hat ((List.rdropWhile_prefix _ tail).subset hfiltered)
  have hlocal : ∀ c ∈ localName ++ more, isNameChar c :=
    List.forall_mem_append.2 ⟨isNameChar_localName, hmore⟩
  have haddress : ∀ c ∈ localAddress ++ more, isNameChar c :=
    List.forall_mem_append.2 ⟨isNameChar_localAddress, hmore⟩
  rw [serverText_of_local c hname, htext, ← List.append_assoc, List.append_assoc] at hu
  rw [serverText_withServer c hname, htext, ← List.append_assoc, List.append_assoc] at hu'
  obtain ⟨host, hhost, huhost⟩ := exists_host_of_readAuthority? hspecial
    (List.append_ne_nil_of_left_ne_nil (by decide) more) hlocal (head?_behind rest hends) hat' hu
  obtain ⟨host', hhost', huhost'⟩ := exists_host_of_readAuthority? hspecial
    (List.append_ne_nil_of_left_ne_nil (by decide) more) haddress (head?_behind rest hends) hat' hu'
  rintro ⟨machine, machine', hmachine, hmachine', hsame⟩
  obtain rfl := Option.some.inj (huhost.symm.trans hmachine)
  obtain rfl := Option.some.inj (huhost'.symm.trans hmachine')
  exact not_sameMachine_of_longer hnonempty hmore hhost hhost' hsame

/-! ### The setting -/

lemma httpBase?_withServer (c : Config) (server : String) :
    (c.withServer server).httpBase? = readAuthority? ({ c with server }).httpScheme
      (dropSlashes ((c.withServer server).serverText ++ ['/'])) := by
  rw [httpBase?_eq, httpScheme, tls_withServer]
  rfl

lemma channelUrl?_withServer (c : Config) (server : String) :
    (c.withServer server).channelUrl? = readAuthority? ({ c with server }).channelScheme
      (dropSlashes ((c.withServer server).serverText ++ '/' :: (c.roomText ++ ['/']))) := by
  rw [channelUrl?_eq, channelScheme, tls_withServer]
  rfl

/-- A server setting is kept as it is but for the own machine, which is called by its address, if
and only if its host does not start with that name and go on. In any case what is replaced is the
name where it starts the host, and replacing again changes nothing. Where the name ends, both
addresses lead to the machine that the setting names; where a longer name starts like it, both lead
to another one. -/
theorem server_localized_iff (c : Config) (server : String) :
    (Localized server (c.withServer server).server ↔ ¬StartsLikeLocal server) ∧
      (∀ tail, behindScheme server = localName ++ tail → (c.withServer server).server
        = String.ofList (schemeText server ++ localAddress ++ tail)) ∧
      (c.withServer server).withServer (c.withServer server).server = c.withServer server ∧
      (LocalEnds server →
        Option.Rel LeadsAs ({ c with server }).httpBase? (c.withServer server).httpBase? ∧
        Option.Rel LeadsAs ({ c with server }).channelUrl? (c.withServer server).channelUrl?) ∧
      (IsLongerName server →
        (∀ u ∈ ({ c with server }).httpBase?, ∀ u' ∈ (c.withServer server).httpBase?,
          ¬u.SameMachine u') ∧
        ∀ u ∈ ({ c with server }).channelUrl?, ∀ u' ∈ (c.withServer server).channelUrl?,
          ¬u.SameMachine u') := by
  have hhttp : isSpecial ({ c with server }).httpScheme = true :=
    isSpecial_of_mem (httpScheme_mem _)
  have hchannel : isSpecial ({ c with server }).channelScheme = true :=
    isSpecial_of_mem (channelScheme_mem _)
  rw [httpBase?_eq, httpBase?_withServer, channelUrl?_eq, channelUrl?_withServer]
  refine ⟨localized_iff server, fun tail => normalizeServer_of_local, ?_, fun hends => ?_,
    fun hlonger => ?_⟩
  · rw [withServer, withServer, normalizeServer_idem]
  · exact ⟨hends.reads c hhttp [], hends.reads c hchannel _⟩
  · exact ⟨fun u hu u' hu' => hlonger.reads c hhttp [] hu hu',
      fun u hu u' hu' => hlonger.reads c hchannel _ hu hu'⟩

/-- The own machine with a port, reached encrypted and not at its root. -/
theorem server_localized_iff_port :
    let c : Config := {}
    let server := "wss://localhost:7000/geo"
    LocalEnds server ∧
      Option.Rel LeadsAs ({ c with server }).channelUrl? (c.withServer server).channelUrl? ∧
      (c.withServer server).channelUrl? = some
        { scheme := "wss", host := some (.ipv4 0x7F000001), port := some 7000,
          path := .segments ["geo", "default", ""] } := by
  intro c server
  have hends : LocalEnds server := by
    intro tail htail ch hch
    have hbehind : behindScheme server = localName ++ ":7000/geo".toList := by decide +kernel
    obtain rfl := List.append_cancel_left (hbehind.symm.trans htail)
    obtain rfl : ':' = ch := Option.some.inj hch
    rfl
  exact ⟨hends, ((server_localized_iff c server).2.2.2.1 hends).2, by decide +kernel⟩

/-- The start of a longer name is replaced, and requests go to another machine. -/
theorem not_localized_always :
    let c : Config := {}
    let server := "localhost.example.com"
    ¬Localized server (c.withServer server).server ∧
      ∃ named reached, ({ c with server }).httpBase? = some named ∧
        (c.withServer server).httpBase? = some reached ∧ ¬named.SameMachine reached := by
  intro c server
  let named : Url := { scheme := "http", host := some (.domain server), path := .segments [""] }
  let reached : Url := { named with host := some (.domain "127.0.0.1.example.com") }
  have hbehind : behindScheme server = localName ++ '.' :: "example.com".toList := by decide +kernel
  refine ⟨fun hlocal => ?_, named, reached, by decide +kernel, by decide +kernel, ?_⟩
  · exact (localized_iff server).1 hlocal ⟨'.', _, hbehind, by decide, by decide⟩
  · rintro ⟨host, host', hhost, hhost', hsame⟩
    cases hhost
    cases hhost'
    revert hsame
    unfold Host.SameMachine
    decide

end Config

end MeshRoom
