import MeshRoom.Url.Path

/-!
# Reading addresses

An address is read on its own or as a reference from another one. Blanks around it and line breaks
inside are dropped first. In the special schemes a backslash counts as a slash; there any number of
slashes behind a scheme leads to the authority, while in a reference two slashes do, so that a third
one leaves the authority empty. File addresses have rules of their own for hosts and drives.
-/

namespace MeshRoom.Url

/-! ### Cleaning -/

/-- A control character or a space, which does not count at either end. -/
def isEdge (c : Char) : Bool := c.toNat ≤ 0x20

/-- A tab or line break, which does not count anywhere. -/
def isBreak (c : Char) : Bool := c = '\t' || c = '\n' || c = '\r'

/-- The characters that count. -/
def clean (input : String) : List Char :=
  ((input.toList.dropWhile isEdge).reverse.dropWhile isEdge).reverse.filter (!isBreak ·)

/-! ### Splitting -/

def isSchemeChar (c : Char) : Bool := c.isAlphanum || c = '+' || c = '-' || c = '.'

/-- The scheme in lower case and what follows its colon. -/
def splitScheme? (cs : List Char) : Option (String × List Char) :=
  let name := cs.takeWhile isSchemeChar
  match name, cs.dropWhile isSchemeChar with
  | c :: _, ':' :: rest =>
    if c.isAlpha then some (String.ofList (name.map Char.toLower), rest) else none
  | _, _ => none

/-- Where an authority ends. -/
def endsAuthority (special : Bool) (c : Char) : Bool := isSlash special c || c = '?' || c = '#'

/-- A text cut at its last at-sign, if it has one. -/
def splitUser (cs : List Char) : Option (List Char) × List Char :=
  let host := (cs.reverse.takeWhile (· ≠ '@')).reverse
  match cs.reverse.dropWhile (· ≠ '@') with
  | [] => (none, host)
  | _ :: user => (some user.reverse, host)

/-- A text cut at its first colon outside brackets, if it has one. -/
def splitPort (inBrackets : Bool) : List Char → List Char × Option (List Char)
  | [] => ([], none)
  | c :: cs =>
    if c = ':' ∧ !inBrackets then ([], some cs)
    else
      let (host, port) := splitPort (if c = '[' then true else if c = ']' then false else inBrackets) cs
      (c :: host, port)

/-- The text up to the first character that passes, and the rest. -/
def cutAt (p : Char → Bool) (cs : List Char) : List Char × List Char :=
  (cs.takeWhile (!p ·), cs.dropWhile (!p ·))

/-! ### Query and fragment -/

/-- An address with the query and the fragment of what follows its path. -/
def withTail (u : Url) (tail : List Char) : Url :=
  let (queryText, fragmentText) := cutAt (· = '#') tail
  let encodeQuery (cs : List Char) :=
    String.ofList (Percent.encode (Percent.inQuery (isSpecial u.scheme)) cs)
  let query := match queryText with
    | [] => none
    | _ :: cs => some (encodeQuery cs)
  let fragment := match fragmentText with
    | [] => none
    | _ :: cs => some (String.ofList (Percent.encode Percent.inFragment cs))
  { u with query, fragment }

/-- An address with the path that raw text leads to from a path, and what follows it. -/
def withPath (u : Url) (path : List String) (cs : List Char) : Url :=
  let (pathText, tail) := cutAt endsPath cs
  withTail { u with path := .segments (resolve u.scheme path pathText) } tail

/-- What follows an authority: a path, if there is one. In the special schemes there always is. -/
def afterAuthority (u : Url) (cs : List Char) : Url :=
  match cs with
  | [] => if isSpecial u.scheme then withPath u [""] cs else u
  | c :: rest =>
    if isSlash (isSpecial u.scheme) c then withPath u [""] rest
    else if isSpecial u.scheme || !endsPath c then withPath u [""] cs
    else withTail u cs

/-! ### Authorities -/

/-- The port a text names, nothing if it is empty or the default of the scheme. -/
def port? (scheme : String) (digits : List Char) : Option (Option Nat) :=
  if digits = [] then some none
  else
    match Host.number? 10 digits with
    | some p => if 65535 < p then none else some (if defaultPort? scheme = some p then none else p)
    | none => none

/-- User name and password, cut at the first colon. -/
def credentials (user : List Char) : String × String :=
  let part (cs : List Char) := String.ofList (Percent.encode Percent.inUserInfo cs)
  let (name, rest) := cutAt (· = ':') user
  (part name, part (rest.drop 1))

/-- The host that a text names. It may be empty outside the special schemes, if neither a user nor a
port comes with it. -/
def host? (scheme : String) (bare : Bool) (text : List Char) : Option Host :=
  if isSpecial scheme then if text = [] then none else Host.parse? text
  else if text = [] ∧ !bare then none
  else Host.parseVerbatim? text

/-- An address whose authority comes next. A path may follow a port behind a backslash, in any
scheme. -/
def readAuthority? (scheme : String) (cs : List Char) : Option Url := do
  let (authority, rest) := cutAt (endsAuthority (isSpecial scheme)) cs
  let (user, hostPort) := splitUser authority
  let (username, password) := credentials (user.getD [])
  let (hostText, portText) := splitPort false hostPort
  let (digits, spill) := cutAt (!Char.isDigit ·) (portText.getD [])
  let bare := portText.isNone && username.isEmpty && password.isEmpty
  if user = some [] ∧ hostPort = [] ∧ rest ≠ [] then none
  else if spill ≠ [] ∧ spill.head? ≠ some '\\' then none
  else
    let host ← host? scheme bare hostText
    let port ← port? scheme digits
    some (afterAuthority { scheme, username, password, host := some host, port } (spill ++ rest))

/-- The characters after any slashes. -/
def dropSlashes (cs : List Char) : List Char := cs.dropWhile (isSlash true)

/-- Whether two slashes come next, of either kind. -/
def startsAuthority (cs : List Char) : Bool := (cs.takeWhile (isSlash true)).length ≥ 2

/-! ### Files -/

/-- The address of the root, on the own machine. -/
def fileRoot : Url := { scheme := "file", host := some (.domain ""), path := .segments [""] }

/-- A file address whose host comes next. No host is the own machine, and a drive is no host; where
the path opens with a drive, the host does not count. -/
def readFileHost? (cs : List Char) : Option Url := do
  let (hostText, rest) := cutAt (endsAuthority true) cs
  if isDrive hostText then some (withPath fileRoot [""] cs)
  else if hostText = [] then some (withPath fileRoot [""] rest)
  else
    let host ← Host.parse? hostText
    if host = .domain "localhost" then some (withPath fileRoot [""] rest)
    else
      let hasDrive := meetsDrive [""] (segmentsOf true ((cutAt endsPath rest).1.drop 1))
      some (afterAuthority { fileRoot with host := if hasDrive then fileRoot.host else host } rest)

/-- A file address whose path comes next, from the root. It keeps the drive of the address it is
read from, or else the host, unless it starts with a drive. -/
def readFilePath (base : Option Url) (cs : List Char) : Url :=
  match base with
  | none => withPath fileRoot [""] cs
  | some b =>
    if startsDrive cs then withPath fileRoot [""] cs
    else
      match b.path with
      | .segments (first :: _) =>
        if isPlainDrive first then withPath fileRoot [first, ""] cs
        else withPath { fileRoot with host := b.host } [""] cs
      | _ => withPath { fileRoot with host := b.host } [""] cs

/-! ### References -/

/-- The path of an address, none if it is rootless. -/
def segments? (u : Url) : Option (List String) :=
  match u.path with
  | .segments path => some path
  | .rootless _ => none

/-- What follows a path, in place of what an address has behind its own. -/
def readTail (base : Url) (cs : List Char) : Url :=
  match cs with
  | '#' :: _ => { withTail base cs with query := base.query }
  | [] => { base with fragment := none }
  | _ => withTail base cs

/-- A file address, from another one if one is given. -/
def readFile? (base : Option Url) (cs : List Char) : Option Url :=
  match cs with
  | [] => some (base.elim fileRoot (readTail · cs))
  | c :: rest =>
    if startsAuthority cs then readFileHost? (rest.drop 1)
    else if isSlash true c then some (readFilePath base rest)
    else
      match base with
      | none => some (withPath fileRoot [""] cs)
      | some b =>
        if endsPath c then some (readTail b cs)
        else if startsDrive cs then some (withPath fileRoot [""] cs)
        else some (withPath b (reopen true ((segments? b).getD [""])) cs)

/-- A reference without a scheme, from an address that is no file. After two slashes there is an
authority, and if one of them is a backslash any further slashes are passed over. -/
def readRelative? (base : Url) (cs : List Char) : Option Url :=
  match cs with
  | [] => some (readTail base cs)
  | c :: rest =>
    if endsPath c then some (readTail base cs)
    else if startsAuthority cs then
      readAuthority? base.scheme (if c = '/' ∧ rest.head? = some '/' then rest.drop 1 else dropSlashes cs)
    else if isSlash true c then some (withPath base [""] rest)
    else some (withPath base (reopen false ((segments? base).getD [""])) cs)

/-- An address of a scheme that is not special. -/
def readOther? (scheme : String) (cs : List Char) : Option Url :=
  match cs with
  | '/' :: '/' :: rest => readAuthority? scheme rest
  | '/' :: rest => some (withPath { scheme } [""] rest)
  | _ =>
    let (pathText, tail) := cutAt endsPath cs
    let path := .rootless (String.ofList (Percent.encode Percent.isControl pathText))
    some (withTail { scheme, path } tail)

/-- An address of a special scheme, from one of the same scheme if one is given and no authority
comes next. -/
def readSpecial? (base : Option Url) (scheme : String) (cs : List Char) : Option Url :=
  match base.filter fun b => b.scheme = scheme && !startsAuthority cs with
  | some b => readRelative? b cs
  | none => readAuthority? scheme (dropSlashes cs)

/-- A reference without a scheme. -/
def readReference? (base : Url) (cs : List Char) : Option Url :=
  match base.path, cs with
  | _, '#' :: _ => some (readTail base cs)
  | .rootless _, _ => none
  | .segments _, _ => if base.scheme = "file" then readFile? base cs else readRelative? base cs

/-! ### Reading -/

/-- Read an address, relative to another one if one is given. -/
def read? (base : Option Url) (input : String) : Option Url :=
  let cs := clean input
  match splitScheme? cs with
  | none => base.bind (readReference? · cs)
  | some (scheme, rest) =>
    if scheme = "file" then readFile? (base.filter fun b => b.scheme = "file") rest
    else if isSpecial scheme then readSpecial? base scheme rest
    else readOther? scheme rest

/-- Read an address on its own. -/
def parse? (input : String) : Option Url := read? none input

/-- Read a reference from an address. -/
def join? (base : Url) (reference : String) : Option Url := read? (some base) reference

end MeshRoom.Url
