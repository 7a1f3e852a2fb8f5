import Draft6.Url.Host
import Draft6.Url.Path

/-!
# Reading URLs

A text is cut into scheme, hierarchy, query and fragment first. What a missing scheme or a short
hierarchy leaves open comes from the base. So a reference that is only a fragment keeps all of the
base but its fragment.
-/

namespace Draft6

namespace Url

/-- The parts of a text that is read as a URL, before any of them is understood. Only the hierarchy
keeps its tabs and ends of line. -/
structure Reference where
  scheme : Option String
  hierarchy : List Char
  query : Option (List Char)
  fragment : Option (List Char)
deriving DecidableEq, Repr

/-- A text without the tabs and ends of line in front. -/
def dropBreaks (cs : List Char) : List Char := cs.dropWhile isBreak

namespace Reference

/-- A text without the blanks and control characters at its ends. -/
def trim (cs : List Char) : List Char :=
  ((cs.dropWhile (· ≤ ' ')).reverse.dropWhile (· ≤ ' ')).reverse

/-- The scheme in front of a text, in lower case, and what follows its colon. -/
def cutScheme? (cs : List Char) : Option (String × List Char) :=
  match Text.cut ':' cs with
  | (_, none) => none
  | (before, some rest) =>
    let scheme := withoutBreaks before
    if (scheme.head?.map Char.isAlpha).getD false ∧
        scheme.all fun c => c.isAlphanum || ['+', '-', '.'].contains c then
      some (String.ofList (scheme.map Char.toLower), rest)
    else none

/-- Cut a text into its parts. -/
def read (text : String) : Reference :=
  let (beforeFragment, fragment) := Text.cut '#' (trim text.toList)
  let (address, query) := Text.cut '?' beforeFragment
  let (scheme, hierarchy) := match cutScheme? address with
    | some (scheme, hierarchy) => (some scheme, hierarchy)
    | none => (none, address)
  ⟨scheme, dropBreaks hierarchy, query.map withoutBreaks, fragment.map withoutBreaks⟩

/-- Whether nothing is given but a fragment. -/
def isFragmentOnly (r : Reference) : Bool :=
  r.hierarchy.isEmpty && r.query.isNone && r.fragment.isSome

/-- Put the query and the fragment of a reference onto the URL that its hierarchy gives. -/
def finish (r : Reference) (u : Url) : Url :=
  { u with
    query := match r.query with
      | some cs => some (String.ofList
          (Percent.encode (querySet (Kind.of u.scheme).isSpecial) cs))
      | none => u.query
    fragment := r.fragment.map encodeFragment }

end Reference

/-- Whether a character is a slash of either direction. -/
def isAnySlash (c : Char) : Bool := c = '/' || c = '\\'

/-- The slashes of either direction in front of a text, and what follows them. -/
def cutSlashes : List Char → List Char × List Char
  | [] => ([], [])
  | c :: rest =>
    if isBreak c then cutSlashes rest
    else if isAnySlash c then
      let (slashes, rest) := cutSlashes rest
      (c :: slashes, rest)
    else ([], c :: rest)

/-- Cut a text at its last at sign. -/
def cutCredentials? (cs : List Char) : Option (List Char × List Char) :=
  if cs.contains '@' then
    let reversed := cs.reverse
    some ((reversed.dropWhile (· ≠ '@')).tail.reverse, (reversed.takeWhile (· ≠ '@')).reverse)
  else none

/-- The normal form of a user name and password, with the at sign. -/
def credentialsText (cs : List Char) : String :=
  let (name, password?) := Text.cut ':' cs
  let name := Percent.encode credentialSet name
  let password := match password? with
    | none | some [] => []
    | some password => ':' :: Percent.encode credentialSet password
  if name.isEmpty ∧ password.isEmpty then "" else String.ofList (name ++ password ++ ['@'])

/-- Cut a text at its first colon outside brackets. -/
def cutPort (inBrackets : Bool) : List Char → List Char × Option (List Char)
  | [] => ([], none)
  | c :: rest =>
    if c = ':' ∧ inBrackets = false then ([], some rest)
    else
      let (host, port?) := cutPort (c = '[' || (c ≠ ']' && inBrackets)) rest
      (c :: host, port?)

/-- The number that the digits of a port denote. -/
def portNumber? (digits : List Char) : Except UrlError Nat :=
  match Host.digitsNumber? 10 digits with
  | some port => if port < 65536 then .ok port else .error .invalidPort
  | none => .error .invalidPort

/-- Read a port up to a slash, and what follows it. A port that the scheme implies is left out. -/
def readPort (scheme : String) (cs : List Char) : Except UrlError (Option Nat × List Char) := do
  let digits := cs.takeWhile fun c => !isAnySlash c
  let port ← portNumber? digits
  let implied := digits.isEmpty || defaultPort? scheme = some port
  pure (if implied then none else some port, cs.dropWhile fun c => !isAnySlash c)

/-- Read an authority, and what follows it. Nothing but an at sign stands only at the very end. -/
def readAuthority (scheme : String) (hasMore : Bool) (cs : List Char) :
    Except UrlError (Authority × List Char) := do
  let kind := Kind.of scheme
  let inside := withoutBreaks (cs.takeWhile fun c => !kind.isSlash c)
  let after := cs.dropWhile fun c => !kind.isSlash c
  let (credentials, address) := (cutCredentials? inside).getD ([], inside)
  let (host, port?) := cutPort false address
  if inside = ['@'] ∧ (after ≠ [] ∨ hasMore) then .error .emptyHost
  if host = [] ∧ (kind.isSpecial ∨ port? ≠ none) then .error .emptyHost
  let host ← if kind.isSpecial then Host.domain? host else Host.text? host
  let (port, rest) ← match port? with
    | none => pure (none, [])
    | some digits => readPort scheme digits
  let credentials := credentialsText credentials
  if credentials ≠ "" ∧ host = "" then .error .emptyHost
  pure (⟨credentials, host, port⟩, rest ++ after)

/-- The path that follows an authority. Only a scheme that is not special may have an empty one. -/
def pathAfterAuthority (kind : Kind) (cs : List Char) : String :=
  let cs := match cs with
    | [] => if kind.isSpecial then ['/'] else []
    | c :: rest => if kind.isSlash c then c :: rest else '/' :: c :: rest
  (Path.read kind "" cs).text

namespace Reference

/-- The URL of a scheme whose authority begins a text. -/
def withAuthority (r : Reference) (scheme : String) (cs : List Char) : Except UrlError Url := do
  let (authority, rest) ← readAuthority scheme (r.query.isSome || r.fragment.isSome) cs
  pure ⟨scheme, some authority, pathAfterAuthority (Kind.of scheme) rest, none, none⟩

/-- The URL that a hierarchy without a scheme gives on a base that is no file. Of several slashes in
front only two belong to the authority if they are plain slashes. -/
def onBase (r : Reference) (base : Url) : Except UrlError Url :=
  let kind := Kind.of base.scheme
  let path (start : String) (cs : List Char) : Url :=
    { base with path := (Path.read kind start cs).text, query := none }
  if r.hierarchy.isEmpty then pure base
  else match cutSlashes r.hierarchy with
    | ([], _) =>
      let folder := Path.folder kind base.path
      pure (path (if folder = "" then "/" else folder) r.hierarchy)
    | ([_], rest) => pure (path "/" rest)
    | ('/' :: '/' :: more, rest) => r.withAuthority base.scheme (more ++ rest)
    | (_, rest) => r.withAuthority base.scheme rest

/-- A URL of the file scheme. There is no host in front of a drive letter. -/
def file (host : String) (path : Path.Read) : Url :=
  ⟨"file", some ⟨"", if path.hasDrive then "" else host, none⟩, path.text, none, none⟩

/-- The URL that two slashes and a text give for the file scheme. The name of the local host goes
away. Where no host is named, one slash more stands in front of the path. -/
def fileWithHost (cs : List Char) : Except UrlError Url := do
  let name := withoutBreaks (cs.takeWhile fun c => !isAnySlash c)
  if name = [] ∨ Path.isDrive name then pure (file "" (Path.read .file "/" cs))
  else
    let host ← Host.domain? name
    let path := Path.read .file "" (cs.dropWhile fun c => !isAnySlash c)
    pure (file (if host = "localhost" then "" else host) path)

/-- The host of a URL. -/
def hostOf (u : Url) : String := (u.authority.map Authority.host).getD ""

/-- The URL of the file scheme that a hierarchy gives without a base. -/
def asFile (hierarchy : List Char) : Url := file "" (Path.read .file "/" hierarchy)

/-- The URL that a hierarchy gives for the file scheme, perhaps on a base of that scheme. -/
def onFile (r : Reference) (base? : Option Url) : Except UrlError Url :=
  match cutSlashes r.hierarchy, base? with
  | (_ :: _ :: _, _), _ => fileWithHost ((dropBreaks r.hierarchy.tail).tail)
  | ([_], rest), some base =>
    if Path.startsWithDrive (withoutBreaks rest) then pure (asFile rest)
    else match Path.drive? base.path with
      | some drive => pure (file "" (Path.read .file ("/" ++ drive) ('/' :: rest)))
      | none =>
        pure ⟨"file", some ⟨"", hostOf base, none⟩, (Path.read .file "/" rest).text, none, none⟩
  | ([], _), some base =>
    if r.hierarchy.isEmpty then pure base
    else if Path.startsWithDrive (withoutBreaks r.hierarchy) then pure (asFile r.hierarchy)
    else
      let folder := Path.folder .file base.path
      pure { base with path := (Path.read .file folder r.hierarchy).text, query := none }
  | (_, rest), none => pure (asFile rest)

/-- The URL that a scheme and a hierarchy give. A base of the same special scheme serves a hierarchy
that does not begin with two slashes. -/
def onScheme (r : Reference) (base? : Option Url) (scheme : String) : Except UrlError Url :=
  match Kind.of scheme with
  | .file => r.onFile (base?.filter fun base => base.scheme = scheme)
  | .special =>
    let (slashes, rest) := cutSlashes r.hierarchy
    match base?.filter fun base => base.scheme = scheme with
    | some base =>
      if slashes.length < 2 then r.onBase base else r.withAuthority scheme rest
    | none => r.withAuthority scheme rest
  | .other =>
    match withoutBreaks r.hierarchy with
    | '/' :: '/' :: rest => r.withAuthority scheme rest
    | '/' :: rest => pure ⟨scheme, none, (Path.read .other "/" rest).text, none, none⟩
    | cs => pure ⟨scheme, none, String.ofList (Percent.encode controlSet cs), none, none⟩

/-- The URL that a reference gives without a base, or on one. -/
def resolve (r : Reference) (base? : Option Url) : Except UrlError Url :=
  r.finish <$> match r.scheme, base? with
    | some scheme, _ => r.onScheme base? scheme
    | none, none => .error .relativeWithoutBase
    | none, some base =>
      if r.isFragmentOnly then pure base
      else if base.isRootless then .error .relativeWithRootlessBase
      else if Kind.of base.scheme = .file then r.onFile (some base)
      else r.onBase base

end Reference

/-- The URL that a text stands for by itself. -/
def parse? (text : String) : Except UrlError Url := (Reference.read text).resolve none

/-- The URL that a text stands for in a document with some base. -/
def join? (base : Url) (text : String) : Except UrlError Url :=
  (Reference.read text).resolve (some base)

end Url

end Draft6
