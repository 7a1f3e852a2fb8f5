import Draft6.Text.Percent

/-!
# URLs

A URL in its normal form: a scheme in lower case, perhaps an authority, a path, and perhaps a query
and a fragment. Its parts hold text that is encoded already, so that the text of a URL is its parts
with the marks between them.
-/

namespace Draft6

/-- Why a text is not a URL. -/
inductive UrlError where
  | emptyHost
  | invalidDomainName
  | invalidPort
  | invalidIpv4
  | invalidIpv6
  | invalidHostCharacter
  | relativeWithoutBase
  | relativeWithRootlessBase
deriving DecidableEq, Repr

/-- The words for a URL error. -/
def UrlError.message : UrlError → String
  | .emptyHost => "empty host"
  | .invalidDomainName => "invalid international domain name"
  | .invalidPort => "invalid port number"
  | .invalidIpv4 => "invalid IPv4 address"
  | .invalidIpv6 => "invalid IPv6 address"
  | .invalidHostCharacter => "invalid domain character"
  | .relativeWithoutBase => "relative URL without a base"
  | .relativeWithRootlessBase => "relative URL with a cannot-be-a-base base"

/-- What stands between two slashes and the path. -/
structure Url.Authority where
  /-- User name and password with the at sign after them, or nothing. -/
  credentials : String
  host : String
  port : Option Nat
deriving DecidableEq, Repr

/-- A URL. -/
structure Url where
  scheme : String
  authority : Option Url.Authority
  path : String
  query : Option String
  fragment : Option String
deriving DecidableEq, Repr

namespace Url

/-- The text of an authority. -/
def Authority.text (a : Authority) : String :=
  a.credentials ++ a.host ++ match a.port with
    | some port => ":" ++ toString port
    | none => ""

/-- The text from after the scheme up to the query. A path that begins with two slashes would read
as an authority when there is none, so a dot segment keeps them apart. -/
def hierarchy (u : Url) : String :=
  match u.authority with
  | some a => "//" ++ a.text ++ u.path
  | none => if "//".toList.isPrefixOf u.path.toList then "/." ++ u.path else u.path

/-- The text of a URL up to its fragment. -/
def resource (u : Url) : String :=
  u.scheme ++ ":" ++ u.hierarchy ++ match u.query with
    | some query => "?" ++ query
    | none => ""

/-- The text of a URL. -/
def text (u : Url) : String :=
  u.resource ++ match u.fragment with
    | some fragment => "#" ++ fragment
    | none => ""

/-- Whether the path is mere text, to which no relative reference can be joined. -/
def isRootless (u : Url) : Bool := u.authority.isNone && u.path.toList.head? ≠ some '/'

/-- A text without the blanks at its end. -/
def trimBlanksRight (s : String) : String :=
  String.ofList (s.toList.reverse.dropWhile (· = ' ')).reverse

/-- The URL without its fragment. Blanks at the end of a rootless path go with it. -/
def withoutFragment (u : Url) : Url :=
  { u with
    path := if u.isRootless ∧ u.query = none then trimBlanksRight u.path else u.path
    fragment := none }

/-- How the parts of a URL with some scheme are read. -/
inductive Kind where
  | file
  | special
  | other
deriving DecidableEq, Repr

/-- The kind of a scheme. -/
def Kind.of (scheme : String) : Kind :=
  if scheme = "file" then .file
  else if ["http", "https", "ws", "wss", "ftp"].contains scheme then .special
  else .other

/-- Whether a backslash separates segments like a slash, and a host is needed or implied. -/
def Kind.isSpecial : Kind → Bool
  | .other => false
  | _ => true

/-- The port that a scheme implies. -/
def defaultPort? (scheme : String) : Option Nat :=
  match scheme with
  | "http" | "ws" => some 80
  | "https" | "wss" => some 443
  | "ftp" => some 21
  | _ => none

/-- Control characters, which are written as bytes everywhere. -/
def controlSet (c : Char) : Bool := c.toNat < 0x20 || c.toNat = 0x7F

/-- What is written as bytes in a fragment. -/
def fragmentSet (c : Char) : Bool := controlSet c || [' ', '"', '<', '>', '\x60'].contains c

/-- What is written as bytes in a query. -/
def querySet (special : Bool) (c : Char) : Bool :=
  controlSet c || [' ', '"', '#', '<', '>'].contains c || (special && c = '\'')

/-- What is written as bytes in a path. -/
def pathSet (c : Char) : Bool := fragmentSet c || ['#', '?', '{', '}'].contains c

/-- What is written as bytes in the name of a file. -/
def fileNameSet (c : Char) : Bool := pathSet c || ['/', '%', '\\'].contains c

/-- What is written as bytes in a user name or password. -/
def credentialSet (c : Char) : Bool :=
  pathSet c || ['/', ':', ';', '=', '@', '[', '\\', ']', '^', '|'].contains c

/-- A fragment in its written form. -/
def encodeFragment (cs : List Char) : String := String.ofList (Percent.encode fragmentSet cs)

end Url

end Draft6
