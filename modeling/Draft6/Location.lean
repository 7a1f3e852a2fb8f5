import Draft6.Disk
import Draft6.Url.FilePath
import Draft6.Url.Reader

/-!
# Locations of documents

A document lies in a file or behind a URL, or the text at hand is the document itself. A text that
is no URL is a path when something lies there, or when it begins like a path.
-/

namespace Draft6

/-- Where a document lies. -/
inductive Location where
  | path (path : String)
  | url (url : Url)
  | document (text : String)

namespace Location

/-- The location that a URL means. The letter of a drive is no scheme. -/
def ofUrl? (url : Url) : Option Location :=
  if url.scheme = "file" then url.filePath?.map .path
  else if 1 < url.scheme.length then some (.url url)
  else none

/-- The location that a text means. -/
def ofText (disk : Disk) (text : String) : Location :=
  match (Url.parse? text).toOption.bind ofUrl? with
  | some location => location
  | none =>
    if disk.has text ∨ text.toList.head? = some '/' ∨ text.toList.head? = some '.' then .path text
    else .document text

/-- The text of a location. -/
def text : Location → String
  | .path name => name
  | .url target => target.text
  | .document content => content

/-- Whether the document lies behind a URL. -/
def isRemote : Location → Bool
  | .url _ => true
  | _ => false

/-- Whether the document lies in a file. -/
def isFile : Location → Bool
  | .path _ => true
  | _ => false

/-- The base of documents from a location. -/
def base? (disk : Disk) : Location → Option Url
  | .path name => (disk.locate? name).map Url.ofFilePath
  | .url target => some target.withoutFragment
  | .document _ => none

end Location

end Draft6
