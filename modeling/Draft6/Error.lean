import Draft6.Disk
import Draft6.Failure
import Draft6.Json.Parser
import Draft6.Schema.Decode

/-!
# Errors

Everything that can keep a document from being read, decoded or found valid, with the words for it.
-/

namespace Draft6

/-- What went wrong with a document. -/
inductive Error where
  | invalid (failures : List Failure)
  | decode (error : DecodeError)
  | pointer (text : String)
  | file (path : String) (error : DiskError)
  | remote (url : Url)
  | limit (error : LimitError)
  | json (error : Json.ParseError)
  | url (error : UrlError)

/-- The words for an error. -/
def Error.message : Error → String
  | .invalid failures => "validation failed: " ++ Failure.report failures
  | .decode error => "decode error: " ++ error.text
  | .pointer written => "value error: JSON pointer '" ++ written ++ "' must start with '/'"
  | .file path error => "resource error: Failed to read file '" ++ path ++ "': " ++ error.message
  | .remote target =>
    "resource error: remote documents are not fetched, preload '" ++ target.text
      ++ "' into the pool"
  | .limit error => "limit exceeded: " ++ error.message
  | .json error => "JSON error: " ++ error.message
  | .url error => "URL error: " ++ error.message

/-- The pointer that a text stands for. -/
def Pointer.read (text : String) : Except Error Pointer :=
  match parse? text with
  | some pointer => .ok pointer
  | none => .error (.pointer text)

/-- The pointer that a URI fragment stands for. -/
def Pointer.readFragment (fragment : String) : Except Error Pointer :=
  read (decodeFragment fragment)

end Draft6
