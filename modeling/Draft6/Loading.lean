import Draft6.Error
import Draft6.Location

/-!
# Loading documents

A document is loaded as text, as JSON or as a schema. Nothing is fetched from a URL.
-/

namespace Draft6

namespace Location

/-- The text of the document at a location. -/
def load (disk : Disk) (limits : Limits) (location : Location) : Except Error String := do
  let text ← match location with
    | .path name => (disk.read name).mapError (.file name)
    | .url target => .error (.remote target)
    | .document content => .ok content
  (limits.checkDocumentSize text.utf8ByteSize).mapError .limit
  pure text

/-- The document at a location as JSON. -/
def loadJson (disk : Disk) (limits : Limits) (location : Location) : Except Error Json := do
  (Json.parse (← location.load disk limits)).mapError .json

/-- The document at a location as a schema. -/
def loadSchema (disk : Disk) (limits : Limits) (location : Location) : Except Error Schema := do
  (Schema.decode limits (← location.loadJson disk limits)).mapError .decode

end Location

end Draft6
