import Draft6.Text.Split
import Draft6.Url

/-!
# File paths as URLs

The components of an absolute path are the segments of a URL of the file scheme.
-/

namespace Draft6

namespace Url

/-- The path of the file that a URL names, unless it lies on another host. A drive letter at the end
gets a slash. -/
def filePath? (u : Url) : Option String :=
  match u.path.toList with
  | '/' :: cs =>
    if ["", "localhost"].contains ((u.authority.map Authority.host).getD "") then
      let bytes := (Text.split '/' cs).flatMap fun segment =>
        '/'.toUInt8 :: Percent.decodeBytes segment
      let closing := match bytes.reverse with
        | mark :: letter :: _ :: _ =>
          if (Char.ofUInt8 letter).isAlpha ∧ (mark = ':'.toUInt8 ∨ mark = '|'.toUInt8) then
            ['/'.toUInt8]
          else []
        | _ => []
      some (String.ofList (Utf8.decode (bytes ++ closing)))
    else none
  | _ => none

/-- The URL of the file that the components of an absolute path lead to. -/
def ofFilePath (components : List String) : Url :=
  let path := match components with
    | [] => "/"
    | _ => String.join (components.map fun name =>
        "/" ++ String.ofList (Percent.encode fileNameSet name.toList))
  ⟨"file", some ⟨"", "", none⟩, path, none, none⟩

end Url

end Draft6
