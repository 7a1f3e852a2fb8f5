import Draft6.Pointer
import Draft6.Url.Reader

/-!
# Addresses of schemas

A schema inside a document is addressed by the URL of the document and a fragment. The fragment is
the text of a pointer or a plain name. Every spelling of one location has one address: the fragment
is read first and then written with the escapes of a pointer and no others.
-/

namespace Draft6

/-- The base of documents that name none. -/
def Url.implicitBase : Url := ⟨"json-schema", some ⟨"", "", none⟩, "/", none, none⟩

namespace Url

/-- The base that a text names, which has no fragment. -/
def base? (text : String) : Except UrlError Url := withoutFragment <$> implicitBase.join? text

/-- The base inside a schema that carries an identifier, given the base around it. An identifier
that is only a fragment leaves the base as it is. -/
def scope? (parent : Url) (id : String) : Except UrlError Url := withoutFragment <$> parent.join? id

end Url

namespace Address

/-- The plain name that an identifier declares: its fragment, unless that is empty or a pointer. -/
def anchor? (id : String) : Option String :=
  match (Text.cut '#' id.toList).2 with
  | none | some [] | some ('/' :: _) => none
  | some name => some (String.ofList name)

/-- The address of a plain name in a document. -/
def ofAnchor (document : Url) (anchor : String) : String :=
  document.withoutFragment.text ++ "#" ++ anchor

/-- The address of a place in a document. -/
def ofPointer (document : Url) (pointer : Pointer) : String := ofAnchor document pointer.text

/-- The address that a URL stands for. -/
def ofUrl (url : Url) : String :=
  let fragment := Pointer.decodeFragment (url.fragment.getD "")
  match Pointer.parse? fragment with
  | some pointer => ofPointer url pointer
  | none => ofAnchor url fragment

end Address

end Draft6
