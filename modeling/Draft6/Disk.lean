import Draft6.Text.Split

/-!
# Disks

What a program sees of the files around it: the text behind a path, and the absolute path that a
path leads to. A directory of texts is a disk on which nothing else lies.
-/

namespace Draft6

/-- Why a file cannot be read. -/
inductive DiskError where
  | notFound
  | notDirectory
  | isDirectory
  | notText
  | other (reason : String)
deriving DecidableEq, Repr

/-- The words for a file that cannot be read. -/
def DiskError.message : DiskError → String
  | .notFound => "No such file or directory (os error 2)"
  | .notDirectory => "Not a directory (os error 20)"
  | .isDirectory => "Is a directory (os error 21)"
  | .notText => "stream did not contain valid UTF-8"
  | .other reason => reason

/-- The files around a program. -/
structure Disk where
  /-- The text of the file that a path leads to. -/
  read : String → Except DiskError String
  /-- The components of the absolute path that a path leads to, if something is there. -/
  locate? : String → Option (List String)

namespace Disk

/-- Whether something is at a path. -/
def has (disk : Disk) (path : String) : Bool := (disk.locate? path).isSome

/-- The components of a path and whether it is absolute. -/
def components (path : String) : Bool × List String :=
  (path.toList.head? = some '/', (Text.split '/' path.toList).map String.ofList)

/-- What lies at an absolute path. -/
inductive Item where
  | directory
  | file (text : String)

/-- What lies at an absolute path, where a directory of files is all there is. -/
def item? (directory : List String) (files : List (String × String)) (path : List String) :
    Option Item :=
  if path.isPrefixOf directory then some .directory
  else match (path.take directory.length = directory : Bool), path.drop directory.length with
    | true, [name] => (files.lookup name).map .file
    | _, _ => none

/-- Go along the components of a path from what is reached so far. -/
def walk (directory : List String) (files : List (String × String)) (reached : List String) :
    List String → Except DiskError (List String × Item)
  | [] => match item? directory files reached with
    | some item => .ok (reached, item)
    | none => .error .notFound
  | step :: rest => match item? directory files reached with
    | some .directory =>
      if step = "" ∨ step = "." then walk directory files reached rest
      else if step = ".." then walk directory files reached.dropLast rest
      else walk directory files (reached ++ [step]) rest
    | some (.file _) => .error .notDirectory
    | none => .error .notFound

/-- The disk with one directory of files, in which the program runs. -/
def ofDirectory (directory : List String) (files : List (String × String)) : Disk :=
  let reach (path : String) : Except DiskError (List String × Item) :=
    if path = "" then .error .notFound
    else
      let (isAbsolute, steps) := components path
      walk directory files (if isAbsolute then [] else directory) steps
  { read := fun path => match reach path with
      | .ok (_, .file text) => .ok text
      | .ok (_, .directory) => .error .isDirectory
      | .error error => .error error
    locate? := fun path => (reach path).toOption.map Prod.fst }

/-- The disk without files. -/
def empty : Disk := ofDirectory [] []

end Disk

end Draft6
