import Draft6.Command.Arguments

/-!
# The program

Looks at the files that a command names, carries the command out, and writes what it leaves behind.
-/

namespace Draft6

namespace Program

/-- The text of a file. -/
def readText (path : String) : IO (Except DiskError String) := do
  try
    let bytes ← IO.FS.readBinFile path
    pure (match String.fromUTF8? bytes with
      | some text => .ok text
      | none => .error .notText)
  catch error => pure (.error (match error with
    | .noFileOrDirectory .. => .notFound
    | .inappropriateType .. => .isDirectory
    | error => .other (toString error)))

/-- The absolute path that a path leads to. -/
def findPath (path : String) : IO (Option (List String)) := do
  try
    let found ← IO.FS.realPath path
    pure (some ((Disk.components found.toString).2.filter (· ≠ "")))
  catch _ => pure none

/-- The disk as far as some paths show it. -/
def observe (paths : List String) : IO Disk := do
  let texts ← paths.mapM fun path => do pure (path, ← readText path)
  let places ← paths.mapM fun path => do pure (path, ← findPath path)
  pure
    { read := fun path => (texts.lookup path).getD (.error .notFound)
      locate? := fun path => (places.lookup path).getD none }

end Program

end Draft6

open Draft6 in
/-- Carry out the command that the arguments make. -/
def main (arguments : List String) : IO UInt32 := do
  let paths := match Command.ofArguments arguments with
    | .ok command => command.paths
    | .error _ => []
  let outcome := Command.runArguments (← Program.observe paths) arguments
  (← IO.getStdout).putStr outcome.output
  (← IO.getStderr).putStr outcome.errors
  pure (UInt32.ofNat outcome.code)
