import Draft6.Unicode.Ranges

/-!
# Tables over code points

A table of runs gives every code point the value of the run it lies in; a run ends where the next
one starts. It is written like a table of ranges, with the value after the code point: `41Lu` is a
run that starts at U+0041 with the value `Lu`.
-/

namespace Draft6

namespace Unicode

/-- A table of runs. Each starts at a code point and goes up to the start of the next one. -/
structure Runs (α : Type) where
  starts : List (Nat × α)

namespace Runs

variable {α : Type}

/-- Read a table; entries whose value is not known are dropped. -/
def ofLines (value? : String → Option α) (lines : List String) : Runs α where
  starts := (entries lines).filterMap fun entry =>
    (value? (String.ofList (entry.dropWhile isCodeDigit))).map fun value => (entryCode entry, value)

/-- The value of the last run that starts at or before a code point. -/
def lookup? (runs : Runs α) (code : Nat) : Option α :=
  go none runs.starts
where
  go (current : Option α) : List (Nat × α) → Option α
    | [] => current
    | (start, value) :: rest => if start ≤ code then go (some value) rest else current

/-- The runs whose values pass a test, as ranges. -/
def rangesIn (test : α → Bool) : List (Nat × α) → List (Nat × Nat)
  | [] => []
  | [(start, value)] => if test value then [(start, lastCode)] else []
  | (start, value) :: (next, value') :: rest =>
    let others := rangesIn test ((next, value') :: rest)
    if test value then (start, next - 1) :: others else others

/-- The code points whose values pass a test. -/
def rangesOf (runs : Runs α) (test : α → Bool) : Ranges :=
  ⟨Ranges.coalesce (rangesIn test runs.starts)⟩

end Runs

end Unicode

end Draft6
