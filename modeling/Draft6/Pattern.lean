import Draft6.Pattern.Reader

/-!
# Patterns

A pattern is a regular expression together with the text it was written as. Two patterns are equal
when their texts are, since the text determines the expression.
-/

namespace Draft6

/-- A regular expression with its text. -/
structure Pattern where
  source : String
  regex : Pattern.Regex
  compiled : Pattern.Reader.regex? source = some regex

namespace Pattern

/-- The text determines the pattern. -/
theorem ext_source {p q : Pattern} (h : p.source = q.source) : p = q := by
  obtain ⟨s, r, hr⟩ := p
  obtain ⟨t, u, hu⟩ := q
  subst h
  have : r = u := Option.some.inj (hr.symm.trans hu)
  subst this
  rfl

instance : DecidableEq Pattern := fun p q =>
  if h : p.source = q.source then isTrue (ext_source h)
  else isFalse fun e => h (congrArg source e)

/-- The pattern with a text, if the text is a regular expression. -/
def ofSource? (source : String) : Option Pattern :=
  match h : Reader.regex? source with
  | some regex => some ⟨source, regex, h⟩
  | none => none

/-- Whether some part of a string matches. The pattern is not anchored. -/
def isMatch (p : Pattern) (s : String) : Bool := p.regex.search s.toList

end Pattern

end Draft6
