import Draft6.Pointer

/-!
# Located causes

A cause of failure together with the pointer to the part of a document that it is about.
-/

namespace Draft6

/-- A cause at a place. -/
structure Located (κ : Type) where
  pointer : Pointer
  cause : κ
deriving DecidableEq

namespace Located

/-- A cause about the whole document. -/
def here {κ : Type} (cause : κ) : Located κ := ⟨Pointer.root, cause⟩

/-- The same cause, seen from the value that has the document as a member or element. -/
def below {κ : Type} (segment : String) (located : Located κ) : Located κ :=
  { located with pointer := ⟨segment :: located.pointer.segments⟩ }

end Located

end Draft6
