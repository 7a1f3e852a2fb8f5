import Draft6.Text.Hex
import Draft6.Text.Utf8

/-!
# Percent encoding

A byte may be written as a percent sign and two hexadecimal digits. Decoding gives bytes, since
the written bytes need not be characters. Encoding always writes the bytes of characters outside
ASCII, and of those ASCII characters that a set names.
-/

namespace Draft6

namespace Percent

/-- The bytes of a text, with every written byte read. A percent sign that no two digits follow
stands for itself. -/
def decodeBytes : List Char → List UInt8
  | [] => []
  | '%' :: a :: b :: rest =>
    match Hex.value? a, Hex.value? b with
    | some high, some low => UInt8.ofNat (16 * high + low) :: decodeBytes rest
    | _, _ => '%'.toUInt8 :: decodeBytes (a :: b :: rest)
  | c :: rest => String.utf8EncodeChar c ++ decodeBytes rest

/-- The text that the bytes of a text make, with replacement characters where they make none. -/
def decode (cs : List Char) : List Char := Utf8.decode (decodeBytes cs)

/-- A byte as a percent sign and two digits. -/
def encodeByte (b : UInt8) : List Char := '%' :: Hex.byte b

/-- One character, written as its bytes when it is not ASCII or belongs to the set. -/
def encodeChar (set : Char → Bool) (c : Char) : List Char :=
  if c.toNat < 0x80 ∧ set c = false then [c]
  else (String.utf8EncodeChar c).flatMap encodeByte

/-- A text with the characters of the set written as bytes. -/
def encode (set : Char → Bool) (cs : List Char) : List Char := cs.flatMap (encodeChar set)

end Percent

end Draft6
