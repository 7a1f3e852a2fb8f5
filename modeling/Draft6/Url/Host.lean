import Draft6.Text.Split
import Draft6.Url
import Draft6.Url.Domain

/-!
# Hosts

The host of a special URL is a domain name in lower case, an IPv4 address or an IPv6 address in
brackets. The host of any other URL is mere text, or an IPv6 address.
-/

namespace Draft6

namespace Url

namespace Host

/-- The number that digits of a base denote, if all of them are digits of it. -/
def digitsNumber? (base : Nat) (digits : List Char) : Option Nat :=
  digits.foldl (fun n c => do
    let n ← n
    let d ← Hex.value? c
    if d < base then pure (base * n + d) else failure) (some 0)

/-- A part of an IPv4 address: decimal, octal after `0`, hexadecimal after `0x`. -/
def ipv4Number? (part : List Char) : Option Nat :=
  match part with
  | [] => none
  | '0' :: x :: digits =>
    if x = 'x' ∨ x = 'X' then digitsNumber? 16 digits else digitsNumber? 8 (x :: digits)
  | digits => digitsNumber? 10 digits

/-- Whether the last part of a domain name is a number, so that the name must be an IPv4 address. -/
def endsInNumber (domain : List Char) : Bool :=
  let last? : Option (List Char) := match (Text.split '.' domain).reverse with
    | [] :: part :: _ => some part
    | [] :: [] => none
    | part :: _ => some part
    | [] => none
  match last? with
  | some part => (part ≠ [] && part.all Char.isDigit) || (ipv4Number? part).isSome
  | none => false

/-- The text of an IPv4 address. -/
def ipv4Text (address : Nat) : String :=
  String.intercalate "." ([24, 16, 8, 0].map fun shift => toString ((address >>> shift) % 256))

/-- The normal text of an IPv4 address. The last of its numbers fills the places left by the
others. -/
def ipv4? (domain : List Char) : Except UrlError String :=
  let parts := match (Text.split '.' domain).reverse with
    | [] :: rest => rest.reverse
    | _ => Text.split '.' domain
  match (parts.mapM ipv4Number?).map List.reverse with
  | some (last :: others) =>
    if 4 < parts.length then .error .invalidIpv4
    else if last < Nat.pow 256 (4 - others.length) ∧ others.all (· < 256) then
      let high := others.reverse.zipIdx.foldl (fun n (part, i) => n + part * Nat.pow 256 (3 - i)) 0
      .ok (ipv4Text (high + last))
    else .error .invalidIpv4
  | _ => .error .invalidIpv4

/-- Four decimal numbers below 256 without leading zeros, as two pieces of an IPv6 address. -/
def ipv4Pieces? (cs : List Char) : Option (List Nat) := do
  let numbers ← (Text.split '.' cs).mapM fun part => do
    if part = [] ∨ (part.head? = some '0' ∧ 1 < part.length) then failure
    let n ← digitsNumber? 10 part
    if n < 256 then pure n else failure
  match numbers with
  | [a, b, c, d] => pure [a * 256 + b, c * 256 + d]
  | _ => failure

/-- The pieces of one side of an IPv6 address. Only the last one may be an IPv4 address. -/
def ipv6Pieces? (parts : List (List Char)) : Option (List Nat) :=
  match parts with
  | [] => some []
  | [part] =>
    if part.contains '.' then ipv4Pieces? part
    else if part ≠ [] ∧ part.length ≤ 4 then (Hex.number? part).map fun n => [n]
    else none
  | part :: rest => do
    if part = [] ∨ 4 < part.length then failure
    let n ← Hex.number? part
    return n :: (← ipv6Pieces? rest)

/-- Cut a text at its first pair of colons. -/
def cutDoubleColon? : List Char → Option (List Char × List Char)
  | ':' :: ':' :: rest => some ([], rest)
  | [] => none
  | c :: rest => (cutDoubleColon? rest).map fun (a, b) => (c :: a, b)

/-- The eight pieces of an IPv6 address. Two colons stand for one or more pieces of zero. -/
def ipv6Address? (cs : List Char) : Option (List Nat) :=
  let side? (part : List Char) : Option (List Nat) :=
    if part = [] then some [] else ipv6Pieces? (Text.split ':' part)
  match cutDoubleColon? cs with
  | some (left, right) => do
    let a ← side? left
    let b ← side? right
    if left.contains '.' then failure
    if a.length + b.length < 8 then pure (a ++ List.replicate (8 - a.length - b.length) 0 ++ b)
    else failure
  | none => do
    let pieces ← ipv6Pieces? (Text.split ':' cs)
    if pieces.length = 8 then pure pieces else failure

/-- The length of the run of zeros at the start of a list. -/
def zeroRun (pieces : List Nat) : Nat := (pieces.takeWhile (· = 0)).length

/-- The start of the first longest run of at least two zeros, and its length. -/
def longestZeroRun (pieces : List Nat) : Option (Nat × Nat) :=
  (List.range pieces.length).foldl (fun best i =>
    let run := zeroRun (pieces.drop i)
    if 2 ≤ run ∧ (best.map Prod.snd).getD 0 < run then some (i, run) else best) none

/-- The text of an IPv6 address. -/
def ipv6Text (pieces : List Nat) : String :=
  let hex (ns : List Nat) : String :=
    String.intercalate ":" (ns.map fun n => String.ofList (Nat.toDigits 16 n))
  match longestZeroRun pieces with
  | some (start, length) => hex (pieces.take start) ++ "::" ++ hex (pieces.drop (start + length))
  | none => hex pieces

/-- The host that brackets hold, with the brackets. -/
def bracketed? (cs : List Char) : Except UrlError String :=
  match cs.reverse with
  | ']' :: inner =>
    match ipv6Address? inner.reverse with
    | some pieces => .ok ("[" ++ ipv6Text pieces ++ "]")
    | none => .error .invalidIpv6
  | _ => .error .invalidIpv6

/-- What a host that is mere text may not hold. -/
def isForbiddenInText (c : Char) : Bool :=
  ['\x00', '\t', '\n', '\r', ' ', '#', '/', ':', '<', '>', '?', '@', '[', '\\', ']', '^',
    '|'].contains c

/-- The host of a special URL. -/
def domain? (cs : List Char) : Except UrlError String :=
  match cs with
  | '[' :: inner => bracketed? inner
  | _ =>
    match Domain.ascii? (Percent.decode cs) with
    | none => .error .invalidDomainName
    | some name =>
      if name.isEmpty then .error .emptyHost
      else if endsInNumber name then ipv4? name
      else .ok (String.ofList name)

/-- The host of a URL that is not special. -/
def text? (cs : List Char) : Except UrlError String :=
  match cs with
  | '[' :: inner => bracketed? inner
  | _ =>
    if cs.any isForbiddenInText then .error .invalidHostCharacter
    else .ok (String.ofList (Percent.encode controlSet cs))

end Host

end Url

end Draft6
