import Wagebook.Json.Free
import Wagebook.Json.Record

/-!
What claims say about the token itself: for how long it is valid, whose it is, who issued it, and
for whom. Only the last matters here, but a text is refused that says one of these twice or breaks
off in one of them. They are read one character after the other, and reading goes on where it
stopped.
-/

namespace Wagebook.Token.Registered

/-- The text after a value, or after the place where reading one stopped. -/
def ending : Except (List Char) (α × List Char) → List Char
  | .ok (_, rest) => rest
  | .error rest => rest

/-- A single byte is passed over, but no longer character. -/
def skipByte : List Char → List Char
  | c :: cs => if c.toNat < 0x80 then cs else c :: cs
  | [] => []

/-- What follows the place at which a string stops that spells no text: the second half of a pair
without the first, what comes instead of the second half, or its end. -/
def afterFault : List Char → List Char
  | '\\' :: 'u' :: a :: b :: c :: d :: cs =>
    match Json.unit16? a b c d with
    | none => cs
    | some u =>
      if Json.isLowSurrogate u then cs
      else if Json.isHighSurrogate u then
        match cs with
        | '\\' :: 'u' :: a :: b :: c :: d :: cs =>
          if ((Json.unit16? a b c d).map Json.isLowSurrogate).getD false then afterFault cs else cs
        | '\\' :: cs => skipByte cs
        | cs => skipByte cs
      else afterFault cs
  | '\\' :: _ :: cs => afterFault cs
  | '"' :: cs => cs
  | _ :: cs => afterFault cs
  | [] => []

/-- The digits of an exponent that are left when it has outgrown 31 bits. -/
def unreadExponent (spelling : String) : List Char :=
  let digits := (Json.splitExponent spelling.toList).2.2
  let fitting := (List.range digits.length).filter fun n =>
    Text.valueOfDigits (digits.take (n + 1)) < 0x80000000
  digits.drop (fitting.length + 1)

/-- Reads a value that is no array and no object. -/
def readScalar (cs : List Char) : Except (List Char) (Json × List Char) :=
  match Json.readValue 1 cs with
  | some (.unusable, _) => .error (afterFault (cs.drop 1))
  | some (.int n, rest) => if (Json.number? n).isSome then .ok (.int n, rest) else .error rest
  | some (.real spelling, rest) =>
    if Json.isFinite spelling then .ok (.real spelling, rest)
    else .error (unreadExponent spelling ++ rest)
  | some (v, rest) => .ok (v, rest)
  | none => .error cs

/-- What is left of the text after a fault in an array: its end counts if it comes next. -/
def leaveArray (cs : List Char) : List Char :=
  match Json.skipSpace cs with
  | ']' :: rest => rest
  | ',' :: rest => Json.skipSpace rest
  | cs => cs

def leaveObject (cs : List Char) : List Char :=
  match Json.skipSpace cs with
  | '\x7d' :: rest => rest
  | cs => cs

mutual

/-- Reads a value that nests at most `depth` arrays and objects; `fuel` bounds the steps. -/
def readHeld : Nat → Nat → List Char → Except (List Char) (Json × List Char)
  | 0, _, cs => .error cs
  | fuel + 1, depth, cs =>
    match Json.skipSpace cs, depth with
    | '[' :: rest, depth + 1 =>
      match Json.skipSpace rest with
      | ']' :: rest => .ok (.arr [], rest)
      | rest =>
        match readItems fuel depth rest with
        | .ok (vs, rest) => .ok (.arr vs, rest)
        | .error rest => .error (leaveArray rest)
    | '\x7b' :: rest, depth + 1 =>
      match Json.skipSpace rest with
      | '\x7d' :: rest => .ok (.obj [], rest)
      | rest =>
        match readMembers fuel depth rest with
        | .ok (ms, rest) => .ok (.obj ms, rest)
        | .error rest => .error (leaveObject rest)
    | '[' :: rest, 0 => .error ('[' :: rest)
    | '\x7b' :: rest, 0 => .error ('\x7b' :: rest)
    | cs, _ => readScalar cs

def readItems : Nat → Nat → List Char → Except (List Char) (List Json × List Char)
  | 0, _, cs => .error cs
  | fuel + 1, depth, cs => do
    let (v, rest) ← readHeld fuel depth cs
    match Json.skipSpace rest with
    | ',' :: rest =>
      let (vs, rest) ← readItems fuel depth rest
      return (v :: vs, rest)
    | ']' :: rest => return ([v], rest)
    | rest => throw rest

def readMembers :
    Nat → Nat → List Char → Except (List Char) (List (String × Json) × List Char)
  | 0, _, cs => .error cs
  | fuel + 1, depth, cs =>
    match Json.skipSpace cs with
    | '"' :: rest => do
      match ← readScalar ('"' :: rest) with
      | (.str key, rest) =>
        match Json.skipSpace rest with
        | ':' :: rest =>
          let (v, rest) ← readHeld fuel depth rest
          match Json.skipSpace rest with
          | ',' :: rest =>
            let (ms, rest) ← readMembers fuel depth rest
            return ((key, v) :: ms, rest)
          | '\x7d' :: rest => return ([(key, v)], rest)
          | rest => throw rest
        | rest => throw rest
      | (_, rest) => throw rest
    | cs => .error cs

end

inductive Name
  | expires
  | notBefore
  | subject
  | issuer
  | audience
  deriving DecidableEq, Repr

def Name.ofKey? (key : String) : Option Name :=
  [("exp", .expires), ("nbf", .notBefore), ("sub", .subject), ("iss", .issuer),
    ("aud", .audience)].lookup key

/-- A text, or a list of texts. -/
def isAudience : Json → Bool
  | .str _ => true
  | .arr items => items.all (·.str?.isSome)
  | _ => false

/-- Reads the value of a claim, as far as it goes: an instant is a number, so that of an array or
object there only the end counts, and a subject is a text. Whether it is an audience is told too. -/
def readClaim (name : Name) (cs : List Char) : Bool × List Char :=
  let held (_ : Unit) := readHeld (2 * cs.length + 2) (Json.depthLimit - 1) cs
  match name, Json.skipSpace cs with
  | .issuer, _ => (false, ending (held ()))
  | .audience, _ =>
    match held () with
    | .ok (v, rest) => (isAudience v, rest)
    | .error rest => (false, rest)
  | .subject, '[' :: rest => (false, '[' :: rest)
  | .subject, '\x7b' :: rest => (false, '\x7b' :: rest)
  | _, '[' :: rest => (false, leaveArray rest)
  | _, '\x7b' :: rest => (false, leaveObject rest)
  | _, cs => (false, ending (readScalar cs))

/-- Whether the members of an object, from one of them on, name an audience. -/
def readClaims : Nat → List Name → Bool → List Char → Option Bool
  | 0, _, _, _ => none
  | fuel + 1, seen, found, cs =>
    match Json.skipSpace cs with
    | '"' :: rest => do
      let (key, rest) ← Json.readString {} rest
      match Json.skipSpace rest with
      | ':' :: rest =>
        let (seen, found, rest) ←
          match Name.ofKey? (← key) with
          | some name =>
            if seen.contains name then none
            let (isFound, rest) := readClaim name rest
            some (name :: seen, found || isFound, rest)
          | none => (Json.readValue (2 * rest.length + 2) rest).map fun (_, rest) =>
            (seen, found, rest)
        match Json.skipSpace rest with
        | ',' :: rest => readClaims fuel seen found rest
        | '\x7d' :: rest => if (Json.skipSpace rest).isEmpty then some found else none
        | _ => none
      | _ => none
    | _ => none

/-- Whether a text of claims names an audience, if what it says about the token can be read. -/
def hasAudience? (cs : List Char) : Option Bool :=
  match Json.skipSpace cs with
  | '\x7b' :: rest => readClaims rest.length [] false rest
  | _ => none

end Wagebook.Token.Registered
