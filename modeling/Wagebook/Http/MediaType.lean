import Wagebook.Text.Decimal

/-!
Media types: which of them announce JSON. A type is two words with a slash between and parameters
after semicolons; what follows the last plus of the second word is its suffix.
-/

namespace Wagebook.Http.MediaType

def isTokenChar (c : Char) : Bool :=
  ('a' ≤ c && c ≤ 'z') || ('A' ≤ c && c ≤ 'Z') || Text.isDigit c ||
    "!#$%&'*+-.^_\x60|~".toList.contains c

def isQuotedChar (c : Char) : Bool := 31 < c.toNat && c.toNat != 127

/-- What follows a quoted value, whose first character may be a quote too. -/
def afterQuoted? : List Char → Option (List Char)
  | c :: cs =>
    if isQuotedChar c && (cs.takeWhile (· != '"')).all isQuotedChar then
      match cs.dropWhile (· != '"') with
      | _ :: rest => some rest
      | [] => none
    else none
  | [] => none

/-- Whether what follows a semicolon is parameters, each a name and a value; `fuel` bounds their
number. -/
def areParams : Nat → List Char → Bool
  | 0, _ => false
  | _ + 1, [] => true
  | fuel + 1, ' ' :: cs => areParams fuel cs
  | fuel + 1, cs =>
    match cs.takeWhile isTokenChar, cs.dropWhile isTokenChar with
    | _ :: _, '=' :: '"' :: rest =>
      match (afterQuoted? rest).map (·.dropWhile (· == ' ')) with
      | some [] => true
      | some (';' :: rest) => areParams fuel rest
      | _ => false
    | _ :: _, '=' :: rest =>
      match rest.takeWhile isTokenChar, rest.dropWhile isTokenChar with
      | _, [] => true
      | _ :: _, ';' :: rest => areParams fuel rest
      | _, _ => false
    | _, _ => false

/-- The second word of a type that can be read, in lower case. -/
def subtype? (cs : List Char) : Option (List Char) :=
  match cs.takeWhile isTokenChar, cs.dropWhile isTokenChar with
  | _ :: _, '/' :: rest =>
    match rest.takeWhile isTokenChar, rest.dropWhile isTokenChar with
    | word, [] => some (word.map Char.toLower)
    | word@(_ :: _), ';' :: params =>
      if areParams (params.length + 1) params then some (word.map Char.toLower) else none
    | _, _ => none
  | _, _ => none

/-- The word before its last plus, and what follows that. -/
def splitSuffix (word : List Char) : List Char × Option (List Char) :=
  match word.reverse.dropWhile (· ≠ '+') with
  | _ :: before =>
    if before.isEmpty then (word, none)
    else (before.reverse, some (word.reverse.takeWhile (· ≠ '+')).reverse)
  | [] => (word, none)

def json : List Char := ['j', 's', 'o', 'n']

def isJson (text : String) : Bool :=
  match (subtype? text.toList).map splitSuffix with
  | some (word, suffix) => word == json || suffix == some json
  | none => false

end Wagebook.Http.MediaType
