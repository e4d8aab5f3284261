import Wagebook.Text.Pattern.Reader

/-!
The path that all routes share. It may have variable parts in braces, each with a name and, after a
colon, a pattern for what it stands for, which is one part of a path if nothing is said.
-/

namespace Wagebook.Http

inductive SharedPath
  | fixed (path : List Char)
  /-- One with so many variable parts; what a closed one ends in ends before a slash or at the
  end. -/
  | variable (pattern : Text.Pattern) (parts : Nat) (closed : Bool)
  deriving DecidableEq, Repr

namespace SharedPath

def isBoundary (rest : List Char) : Bool := rest.isEmpty || rest.head? == some '/'

/-- What is left of a path below the shared one. -/
def rest? (shared : SharedPath) (path : List Char) : Option (List Char) :=
  match shared with
  | .fixed base =>
    let rest := path.drop base.length
    if base.isPrefixOf path && isBoundary rest then some rest else none
  | .variable pattern _ closed =>
    ((pattern.ends ⟨[], path⟩).map (·.after)).find? fun rest => !closed || isBoundary rest

def parts : SharedPath → Nat
  | .fixed _ => 0
  | .variable _ parts _ => parts

/-- What a variable part stands for by itself. -/
def segment : Text.Pattern :=
  .repeated (.char (.other (.single '/')) false) 1 none true

def everything : Text.Pattern := .repeated (.char .all false) 0 none true

/-- The text up to the brace that closes those that are open, and what follows it. -/
def splitBrace? : Nat → List Char → Option (List Char × List Char)
  | _, [] => none
  | isOpen, '\x7b' :: cs => (splitBrace? (isOpen + 1) cs).map fun (a, b) => ('\x7b' :: a, b)
  | 0, '\x7d' :: cs => some ([], cs)
  | isOpen + 1, '\x7d' :: cs => (splitBrace? isOpen cs).map fun (a, b) => ('\x7d' :: a, b)
  | isOpen, c :: cs => (splitBrace? isOpen cs).map fun (a, b) => (c :: a, b)

def partPattern? (part : List Char) : Option Text.Pattern :=
  match part.dropWhile (· ≠ ':') with
  | _ :: pattern => Text.Pattern.read? pattern
  | [] => some segment

/-- Reads what comes after some of the variable parts; `fuel` bounds the number of others. A star
after the last one lets it stand for everything, and a star elsewhere at the end takes with it what
is before it. -/
def readFrom? : Nat → List Char → Option (Text.Pattern × Nat × Bool)
  | 0, _ => none
  | fuel + 1, cs =>
    let before := cs.takeWhile (· ≠ '\x7b')
    match cs.dropWhile (· ≠ '\x7b') with
    | [] => some (if cs.getLast? = some '*' then .empty else Text.Pattern.literal cs, 0, true)
    | _ :: rest => do
      let (part, rest) ← splitBrace? 0 rest
      if rest = ['*'] then some (.seq (Text.Pattern.literal before) everything, 1, false)
      else
        let pattern ← partPattern? part
        let (others, parts, closed) ← readFrom? fuel rest
        return (.seq (Text.Pattern.literal before) (.seq pattern others), parts + 1, closed)

def read? (text : String) : Option SharedPath :=
  let cs :=
    match text.toList with
    | [] => []
    | '/' :: cs => '/' :: cs
    | cs => '/' :: cs
  if cs.contains '\x7b' ∨ cs.getLast? = some '*' then do
    let (pattern, parts, closed) ← readFrom? (cs.length + 1) cs
    return .variable pattern parts closed
  else some (.fixed cs)

end SharedPath
end Wagebook.Http
