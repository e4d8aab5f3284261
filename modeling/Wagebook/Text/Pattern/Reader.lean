import Wagebook.Text.Hex
import Wagebook.Text.Pattern

/-!
The spelling of patterns: characters for themselves, sets in brackets, groups in parentheses,
branches between bars, and marks of repetition behind what is repeated.
-/

namespace Wagebook.Text.Pattern

/-- The set that a letter behind a backslash stands for. -/
def namedSet? (c : Char) : Option Chars :=
  match c with
  | 'd' => some .digit
  | 'D' => some (.other .digit)
  | 's' => some .blank
  | 'S' => some (.other .blank)
  | 'w' => some .word
  | 'W' => some (.other .word)
  | _ => none

/-- The set with a name of its own within brackets. -/
def classSet? (name : String) : Option Chars :=
  let letters (first last : Char) : Chars := .range first last
  match name with
  | "alnum" => some (.ofList [letters 'a' 'z', letters 'A' 'Z', letters '0' '9'])
  | "alpha" => some (.ofList [letters 'a' 'z', letters 'A' 'Z'])
  | "ascii" => some (letters '\x00' '\x7f')
  | "blank" => some (.ofList [.single ' ', .single '\t'])
  | "cntrl" => some (.ofList [letters '\x00' '\x1f', .single '\x7f'])
  | "digit" => some (letters '0' '9')
  | "graph" => some (letters '!' '~')
  | "lower" => some (letters 'a' 'z')
  | "print" => some (letters ' ' '~')
  | "punct" => some (.ofList [letters '!' '/', letters ':' '@', letters '[' '\x60',
      letters '\x7b' '~'])
  | "space" => some (.ofList [letters '\t' '\r', .single ' '])
  | "upper" => some (letters 'A' 'Z')
  | "word" => some (.ofList [letters 'a' 'z', letters 'A' 'Z', letters '0' '9', .single '_'])
  | "xdigit" => some (.ofList [letters '0' '9', letters 'a' 'f', letters 'A' 'F'])
  | _ => none

def charOf? (digits : List Char) : Option Char := do
  if digits.isEmpty then none
  let n := (← digits.mapM hexValue?).foldl (fun n d => n * 16 + d) 0
  if n < 0xD800 ∨ (0xE000 ≤ n ∧ n < 0x110000) then some (Char.ofNat n) else none

/-- Reads a code after its letter: in braces, or of so many digits. -/
def readCode (width : Nat) : List Char → Option (Char × List Char)
  | '\x7b' :: cs =>
    match cs.dropWhile (· ≠ '\x7d') with
    | _ :: rest => (charOf? (cs.takeWhile (· ≠ '\x7d'))).map (·, rest)
    | [] => none
  | cs => if width ≤ cs.length then (charOf? (cs.take width)).map (·, cs.drop width) else none

def readEscaped : List Char → Option (Char × List Char)
  | 'n' :: cs => some ('\n', cs)
  | 't' :: cs => some ('\t', cs)
  | 'r' :: cs => some ('\r', cs)
  | 'f' :: cs => some ('\x0c', cs)
  | 'v' :: cs => some ('\x0b', cs)
  | 'a' :: cs => some ('\x07', cs)
  | 'x' :: cs => readCode 2 cs
  | 'u' :: cs => readCode 4 cs
  | 'U' :: cs => readCode 8 cs
  | c :: cs => if c.isAlphanum || 0x80 ≤ c.toNat then none else some (c, cs)
  | [] => none

def readMember : List Char → Option (Char × List Char)
  | '\\' :: cs => readEscaped cs
  | c :: cs => some (c, cs)
  | [] => none

def readRange (cs : List Char) : Option (Chars × List Char) := do
  let (first, rest) ← readMember cs
  match rest with
  | '-' :: ']' :: _ => return (.single first, rest)
  | '-' :: rest =>
    let (last, rest) ← readMember rest
    if last < first then none else some (.range first last, rest)
  | rest => return (.single first, rest)

/-- What is before a mark, and what follows it. -/
def splitAt? (mark : Char) (cs : List Char) : Option (List Char × List Char) :=
  match cs.dropWhile (· ≠ mark) with
  | _ :: rest => some (cs.takeWhile (· ≠ mark), rest)
  | [] => none

def readClass (cs : List Char) : Option (Chars × List Char) := do
  let negated := cs.head? = some '^'
  let (name, rest) ← splitAt? ':' (if negated then cs.drop 1 else cs)
  let set ← classSet? (String.ofList name)
  if rest.head? = some ']' then some (if negated then .other set else set, rest.drop 1) else none

/-- Reads the members of a set up to its closing bracket, which is a member itself when it comes
first; `fuel` bounds the steps. -/
def readMembers : Nat → List Chars → List Char → Option (Chars × List Char)
  | 0, _, _ => none
  | fuel + 1, seen, cs =>
    let goOn (found : Option (Chars × List Char)) : Option (Chars × List Char) := do
      let (set, rest) ← found
      readMembers fuel (set :: seen) rest
    match cs with
    | [] => none
    | ']' :: rest => if seen.isEmpty then goOn (readRange cs) else some (.ofList seen, rest)
    | '[' :: ':' :: rest => goOn (readClass rest)
    | '[' :: '^' :: rest => goOn ((readMembers fuel [] rest).map fun (set, rest) => (.other set, rest))
    | '[' :: rest => goOn (readMembers fuel [] rest)
    | '\\' :: c :: rest => goOn (((namedSet? c).map (·, rest)).orElse fun _ => readRange cs)
    | _ => goOn (readRange cs)

def readCount (cs : List Char) : Option (Nat × List Char) :=
  let digits := cs.takeWhile isDigit
  if digits.isEmpty then none else some (valueOfDigits digits, cs.dropWhile isDigit)

/-- Reads how often something is repeated: how often at least, and how often more. -/
def readTimes : List Char → Option (Nat × Option Nat × List Char)
  | '*' :: cs => some (0, none, cs)
  | '+' :: cs => some (1, none, cs)
  | '?' :: cs => some (0, some 1, cs)
  | '\x7b' :: cs => do
    let (least, rest) ← readCount cs
    match rest with
    | '\x7d' :: rest => return (least, some 0, rest)
    | ',' :: '\x7d' :: rest => return (least, none, rest)
    | ',' :: rest =>
      let (most, rest) ← readCount rest
      match rest with
      | '\x7d' :: rest => if most < least then none else some (least, some (most - least), rest)
      | _ => none
    | _ => none
  | _ => none

/-- Reads the marks of repetition behind a pattern. -/
def readMarks : Nat → Pattern → List Char → Option (Pattern × List Char)
  | 0, _, _ => none
  | fuel + 1, p, cs =>
    if cs.head?.all (!"*+?\x7b".contains ·) then some (p, cs)
    else do
      let (least, more, rest) ← readTimes cs
      match rest with
      | '?' :: rest => readMarks fuel (.repeated p least more false) rest
      | rest => readMarks fuel (.repeated p least more true) rest

/-- Whether letters before a closing parenthesis or a colon change how case counts. -/
def foldsAfter (folds : Bool) (flags : List Char) : Bool :=
  if (flags.takeWhile (· ≠ '-')).contains 'i' then true
  else if flags.contains 'i' then false
  else folds

def isFlag (c : Char) : Bool := "imsUuxR-".contains c

def readSingle (folds : Bool) : List Char → Option (Pattern × List Char)
  | '.' :: cs => some (.char .all false, cs)
  | '^' :: cs => some (.anchor .start, cs)
  | '$' :: cs => some (.anchor .stop, cs)
  | '[' :: '^' :: cs => do
    let (set, rest) ← readMembers (cs.length + 1) [] cs
    return (.char (.other set) folds, rest)
  | '[' :: cs => do
    let (set, rest) ← readMembers (cs.length + 1) [] cs
    return (.char set folds, rest)
  | '\\' :: 'A' :: cs => some (.anchor .start, cs)
  | '\\' :: 'z' :: cs => some (.anchor .stop, cs)
  | '\\' :: 'b' :: cs => some (.anchor .edge, cs)
  | '\\' :: 'B' :: cs => some (.anchor .notEdge, cs)
  | '\\' :: c :: cs =>
    match namedSet? c with
    | some set => some (.char set false, cs)
    | none => (readEscaped (c :: cs)).map fun (c, rest) => (.char (.single c) folds, rest)
  | c :: cs => if "*+?\x7b".contains c then none else some (.char (.single c) folds, cs)
  | [] => none

mutual

/-- Reads branches up to a closing parenthesis or the end. -/
def readBranches : Nat → Bool → List Char → Option (Pattern × List Char)
  | 0, _, _ => none
  | fuel + 1, folds, cs => do
    let (p, folds, rest) ← readSequence fuel folds cs
    match rest with
    | '|' :: rest =>
      let (q, rest) ← readBranches fuel folds rest
      return (.alt p q, rest)
    | rest => return (p, rest)

/-- Reads one branch, and whether case counts after it. -/
def readSequence : Nat → Bool → List Char → Option (Pattern × Bool × List Char)
  | 0, _, _ => none
  | fuel + 1, folds, cs =>
    let goOn (found : Option (Pattern × List Char)) : Option (Pattern × Bool × List Char) := do
      let (p, rest) ← found
      let (p, rest) ← readMarks (rest.length + 1) p rest
      let (q, folds, rest) ← readSequence fuel folds rest
      return (.seq p q, folds, rest)
    match cs with
    | [] => some (.empty, folds, [])
    | ')' :: _ => some (.empty, folds, cs)
    | '|' :: _ => some (.empty, folds, cs)
    | '(' :: '?' :: 'P' :: '<' :: rest => goOn do
      let (_, rest) ← splitAt? '>' rest
      readGroup fuel folds rest
    | '(' :: '?' :: '<' :: rest => goOn do
      let (_, rest) ← splitAt? '>' rest
      readGroup fuel folds rest
    | '(' :: '?' :: rest =>
      let flags := rest.takeWhile isFlag
      match rest.dropWhile isFlag with
      | ':' :: rest => goOn (readGroup fuel (foldsAfter folds flags) rest)
      | ')' :: rest => readSequence fuel (foldsAfter folds flags) rest
      | _ => none
    | '(' :: rest => goOn (readGroup fuel folds rest)
    | cs => goOn (readSingle folds cs)

def readGroup : Nat → Bool → List Char → Option (Pattern × List Char)
  | 0, _, _ => none
  | fuel + 1, folds, cs => do
    match ← readBranches fuel folds cs with
    | (p, ')' :: rest) => return (p, rest)
    | _ => none

end

def read? (cs : List Char) : Option Pattern :=
  match readBranches (3 * cs.length + 3) false cs with
  | some (p, []) => some p
  | _ => none

end Wagebook.Text.Pattern
