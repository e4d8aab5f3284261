import Wagebook.Text.Blank
import Wagebook.Text.Decimal

/-!
Patterns of texts. A pattern can end at several places of a text that it begins in; they are told in
the order in which they are preferred: an earlier branch before a later one, and more repetitions
before fewer unless a pattern asks for few.
-/

namespace Wagebook.Text

inductive Chars
  | range (first last : Char)
  | digit
  | blank
  | word
  | all
  | other (set : Chars)
  | union (a b : Chars)
  deriving DecidableEq, Repr

namespace Chars

def single (c : Char) : Chars := .range c c

def none : Chars := .other .all

def ofList (sets : List Chars) : Chars := sets.foldr .union none

def isWordChar (c : Char) : Bool :=
  c.isAlphanum || c = '_' || (0x80 ≤ c.toNat && !isBlank c)

def contains : Chars → Char → Bool
  | .range first last, c => first ≤ c && c ≤ last
  | .digit, c => isDigit c
  | .blank, c => isBlank c
  | .word, c => isWordChar c
  | .all, _ => true
  | .other set, c => !set.contains c
  | .union a b, c => a.contains c || b.contains c

end Chars

inductive Anchor
  | start
  | stop
  /-- Between a character of a word and one that is none. -/
  | edge
  | notEdge
  deriving DecidableEq, Repr

inductive Pattern
  | empty
  /-- One character; of a letter, upper and lower case count as one when `folds`. -/
  | char (set : Chars) (folds : Bool)
  | anchor (a : Anchor)
  | seq (p q : Pattern)
  | alt (p q : Pattern)
  /-- So many repetitions, and up to so many more; as many as there are if that is not told. -/
  | repeated (p : Pattern) (least : Nat) (more : Option Nat) (greedy : Bool)
  deriving DecidableEq, Repr

namespace Pattern

/-- A place in a text: what stands before it, the last character first, and what stands after it. -/
structure Place where
  before : List Char
  after : List Char
  deriving DecidableEq, Repr

def Place.isEdge (p : Place) : Bool :=
  (p.before.head?.map Chars.isWordChar).getD false
    != (p.after.head?.map Chars.isWordChar).getD false

def Place.fits (p : Place) : Anchor → Bool
  | .start => p.before.isEmpty
  | .stop => p.after.isEmpty
  | .edge => p.isEdge
  | .notEdge => !p.isEdge

/-- Whether a set has a character, in either case when `folds`. -/
def admits (set : Chars) (folds : Bool) (c : Char) : Bool :=
  set.contains c || (folds && (set.contains c.toLower || set.contains c.toUpper))

/-- Without what is behind an equal place. -/
def distinct (places : List Place) : List Place :=
  places.eraseDupsBy fun p q => p.after.length == q.after.length

def times (step : Place → List Place) : Nat → Place → List Place
  | 0, p => [p]
  | n + 1, p => distinct ((step p).flatMap (times step n))

/-- Up to so many steps. One that does not get on is the last. -/
def atMost (step : Place → List Place) (greedy : Bool) : Nat → Place → List Place
  | 0, p => [p]
  | n + 1, p =>
    let more := (step p).flatMap fun q =>
      if q.after.length = p.after.length then [q] else atMost step greedy n q
    distinct (if greedy then more ++ [p] else p :: more)

/-- The places where a pattern ends that begins at a place, in the order of preference. -/
def ends : Pattern → Place → List Place
  | .empty, p => [p]
  | .char set folds, ⟨before, c :: after⟩ =>
    if admits set folds c then [⟨c :: before, after⟩] else []
  | .char _ _, ⟨_, []⟩ => []
  | .anchor a, p => if p.fits a then [p] else []
  | .seq a b, p => distinct ((a.ends p).flatMap b.ends)
  | .alt a b, p => distinct (a.ends p ++ b.ends p)
  | .repeated a least more greedy, p =>
    distinct ((times a.ends least p).flatMap fun q =>
      atMost a.ends greedy (more.getD (q.after.length + 1)) q)

def literal (cs : List Char) : Pattern :=
  cs.foldr (fun c p => .seq (.char (.single c) false) p) .empty

end Pattern
end Wagebook.Text
