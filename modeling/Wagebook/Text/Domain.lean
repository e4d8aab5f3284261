import Wagebook.Text.Domain.Table
import Wagebook.Text.Punycode

/-!
Names of hosts in any script. A name is brought into its plain form, in lower case and with ordinary
characters for their variants, and then each of its parts is checked.
-/

namespace Wagebook.Text.Domain

def isIn (ranges : List (Nat × Nat)) (c : Char) : Bool :=
  ranges.any fun (first, last) => first ≤ c.toNat && c.toNat ≤ last

def isAscii (c : Char) : Bool := c.toNat < 0x80

/-- The characters that a character beyond ASCII stands for, if it stands for ASCII. -/
def asciiForm? (c : Char) : Option (List Char) :=
  asciiForms.findSome? fun (first, forms) =>
    if first ≤ c.toNat then (forms.toList.splitOn ' ')[c.toNat - first]? else none

/-- What a character stands for in a name, if it can. -/
def plain? (c : Char) : Option (List Char) :=
  if isAscii c then some [c.toLower]
  else if isIn ignoredRanges c then some []
  else if isIn refusedRanges c then none
  else some ((asciiForm? c).getD [c])

/-- ASCII characters that no name holds, although they may stand where a name does. -/
def isForbidden (c : Char) : Bool :=
  c.toNat ≤ 0x20 || c.toNat == 0x7F || "%#/:<>?@[\\]^|".contains c

def punycodeMark : List Char := ['x', 'n', '-', '-']

/-- A part of a name as it is meant; one that is spelled in ASCII for others has some of these. -/
def label? (label : List Char) : Option (List Char) :=
  if punycodeMark.isPrefixOf label then do
    let meant ← Punycode.decode? (label.drop punycodeMark.length)
    if meant.all isAscii ∨ ¬ meant.all (fun c => plain? c == some [c]) then none else some meant
  else some label

/-- The blocks of the scripts that are written from right to left. -/
def isRightToLeft (c : Char) : Bool :=
  isIn [(0x590, 0x8FF), (0xFB1D, 0xFDFF), (0xFE70, 0xFEFC), (0x10800, 0x10FFF), (0x1E800, 0x1EFFF)] c

def isLetter (c : Char) : Bool := 'a' ≤ c && c ≤ 'z'

/-- The digits that Arabic is written with. -/
def isArabicDigit (c : Char) : Bool := isIn [(0x660, 0x669)] c

/-- Whether a part runs one way. It begins with a letter, does not end in punctuation, and has
digits of one kind. -/
def runsOneWay (label : List Char) : Bool :=
  let isEnd (c : Char) : Bool := isLetter c || isDigit c || !isAscii c
  match label with
  | [] => true
  | c :: _ =>
    (isLetter c || !isAscii c) && !isArabicDigit c && (label.getLast?.map isEnd).getD true
      && !(label.any isArabicDigit && label.any isDigit)
      && if isRightToLeft c then label.all fun c => isRightToLeft c || (isAscii c && !isLetter c)
        else label.all (!isRightToLeft ·)

def normal? (name : List Char) : Option (List Char) := do
  let plain := (← name.mapM plain?).flatten
  if plain.any isForbidden then none
  let labels ← (plain.splitOn '.').mapM label?
  if labels.any fun label => (label.head?.map (isIn markRanges)).getD false then none
  if labels.any (·.any isRightToLeft) ∧ ¬ labels.all runsOneWay then none
  return plain

end Wagebook.Text.Domain
