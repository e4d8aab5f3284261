import Wagebook.Calendar.StampText
import Wagebook.Json.Writer

/-!
Statements for a database server: text with a question mark for each value, and the values.
-/

namespace Wagebook

inductive Cell
  | null
  | bool (b : Bool)
  | int (n : Int)
  | text (s : String)
  | date (d : Date)
  | stamp (s : Stamp)
  | json (v : Json)

/-- What stands in one place of a row that is inserted: a value that is sent beside the text, or a
word of the text. -/
inductive Place
  | bound (value : Cell)
  | word (text : String)

/-- A value as it is sent, a stamp without what is below a microsecond. -/
def Cell.encoded : Cell → Cell
  | .stamp s => .stamp s.toMicros
  | value => value

inductive Statement
  | begin
  | commit
  | rollback
  | insert (table : String) (columns : List String) (rows : List (List Place))
  | query (text : String) (params : List Cell)

namespace Place

def ofNat (n : Nat) : Place := .bound (.int n)

def ofInt (n : Int) : Place := .bound (.int n)

def ofText (s : String) : Place := .bound (.text s)

def ofDate (d : Date) : Place := .bound (.date d)

def ofStamp (s : Stamp) : Place := .bound (.stamp s)

def ofOption (place : α → Place) : Option α → Place
  | none => .bound .null
  | some a => place a

def text : Place → String
  | .bound _ => "?"
  | .word text => text

def param? : Place → Option Cell
  | .bound value => some value.encoded
  | .word _ => none

end Place

namespace Statement

def parenthesized (parts : List String) : String := "(" ++ ", ".intercalate parts ++ ")"

def text : Statement → String
  | .begin => "BEGIN"
  | .commit => "COMMIT"
  | .rollback => "ROLLBACK"
  | .insert table columns rows =>
    "INSERT INTO " ++ table ++ " " ++ parenthesized columns ++ " VALUES " ++
      ", ".intercalate (rows.map fun row => parenthesized (row.map Place.text))
  | .query text _ => text

def params : Statement → List Cell
  | .insert _ _ rows => rows.flatMap (·.filterMap Place.param?)
  | .query _ params => params.map Cell.encoded
  | _ => []

end Statement
end Wagebook
