import Wagebook.Calendar.StampText
import Wagebook.Json.Record

/-!
Dates and stamps as JSON strings.
-/

namespace Wagebook

def Date.toJson (d : Date) : Json := .str d.toText

def Stamp.toJson (s : Stamp) : Json := .str s.toText

namespace Json

def date? : Json → Option Date
  | .str s => Date.read? s.toList
  | _ => none

def stamp? : Json → Option Stamp
  | .str s => Stamp.read? s.toList
  | _ => none

end Json
end Wagebook
