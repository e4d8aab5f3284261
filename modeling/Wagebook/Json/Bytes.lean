import Wagebook.Json.Reader
import Wagebook.Text.Utf8

/-!
Reading JSON from bytes. They need not be UTF-8 throughout: a string that is not has no value, but
can be skipped.
-/

namespace Wagebook.Json

def charsOf? (bytes : List UInt8) : Option (List Char) :=
  if bytes.contains 0 then none
  else
    match Text.ofUtf8? bytes with
    | some text => some text.toList
    | none => some ((Text.chars 0 bytes).map (·.getD gap))

def ofBytes? (bytes : List UInt8) : Option Json := do read? (← charsOf? bytes)

end Wagebook.Json
