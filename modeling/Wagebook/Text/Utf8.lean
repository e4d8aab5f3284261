/-!
Texts as bytes in UTF-8, and what can be made out of bytes that are none.
-/

namespace Wagebook.Text

def utf8 (s : String) : List UInt8 := s.toUTF8.toList

def ofUtf8? (bytes : List UInt8) : Option String := String.fromUTF8? (ByteArray.mk bytes.toArray)

/-- The character that bytes begin with, and how many of them it takes. -/
def firstChar? (bytes : List UInt8) : Option (Char × Nat) :=
  [1, 2, 3, 4].findSome? fun n => do
    let text ← ofUtf8? (bytes.take n)
    return (← text.toList.head?, n)

/-- The characters that bytes spell after the first `n`, and nothing for each byte that is part of
none. -/
def chars : Nat → List UInt8 → List (Option Char)
  | _, [] => []
  | n + 1, _ :: bytes => chars n bytes
  | 0, b :: bytes =>
    match firstChar? (b :: bytes) with
    | some (c, n) => some c :: chars (n - 1) bytes
    | none => none :: chars 0 bytes

/-- How many bytes at the front could be the beginning of a character, but are none. A byte that
begins no character counts alone. -/
def brokenLength : List UInt8 → Nat
  | a :: b :: rest =>
    let least : UInt8 := if a = 0xE0 then 0xA0 else if a = 0xF0 then 0x90 else 0x80
    let most : UInt8 := if a = 0xED then 0x9F else if a = 0xF4 then 0x8F else 0xBF
    if 0xE0 ≤ a ∧ a ≤ 0xF4 ∧ least ≤ b ∧ b ≤ most then
      match rest with
      | c :: _ => if 0xF0 ≤ a ∧ 0x80 ≤ c ∧ c ≤ 0xBF then 3 else 2
      | [] => 2
    else 1
  | _ => 1

/-- Stands for bytes that are part of no character. -/
def replacement : Char := '\ufffd'

/-- The characters that bytes spell after the first `n`, with one replacement for each beginning of
a character that is broken off. -/
def lossy : Nat → List UInt8 → List Char
  | _, [] => []
  | n + 1, _ :: bytes => lossy n bytes
  | 0, b :: bytes =>
    match firstChar? (b :: bytes) with
    | some (c, n) => c :: lossy (n - 1) bytes
    | none => replacement :: lossy (brokenLength (b :: bytes) - 1) bytes

end Wagebook.Text
