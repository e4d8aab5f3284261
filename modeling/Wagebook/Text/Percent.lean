import Wagebook.Text.Hex
import Wagebook.Text.Utf8

/-!
Percent escapes: a percent sign and two hexadecimal digits stand for one byte.
-/

namespace Wagebook.Text

/-- The bytes of a text with its escapes replaced, but not those of the bytes in `kept`. What only
looks like an escape stands for itself. -/
def unescape (kept : List UInt8) : List Char → List UInt8
  | '%' :: a :: b :: cs =>
    match hexValue? a, hexValue? b with
    | some high, some low =>
      let byte := UInt8.ofNat (high * 16 + low)
      if kept.contains byte then 0x25 :: unescape kept (a :: b :: cs)
      else byte :: unescape kept cs
    | _, _ => 0x25 :: unescape kept (a :: b :: cs)
  | c :: cs => utf8 (String.singleton c) ++ unescape kept cs
  | [] => []

end Wagebook.Text
