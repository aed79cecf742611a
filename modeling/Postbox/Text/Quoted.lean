import Postbox.Text.Hex
import Postbox.Text.Visible

namespace Postbox.Text

/-!
# Quoted text

A text between double quotes in which every character that would be unclear is escaped: the quote
and the backslash by a backslash, the common controls by a letter, and every other character that
is not visible by its code point in hexadecimal between braces.

* `Quoted.escape` — the written form of one character.
* `quote` — the written form of a text.
-/

namespace Quoted

/-- How `c` is written between the quotes. -/
def escape (c : Char) : List Char :=
  match c with
  | '\x00' => ['\\', '0']
  | '\t' => ['\\', 't']
  | '\r' => ['\\', 'r']
  | '\n' => ['\\', 'n']
  | '\\' => ['\\', '\\']
  | '"' => ['\\', '"']
  | c => if isVisible c then [c] else ['\\', 'u', '\x7b'] ++ hex c.toNat ++ ['\x7d']

end Quoted

/-- The text between quotes. -/
def quote (cs : List Char) : List Char := '"' :: cs.flatMap Quoted.escape ++ ['"']

/-- The text of a string between quotes, as a string. -/
def quoted (s : String) : String := String.ofList (quote s.toList)

@[simp] theorem toList_quoted (s : String) : (quoted s).toList = quote s.toList := by
  simp [quoted]

end Postbox.Text
