import Propositional.Text.Extender
import Propositional.Text.Unprintable

set_option autoImplicit false

/-!
# Quoted text

A text between quotation marks, written so that it stays on one line and every
character in it can be told apart: a few characters have a short escape, those
that show nothing or attach to their neighbour are given by their number, and the
rest stand for themselves.
-/

namespace Propositional.Text

/-- The digit of a value below sixteen, in lower case. -/
def hexDigit (n : Nat) : Char := if n < 10 then Char.ofNat (48 + n) else Char.ofNat (87 + n)

/-- A number to base sixteen, without leading zeros. -/
def hexadecimal (n : Nat) : List Char :=
  if n < 16 then [hexDigit n] else hexadecimal (n / 16) ++ [hexDigit (n % 16)]
termination_by n
decreasing_by omega

/-- The letter after the backslash in the escape of a character that has a short one. -/
def shortEscape? : Char → Option Char
  | '\x00' => some '0'
  | '\t' => some 't'
  | '\r' => some 'r'
  | '\n' => some 'n'
  | '"' => some '"'
  | '\\' => some '\\'
  | _ => none

/-- A character as it is written inside quotation marks. -/
def escape (c : Char) : List Char :=
  match shortEscape? c with
  | some letter => ['\\', letter]
  | none =>
    if isExtender c || isUnprintable c then
      '\\' :: 'u' :: '\x7b' :: (hexadecimal c.toNat ++ ['\x7d'])
    else [c]

/-- A text in quotation marks. -/
def quoted (s : String) : String :=
  String.ofList ('"' :: (s.toList.flatMap escape ++ ['"']))

/-- A list of texts, each in quotation marks. -/
def quotedList (texts : List String) : String :=
  "[" ++ ", ".intercalate (texts.map quoted) ++ "]"

end Propositional.Text
