import ChildRules.Text.Combining
import ChildRules.Text.Unprintable

/-!
# Quoted text

Text between double quotes, with an escape for each character that would end it, start an escape,
or not be seen. Six characters have an escape of their own; any other that does not print, or that
would join the quote before it, is written as its code point.
-/

namespace ChildRules.Quoted

/-- A code point as an escape, in lower-case hexadecimal without leading zeros. -/
def codePoint (c : Char) : List Char :=
  ['\\', 'u', '\x7b'] ++ Nat.toDigits 16 c.toNat ++ ['\x7d']

/-- What stands for one character between the quotes. -/
def escape (c : Char) : List Char :=
  if c = '\x00' then ['\\', '0']
  else if c = '\t' then ['\\', 't']
  else if c = '\r' then ['\\', 'r']
  else if c = '\n' then ['\\', 'n']
  else if c = '"' then ['\\', '"']
  else if c = '\\' then ['\\', '\\']
  else if isCombining c || isUnprintable c then codePoint c
  else [c]

/-- A text between quotes, each of its characters escaped where it has to be. -/
def text (s : String) : String :=
  String.ofList (['"'] ++ s.toList.flatMap escape ++ ['"'])

end ChildRules.Quoted
