import PubSub.Text.Hidden

/-! # Quoted text

Messages show the texts they speak of in quotes.

* **`quote s`** — `s` in double quotes. A quote, a backslash, NUL, tab, line feed and carriage return
  have short escapes; any other hidden character is written by its number in hexadecimal. -/

namespace PubSub

/-- A character inside quotes. -/
def quoteChar (c : Char) : List Char :=
  if c = '\x00' then ['\\', '0']
  else if c = '\t' then ['\\', 't']
  else if c = '\n' then ['\\', 'n']
  else if c = '\r' then ['\\', 'r']
  else if c = '"' then ['\\', '"']
  else if c = '\\' then ['\\', '\\']
  else if isHidden c then ['\\', 'u', '\x7b'] ++ Nat.toDigits 16 c.toNat ++ ['\x7d']
  else [c]

/-- A text in quotes. -/
def quote (s : String) : String := String.ofList ('"' :: s.toList.flatMap quoteChar ++ ['"'])

end PubSub
