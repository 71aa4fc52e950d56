import ControlSurface.Text.Visible

/- A text as messages quote it: between double quotes, with the quote, the backslash and
   the common controls behind a backslash and every other invisible character by its
   number. -/
namespace ControlSurface.Text

/-- The digits of a number in a base, the most significant first, in lower case. -/
def digitsIn (base n : Nat) : List Char := Nat.toDigits base n

/-- A number in base sixteen with at least `width` digits. -/
def paddedHex (width n : Nat) : List Char :=
  let digits := digitsIn 16 n
  List.replicate (width - digits.length) '0' ++ digits

/-- One character of a quoted text. -/
def quotedChar (c : Char) : List Char :=
  if c = '\x22' then ['\\', '\x22']
  else if c = '\\' then ['\\', '\\']
  else if c = '\n' then ['\\', 'n']
  else if c = '\r' then ['\\', 'r']
  else if c = '\t' then ['\\', 't']
  else if c = '\x00' then ['\\', '0']
  else if isVisible c then [c]
  else '\\' :: 'u' :: '\x7b' :: digitsIn 16 c.toNat ++ ['\x7d']

/-- A text between quotes. -/
def quoted (s : String) : String :=
  String.ofList ('\x22' :: s.toList.flatMap quotedChar ++ ['\x22'])

end ControlSurface.Text
