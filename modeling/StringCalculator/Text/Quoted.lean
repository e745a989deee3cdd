import StringCalculator.Text.Visible

/-!
# Quoted text

How a file path appears in a message: between quotes, with an escape for every character that would
end the quotation, break the line or not be seen. Everything else stands as it is, so a usual path
is easy to recognise.
-/

namespace StringCalculator.Quoted

/-- A character as it is written between quotes. -/
def escape (c : Char) : List Char :=
  if c = '"' then ['\\', '"']
  else if c = '\\' then ['\\', '\\']
  else if c = '\n' then ['\\', 'n']
  else if c = '\r' then ['\\', 'r']
  else if c = '\t' then ['\\', 't']
  else if c = '\x00' then ['\\', '0']
  else if isVisible c then [c]
  else ['\\', 'u', '\x7b'] ++ Nat.toDigits 16 c.toNat ++ ['\x7d']

/-- A text between quotes. -/
def quote (s : String) : String :=
  String.ofList ('"' :: (s.toList.flatMap escape ++ ['"']))

end StringCalculator.Quoted
