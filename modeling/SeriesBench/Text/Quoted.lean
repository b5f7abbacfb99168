import SeriesBench.Text.Unprintable

/-!
# Quoted text

A text between double quotes, as messages show it. Quotes and backslashes are
marked by a backslash, the common controls have letters, and every other
character without a glyph stands as its number, so that two different texts
never look alike.
-/

namespace SeriesBench.Text

/-- The lower-case hexadecimal numeral of a number, without leading zeros. -/
def hexadecimal (n : Nat) : String :=
  String.ofList (Nat.toDigits 16 n)

/-- One character inside quotes. -/
def quotedChar (c : Char) : String :=
  if c == '"' then "\\\""
  else if c == '\\' then "\\\\"
  else if c == '\n' then "\\n"
  else if c == '\r' then "\\r"
  else if c == '\t' then "\\t"
  else if c == '\x00' then "\\0"
  else if isUnprintable c then "\\u\x7b" ++ hexadecimal c.toNat ++ "\x7d"
  else String.singleton c

/-- The text in double quotes. -/
def quoted (s : String) : String :=
  "\"" ++ String.join (s.toList.map quotedChar) ++ "\""

end SeriesBench.Text
