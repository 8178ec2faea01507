import PlatformManifests.Text.Printable

/-!
Text between double quotes, for messages. Quotes, backslashes and line ends are escaped, and a
character without a shape of its own is shown by its code point.
-/
namespace PlatformManifests.Text

/-- The lower-case hexadecimal digits of a code point. -/
def codePoint (c : Char) : String := String.ofList (Nat.toDigits 16 c.toNat)

def quotedChar (c : Char) : String :=
  if c = '\x00' then "\\0"
  else if c = '\t' then "\\t"
  else if c = '\n' then "\\n"
  else if c = '\r' then "\\r"
  else if c = '"' then "\\\""
  else if c = '\\' then "\\\\"
  else if isPrintable c then String.singleton c
  else "\\u\x7b" ++ codePoint c ++ "\x7d"

def quoted (text : String) : String :=
  "\"" ++ String.join (text.toList.map quotedChar) ++ "\""

end PlatformManifests.Text
