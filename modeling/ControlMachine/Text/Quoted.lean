import ControlMachine.Text.Hex
import ControlMachine.Text.Property

/- Text shown between quotes, with what cannot be shown spelled out. -/
namespace ControlMachine.Quoted

/-- Only the quote that would end the text is escaped. -/
def escape (quote c : Char) : String :=
  if c = '\x00' then "\\0"
  else if c = '\t' then "\\t"
  else if c = '\r' then "\\r"
  else if c = '\n' then "\\n"
  else if c = '\\' ∨ c = quote then String.ofList ['\\', c]
  else if Property.holds Property.graphemeExtend c || Property.holds Property.unprintable c then
    "\\u\x7b" ++ Hex.lower c.toNat ++ "\x7d"
  else String.singleton c

def text (s : List Char) : String :=
  "\"" ++ String.join (s.map (escape '"')) ++ "\""

def char (c : Char) : String := "'" ++ escape '\'' c ++ "'"

end ControlMachine.Quoted
