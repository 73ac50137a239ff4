import SpindleLink.Text.Numeral
import SpindleLink.Text.Printable

/-! A text between quotes, with escapes for what would be unclear inside them. -/

namespace SpindleLink
namespace Quoted

/-- Single quotes, unless the text holds single quotes and no double ones. -/
def mark (cs : List Char) : Char := if '\'' ∈ cs ∧ '"' ∉ cs then '"' else '\''

/-- A character without visible form by its number, in the shortest of three widths. -/
def numbered (n : Nat) : List Char :=
  if n < 0x100 then '\\' :: 'x' :: Numeral.filled 16 2 n
  else if n < 0x10000 then '\\' :: 'u' :: Numeral.filled 16 4 n
  else '\\' :: 'U' :: Numeral.filled 16 8 n

def escaped (quote : Char) (c : Char) : List Char :=
  if c = quote ∨ c = '\\' then ['\\', c]
  else if c = '\n' then ['\\', 'n']
  else if c = '\r' then ['\\', 'r']
  else if c = '\t' then ['\\', 't']
  else if Printable.isPrintable c then [c]
  else numbered c.toNat

def text (s : String) : String :=
  let cs := s.toList
  let quote := mark cs
  String.ofList (quote :: cs.flatMap (escaped quote) ++ [quote])

end Quoted
end SpindleLink
