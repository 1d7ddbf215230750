import Windowing.Number.Hex
import Windowing.Text.Visible

/-!
A character between single quotes, as it appears in log lines. The quote and the backslash are
escaped, the common controls have a letter, and every other character without a picture of its own
is given by its code point.
-/

namespace Windowing.Text

def escape (c : Char) : List Char :=
  match c with
  | '\x00' => ['\\', '0']
  | '\t' => ['\\', 't']
  | '\r' => ['\\', 'r']
  | '\n' => ['\\', 'n']
  | '\'' => ['\\', '\'']
  | '\\' => ['\\', '\\']
  | c =>
    if isVisible c then [c]
    else ['\\', 'u', '{'] ++ (Number.hexDigits c.toNat).toList ++ ['}']

def quoted (c : Char) : String :=
  String.ofList ('\'' :: escape c ++ ['\''])

end Windowing.Text
