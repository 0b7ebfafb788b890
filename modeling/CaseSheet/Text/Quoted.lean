import CaseSheet.Number.Hex
import CaseSheet.Text.Hidden
/-!
# Quoted texts

How messages show a text or a path: between quotes, with a backslash in front of quotes and
backslashes, and with escapes for characters that do not show.
-/

namespace CaseSheet.Text

/-- A character as it stands between quotes; `marks` are the quotes that take a backslash. -/
def escapeChar (marks : List Char) (c : Char) : List Char :=
  match c with
  | '\x00' => ['\\', '0']
  | '\t' => ['\\', 't']
  | '\n' => ['\\', 'n']
  | '\r' => ['\\', 'r']
  | '\\' => ['\\', '\\']
  | c =>
    if marks.contains c then ['\\', c]
    else if isHidden c then '\\' :: 'u' :: '\x7b' :: (Hex.lower c.toNat ++ ['\x7d'])
    else [c]

/-- A text between double quotes, with the given marks escaped. -/
def quoteWith (marks : List Char) (cs : List Char) : List Char :=
  '"' :: (cs.flatMap (escapeChar marks) ++ ['"'])

end CaseSheet.Text

namespace CaseSheet

/-- A text between quotes. -/
def quoted (s : String) : String := String.ofList (Text.quoteWith ['"'] s.toList)

/-- A path between quotes; in paths single quotes take a backslash as well. -/
def quotedPath (s : String) : String := String.ofList (Text.quoteWith ['"', '\''] s.toList)

end CaseSheet
