import Testbed.Dictionary
import Testbed.Text.Blank

/-!
# Dotenv files

One line per variable, in the order of the names. A value with blanks or with characters that a
shell reads specially stands between double quotes.
-/

namespace Testbed.Dotenv

/-- Characters that make quotes necessary. -/
def needsQuotes (c : Char) : Bool :=
  Text.isBlank c || c == '"' || c == '\'' || c == '#' || c == '\\' || c == '$'

/-- One character between the quotes. -/
def escape (c : Char) : List Char :=
  if c = '"' || c = '\\' || c = '$' then ['\\', c]
  else if c = '\n' then ['\\', 'n']
  else [c]

def valueText (value : String) : String :=
  if value.toList.any needsQuotes then
    String.ofList ('"' :: value.toList.flatMap escape ++ ['"'])
  else value

def line (entry : String × String) : String :=
  entry.1 ++ "=" ++ valueText entry.2 ++ "\n"

def render (environment : Dictionary) : String :=
  String.join (environment.entries.map line)

end Testbed.Dotenv
