/-!
# Double quotes in the shell

Between double quotes the shell gives four characters a meaning. A backslash before one of them
takes the meaning away, so text is safe there once each of the four has a backslash.
-/

namespace SyncScript.Shell

/-- The characters that keep a meaning between double quotes. -/
def isSpecial (c : Char) : Bool :=
  c == '\\' || c == '"' || c == '$' || c.toNat == 0x60

def escapeChars : List Char → List Char
  | [] => []
  | c :: cs => if isSpecial c then '\\' :: c :: escapeChars cs else c :: escapeChars cs

/-- Text as it is written between double quotes. -/
def escape (s : String) : String :=
  String.ofList (escapeChars s.toList)

/-- A text as one word of a command line. -/
def doubleQuoted (s : String) : String :=
  "\"" ++ escape s ++ "\""

end SyncScript.Shell
