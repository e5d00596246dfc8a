/-!
# Characters and text

Text is examined as a list of characters. A character is a space or a control character
by its Unicode property, so trimming also removes no-break and ideographic spaces.
-/

namespace SyncScript.Text

/-- A character with the Unicode property `White_Space`. -/
def isSpace (c : Char) : Bool :=
  let n := c.toNat
  (9 ≤ n && n ≤ 13) || n == 0x20 || n == 0x85 || n == 0xA0 || n == 0x1680 ||
    (0x2000 ≤ n && n ≤ 0x200A) || n == 0x2028 || n == 0x2029 || n == 0x202F || n == 0x205F ||
    n == 0x3000

/-- A control character: one of the two blocks of category `Cc`. -/
def isControl (c : Char) : Bool :=
  c.toNat < 32 || (127 ≤ c.toNat && c.toNat ≤ 159)

def trimStart (cs : List Char) : List Char :=
  cs.dropWhile isSpace

def trimEnd (cs : List Char) : List Char :=
  (cs.reverse.dropWhile isSpace).reverse

def trim (cs : List Char) : List Char :=
  trimEnd (trimStart cs)

/-- `pattern` occurs somewhere in `cs`. -/
def occursIn (pattern : List Char) : List Char → Bool
  | [] => pattern.isEmpty
  | c :: cs => pattern.isPrefixOf (c :: cs) || occursIn pattern cs

/-- The pieces between occurrences of `sep`; there is always one more piece than separators. -/
def splitAtEach (sep : Char) : List Char → List (List Char)
  | [] => [[]]
  | c :: cs =>
    if c = sep then [] :: splitAtEach sep cs
    else
      match splitAtEach sep cs with
      | [] => [[c]]
      | piece :: pieces => (c :: piece) :: pieces

/-- A carriage return in last place belongs to the line end, not to the line. -/
def dropReturn (line : List Char) : List Char :=
  if line.getLast? = some '\r' then line.dropLast else line

/-- The lines of a text. A final line end closes its line and opens no empty one; only a line
that is closed can lose a carriage return. -/
def lines (cs : List Char) : List (List Char) :=
  let pieces := splitAtEach '\n' cs
  pieces.dropLast.map dropReturn ++ pieces.getLast?.toList.filter (! ·.isEmpty)

/-- A string that holds nothing but spaces counts as not given. -/
def isBlank (s : String) : Bool :=
  s.toList.all isSpace

/-- A string without the spaces at its two ends. -/
def trimmed (s : String) : String :=
  String.ofList (trim s.toList)

/-- An optional string, taken as not given when it is blank. -/
def given (s : Option String) : Option String :=
  s.filter (! isBlank ·)

def beginsWith (s start : String) : Bool :=
  start.toList.isPrefixOf s.toList

/-- ASCII letters are taken as lower case, any other character as itself. -/
def lowerAscii (s : String) : String :=
  String.ofList (s.toList.map Char.toLower)

end SyncScript.Text
