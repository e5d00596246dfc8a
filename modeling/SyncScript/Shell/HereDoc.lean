/-!
# Here-documents

A here-document feeds lines to a command up to the first line that equals its delimiter, so the
delimiter must differ from every line of the content.
-/

namespace SyncScript.Shell

/-- The delimiters to choose from: `EOF`, `EOF_1`, `EOF_2` and so on. -/
def delimiterName (n : Nat) : String :=
  if n = 0 then "EOF" else "EOF_" ++ toString n

/-- The first delimiter that is not a line of the content. The names are distinct, so one more of
them than there are lines is enough to look at. -/
def delimiter (content : List String) : String :=
  (((List.range (content.length + 1)).map delimiterName).find? (! content.contains ·)).getD ""

/-- The lines that write `content` to a file, taken literally. -/
def writeLines (file : String) (content : List String) : List String :=
  let close := delimiter content
  ["cat > " ++ file ++ " <<'" ++ close ++ "'"] ++ content ++ [close]

end SyncScript.Shell
