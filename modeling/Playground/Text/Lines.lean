/-!
# Lines of text

How text is cut into lines. Three ways occur: printed output drops empty lines, a message keeps
them but not the line ends, and `cut` keeps every piece.

* `cut` — the pieces between separators.
* `printed` — the lines a program prints: the non-empty pieces.
* `ofMessage` — the lines of a message: a final line end opens no further line.
* `isBlank` — whether a text is white space only.
-/

set_option autoImplicit false

namespace Playground.Text.Lines

/-- The pieces of a list between the elements equal to `sep`, in order. There is always one. -/
def cut {α : Type} [BEq α] (sep : α) (xs : List α) : List (List α) :=
  xs.foldr
    (fun x pieces =>
      if x == sep then [] :: pieces
      else match pieces with
        | [] => [[x]]
        | piece :: others => (x :: piece) :: others)
    [[]]

/-- The lines of printed text. Only a line feed ends a line and an empty line is not printed. -/
def printed (text : List Char) : List String :=
  ((cut '\n' text).filter (!·.isEmpty)).map String.ofList

/-- The line without the carriage return that ends it, if one does. -/
def dropReturn (line : List Char) : List Char :=
  if line.getLast? = some '\r' then line.dropLast else line

/-- The list without the empty lines that end it. -/
def dropEmptyEnd (lines : List (List Char)) : List (List Char) :=
  (lines.reverse.dropWhile (·.isEmpty)).reverse

/-- The lines of a message. A line feed ends a line together with a carriage return in front of it;
the text behind the last line feed is a line of its own unless it is empty. -/
def ofMessage (message : String) : List String :=
  let pieces := cut '\n' message.toList
  let ended := pieces.dropLast.map dropReturn
  match pieces.getLast? with
  | none | some [] => ended.map String.ofList
  | some last => (ended ++ [last]).map String.ofList

/-- White space: the characters that separate words and lines in any script. -/
def isSpace (c : Char) : Bool :=
  let n := c.toNat
  (0x9 ≤ n && n ≤ 0xD) || n == 0x20 || n == 0x85 || n == 0xA0 || n == 0x1680 ||
    (0x2000 ≤ n && n ≤ 0x200A) || n == 0x2028 || n == 0x2029 || n == 0x202F || n == 0x205F ||
    n == 0x3000

/-- Whether the characters are white space only. -/
def isBlank (text : List Char) : Bool := text.all isSpace

/-- The text without the white space at either end. -/
def trim (text : String) : String :=
  String.ofList ((text.toList.dropWhile isSpace).reverse.dropWhile isSpace).reverse

end Playground.Text.Lines
