import Playground.Config.Toml.Scalar
import Playground.Config.Toml.Table

/-!
# Documents

The grammar of TOML documents: lines that open a table or put a value under a key.

* `value` — a value with all its parts.
* `statement` — a line of a document.
* `parse` — a whole document.
-/

set_option autoImplicit false

namespace Playground.Config.Toml

open Text

/-- Takes blanks off a text. -/
def dropSpaces (text : List Char) : List Char := text.dropWhile Quotation.isSpace

/-- Takes blanks, line ends and comments off a text; `inComment` says that a comment has begun. -/
def dropBlank (inComment : Bool) : List Char → List Char
  | [] => []
  | '\n' :: rest => dropBlank false rest
  | '\r' :: '\n' :: rest => dropBlank false rest
  | c :: rest =>
    if inComment then (if Quotation.isPlain c then dropBlank true rest else c :: rest)
    else if c = '#' then dropBlank true rest
    else if Quotation.isSpace c then dropBlank false rest
    else c :: rest

/-! ## Keys -/

def isKeyChar (c : Char) : Bool := c.isAlphanum || c = '_' || c = '-'

/-- One name of a key, bare or in quotes. -/
def keyName : Scan String := do
  match ← Scan.peek with
  | some '"' | some '\'' => Quotation.line
  | _ =>
    let name ← Scan.takeWhile isKeyChar
    Scan.require (!name.isEmpty)
    return String.ofList name

/-- The names of a key behind those in `parents`. The budget bounds their number. -/
def keyFrom (parents : List String) : Nat → Scan Key
  | 0 => Scan.fail
  | budget + 1 => do
    Scan.drop dropSpaces
    let name ← keyName
    Scan.drop dropSpaces
    if ← Scan.word? "." then keyFrom (parents ++ [name]) budget
    else return ⟨parents, name⟩

/-- A key: names with points between them. -/
def key : Scan Key := do keyFrom [] ((← Scan.left) + 1)

/-! ## Values -/

/-- A key and its value, read by `value`. -/
def entry (value : Scan Node) : Scan (Key × Node) := do
  let k ← key
  Scan.expect '='
  Scan.drop dropSpaces
  return (k, ← value)

/-- How deep brackets and braces may be nested. -/
def depthLimit : Nat := 80

/-- A value in which brackets and braces are nested at most so deep. -/
def value : Nat → Scan Node
  | 0 => do
    match ← Scan.peek with
    | some '"' | some '\'' => return .value (.text (← Quotation.scan))
    | _ => return .value (← Bare.scan)
  | depth + 1 => do
    match ← Scan.peek with
    | some '"' | some '\'' => return .value (.text (← Quotation.scan))
    | some '[' =>
      Scan.expect '['
      let items ← Scan.between (dropBlank false) true ']' (value depth)
      return .value (.list (items.map Node.setting))
    | some '\x7b' =>
      Scan.expect '\x7b'
      let entries ← Scan.between (dropBlank false) true '\x7d' (entry (value depth))
      match inlineTable? entries with
      | some table => return table
      | none => Scan.fail
    | _ => return .value (← Bare.scan)

/-! ## Lines -/

/-- The end of a line: blanks, perhaps a comment, and a line end unless the text is over. -/
def lineEnd : Scan Unit := fun text =>
  let text := dropSpaces text
  let text := if text.head? = some '#' then text.dropWhile Quotation.isPlain else text
  match text with
  | [] => some ((), [])
  | text => ((), ·) <$> Quotation.dropLineEnd? text

/-- What one line says. -/
def statement : Scan Statement := do
  if ← Scan.word? "[[" then
    let k ← key
    Scan.require (← Scan.word? "]]")
    return .element k
  else if ← Scan.word? "[" then
    let k ← key
    Scan.expect ']'
    return .table k
  else
    let (k, node) ← entry (value depthLimit)
    return .entry k node

/-- What the lines say. The budget bounds their number. -/
def statements (done : Array Statement) : Nat → Scan (List Statement)
  | 0 => Scan.fail
  | budget + 1 => do
    Scan.drop (dropBlank false)
    if ← Scan.atEnd then return done.toList
    let s ← statement
    lineEnd
    statements (done.push s) budget

/-- The text without a mark of the byte order at its front. -/
def dropMark : List Char → List Char
  | '\ufeff' :: rest => rest
  | text => text

/-- The entries of the outermost table of a document; none if the text is no document. -/
def parse (text : String) : Option (List (String × Setting)) := do
  let text := dropMark text.toList
  let statements ← Scan.whole (statements #[] (text.length + 1)) text
  let document ← Document.ofStatements statements
  return document.settings

end Playground.Config.Toml
