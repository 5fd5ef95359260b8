import Playground.Shell.Script

/-!
# The grammar of scripts

A script is read and run one line at a time, so that what stands in front of a mistake still runs.

* `pieces` — the parts of a word.
* `next` — the commands of the next line, or of as many lines as they need.
-/

set_option autoImplicit false

namespace Playground.Shell

namespace Grammar

/-! ## Words -/

def isBlank (c : Char) : Bool := c = ' ' || c = '\t'

/-- Characters that end a word. -/
def isMeta (c : Char) : Bool := isBlank c || c = '\n' || ";&|<>()".toList.contains c

def isNameStart (c : Char) : Bool := c.isAlpha || c = '_'

def isNameChar (c : Char) : Bool := c.isAlphanum || c = '_'

def isName (s : Raw) : Bool := (s.head?.map isNameStart).getD false && s.all isNameChar

/-- Names of parameters that are one sign long. -/
def isSpecial (c : Char) : Bool := "@*#?$!-".toList.contains c

/-- The name of a parameter at the front of a text, and what stands behind it. -/
def parameterName? : Raw → Option (Raw × Raw)
  | [] => none
  | c :: rest =>
    if isNameStart c then some ((c :: rest).takeWhile isNameChar, (c :: rest).dropWhile isNameChar)
    else if c.isDigit then some ((c :: rest).takeWhile Char.isDigit, (c :: rest).dropWhile Char.isDigit)
    else if isSpecial c then some ([c], rest)
    else none

/-- What stands between a name and a closing brace. -/
def use? : Raw → Option Use
  | [] => some .value
  | ':' :: '-' :: word => some (.orElse true word)
  | ':' :: '=' :: word => some (.orAssign true word)
  | ':' :: '+' :: word => some (.ifSet true word)
  | ':' :: '?' :: word => some (.orFail true word)
  | '-' :: word => some (.orElse false word)
  | '=' :: word => some (.orAssign false word)
  | '+' :: word => some (.ifSet false word)
  | '?' :: word => some (.orFail false word)
  | '#' :: '#' :: word => some (.trimStart true word)
  | '#' :: word => some (.trimStart false word)
  | '%' :: '%' :: word => some (.trimEnd true word)
  | '%' :: word => some (.trimEnd false word)
  | _ => none

/-- The parameter that stands in braces. -/
def braced? (inside : Raw) (quoted : Bool) : Option Piece :=
  match inside with
  | ['#'] => some (.parameter ['#'] .value quoted)
  | '#' :: name =>
    match parameterName? name with
    | some (name, []) => some (.parameter name .length quoted)
    | _ => none
  | inside => do
    let (name, rest) ← parameterName? inside
    return .parameter name (← use? rest) quoted

/-- The signs that close what is open, the innermost first, after one more character. -/
def openAfter (stack : List Char) (last c : Char) : List Char :=
  match stack with
  | '\'' :: outer => if c = '\'' then outer else stack
  | closing :: outer =>
    if c = closing then outer
    else if c = '`' then '`' :: stack
    else if c = '(' && (last = '$' || closing = ')') then ')' :: stack
    else if c = '\x7b' && last = '$' then '\x7d' :: stack
    else if closing = '"' || closing = '`' then stack
    else if c = '"' || c = '\'' then c :: stack
    else stack
  | [] => []

/-- The text up to the sign that closes what is open, and the text behind it. A backslash takes the
meaning from the next character. -/
def enclosed (stack : List Char) (last : Char) (done : Raw) : Raw → Option (Raw × Raw)
  | [] => none
  | c :: rest =>
    if stack.head? != some '\'' && last = '\\' then enclosed stack ' ' (c :: done) rest
    else if stack.head? != some '\'' && c = '\\' then enclosed stack c (c :: done) rest
    else
      match openAfter stack last c with
      | [] => some (done.reverse, rest)
      | stack => enclosed stack c (c :: done) rest

/-- The text up to a closing sign. -/
def closedBy (closing : Char) (text : Raw) : Option (Raw × Raw) := enclosed [closing] ' ' [] text

/-- The expression in a second pair of parentheses, if there is one. -/
def arithmetic? : Raw → Option Raw
  | '(' :: inside =>
    match closedBy ')' inside with
    | some (expression, []) => some expression
    | _ => none
  | _ => none

/-- What a dollar sign stands for, given the text behind it; it may stand for itself. -/
def dollar (quoted : Bool) (text : Raw) : Except String (Piece × Raw) :=
  match text with
  | '(' :: rest =>
    match closedBy ')' rest with
    | none => .error "Syntax error: end of file unexpected (expecting \")\")"
    | some (inside, rest) =>
      match arithmetic? inside with
      | some expression => .ok (.arithmetic expression quoted, rest)
      | none => .ok (.output inside quoted, rest)
  | '\x7b' :: rest =>
    match closedBy '\x7d' rest with
    | none => .error "Syntax error: Missing '\x7d'"
    | some (inside, rest) =>
      match braced? inside quoted with
      | some piece => .ok (piece, rest)
      | none => .error "Bad substitution"
  | text =>
    match parameterName? text with
    | none => .ok (.text ['$'] quoted, text)
    | some (name, rest) =>
      if (name.head?.map Char.isDigit).getD false then
        .ok (.parameter (name.take 1) .value quoted, name.drop 1 ++ rest)
      else .ok (.parameter name .value quoted, rest)

/-- The script between backquotes: a backslash in front of a dollar sign, a backquote or a backslash
does not belong to it. -/
def unescape : Raw → Raw
  | '\\' :: c :: rest =>
    if c = '$' || c = '`' || c = '\\' then c :: unescape rest else '\\' :: c :: unescape rest
  | c :: rest => c :: unescape rest
  | [] => []

/-- Where a row of pieces stands. -/
inductive Context where
  /-- A word of a command. -/
  | word
  /-- Between double quotes. -/
  | quotes
  /-- Text without an end of its own, which is not quoted. -/
  | plain
  /-- Text without an end of its own, which is quoted. -/
  | document
  deriving DecidableEq, Repr

namespace Context

def isQuoted (c : Context) : Bool := c = quotes || c = document

/-- Whether a character ends the row. -/
def endsAt (c : Context) (next : Char) : Bool :=
  (c = word && isMeta next) || (c = quotes && next = '"')

/-- Whether a backslash takes its meaning from a character. -/
def escapes (c : Context) (next : Char) : Bool :=
  match c with
  | word | plain => true
  | quotes => "$`\"\\".toList.contains next
  | document => "$`\\".toList.contains next

end Context

/-- One more character in front of a row of pieces. -/
def consChar (c : Char) (quoted : Bool) (word : Word) : Word :=
  match word with
  | .text s q :: rest => if q = quoted then .text (c :: s) q :: rest else .text [c] quoted :: word
  | word => .text [c] quoted :: word

def unterminated : String := "Syntax error: Unterminated quoted string"

/-- The pieces at the front of a text, and what stands behind them. The budget bounds their
number. -/
def pieces (context : Context) : Nat → Raw → Except String (Word × Raw)
  | _, [] => if context = .quotes then .error unterminated else .ok ([], [])
  | 0, _ => .error unterminated
  | budget + 1, c :: rest =>
    if context.endsAt c then .ok ([], c :: rest)
    else if c = '\\' then
      match rest with
      | [] => .ok ([.text ['\\'] true], [])
      | '\n' :: rest => pieces context budget rest
      | d :: rest =>
        if context.escapes d then do
          let (word, rest) ← pieces context budget rest
          return (consChar d true word, rest)
        else do
          let (word, rest) ← pieces context budget rest
          return (consChar '\\' true (consChar d true word), rest)
    else if c = '$' then do
      let (piece, rest) ← dollar context.isQuoted rest
      let (word, rest) ← pieces context budget rest
      return (piece :: word, rest)
    else if c = '`' then
      match closedBy '`' rest with
      | none => .error "Syntax error: EOF in backquote substitution"
      | some (inside, rest) => do
        let (word, rest) ← pieces context budget rest
        return (.output (unescape inside) context.isQuoted :: word, rest)
    else if c = '\'' && !context.isQuoted then
      match closedBy '\'' rest with
      | none => .error unterminated
      | some (inside, rest) => do
        let (word, rest) ← pieces context budget rest
        return (.text inside true :: word, rest)
    else if c = '"' && context != .document then do
      let (inside, rest) ← pieces .quotes budget rest
      let (word, rest) ← pieces context budget (rest.drop 1)
      return ((if inside = [] then [.text [] true] else inside) ++ word, rest)
    else do
      let (word, rest) ← pieces context budget rest
      return (consChar c context.isQuoted word, rest)

/-- The pieces of a whole text. -/
def whole (context : Context) (text : Raw) : Except String Word :=
  (·.1) <$> pieces context (text.length + 1) text

/-! ## Tokens -/

/-- A reader of scripts. What it was given to read has a number of lines; what it has not read yet
is its state, also after a mistake. -/
abbrev Read := ReaderT Nat (ExceptT String (StateM Raw))

/-- The line of what comes next. -/
def line : Read Nat := do
  let rest ← get
  return 1 + (← read) - rest.count '\n'

/-- Drops blanks, continued lines and a comment. -/
def dropBlanks : Raw → Raw
  | '\\' :: '\n' :: rest => dropBlanks rest
  | c :: rest =>
    if isBlank c then dropBlanks rest
    else if c = '#' then rest.dropWhile (· != '\n')
    else c :: rest
  | [] => []

def skipBlanks : Read Unit := modify dropBlanks

/-- Skips blanks, comments and line ends. The budget bounds the number of lines. -/
def skipLines : Nat → Read Unit
  | 0 => skipBlanks
  | budget + 1 => do
    skipBlanks
    match ← get with
    | '\n' :: rest =>
      set rest
      skipLines budget
    | _ => return ()

def skipBreaks : Read Unit := do skipLines (← get).length

/-- Takes a sign off the text if the text begins with it. -/
def sign? (s : String) : Read Bool := do
  let rest ← get
  if s.toList.isPrefixOf rest then
    set (rest.drop s.length)
    return true
  else return false

/-- The word that comes next if it has no special signs; otherwise nothing. -/
def bareWord : Read String := do
  let rest ← get
  let isPlain (c : Char) : Bool := !isMeta c && !"'\"\\$`".toList.contains c
  let word := rest.takeWhile isPlain
  match rest.drop word.length with
  | c :: _ => return if isMeta c then String.ofList word else ""
  | [] => return String.ofList word

/-- Takes a reserved word off the text if it comes next. -/
def keyword? (word : String) : Read Bool := do
  skipBlanks
  if (← bareWord) = word then
    modify (·.drop word.length)
    return true
  else return false

/-- What comes next, as it is called in messages. -/
def nextToken : Read String := do
  skipBlanks
  match ← get with
  | [] => return "end of file"
  | '\n' :: _ => return "newline"
  | rest =>
    let signs := [";;", "&&", "||", ";", "&", "|", "(", ")"]
    match signs.find? fun s => s.toList.isPrefixOf rest with
    | some s => return "\"" ++ s ++ "\""
    | none =>
      if rest.head? = some '<' || rest.head? = some '>' then return "redirection"
      let word ← bareWord
      if ["then", "else", "elif", "fi", "do", "done", "esac", "in", "\x7d", "\x7b", "!"].contains word
      then return "\"" ++ word ++ "\""
      else return "word"

/-- Fails at what comes next, where something else is wanted. -/
def unexpected {α : Type} (wanted : String) : Read α := do
  let token ← nextToken
  let wanted := if wanted = "" then "" else " (expecting \"" ++ wanted ++ "\")"
  throw ("Syntax error: " ++ token ++ " unexpected" ++ wanted)

def expectKeyword (word : String) : Read Unit := do
  if !(← keyword? word) then unexpected word

def expectSign (s : String) : Read Unit := do
  skipBlanks
  if !(← sign? s) then unexpected s

/-- A word; there must be one. -/
def word : Read Word := do
  skipBlanks
  let text ← get
  match pieces .word (text.length + 1) text with
  | .error e => throw e
  | .ok (word, rest) =>
    if rest.length = text.length then unexpected ""
    set rest
    return word

/-! ## Redirections -/

/-- The text of a word and whether any of it is quoted. -/
def literal (word : Word) : Raw × Bool :=
  word.foldl
    (fun (text, quoted) piece => match piece with
      | .text s q => (text ++ s, quoted || q)
      | _ => (text, quoted))
    ([], false)

/-- The lines up to a given one, and what stands behind it. The budget bounds their number. -/
def linesUpTo (tabs : Bool) (last : Raw) : Nat → Raw → Raw × Raw
  | 0, text => ([], text)
  | _, [] => ([], [])
  | budget + 1, text =>
    let line := text.takeWhile (· != '\n')
    let rest := text.drop (line.length + 1)
    let line := if tabs then line.dropWhile (· = '\t') else line
    if line = last then ([], rest)
    else
      let (lines, rest) := linesUpTo tabs last budget rest
      (line ++ '\n' :: lines, rest)

/-- Text that stands in the script below the line that asks for it. -/
def hereText (fd : Nat) : Read Redirection := do
  let tabs ← sign? "-"
  let (last, quoted) := literal (← word)
  let text ← get
  let line := text.takeWhile (· != '\n')
  let (body, rest) := linesUpTo tabs last text.length (text.drop (line.length + 1))
  set (line ++ '\n' :: rest)
  if quoted then return .here fd [.text body true]
  match whole .document body with
  | .ok word => return .here fd word
  | .error e => throw e

/-- A redirection, if one comes next. -/
def redirection? : Read (Option Redirection) := do
  skipBlanks
  let text ← get
  let digits := text.takeWhile Char.isDigit
  match text.drop digits.length with
  | '<' :: _ | '>' :: _ =>
    set (text.drop digits.length)
    let fd (default : Nat) : Nat := if digits.isEmpty then default else
      digits.foldl (fun n c => n * 10 + (c.toNat - 48)) 0
    if ← sign? "<<" then return some (← hereText (fd 0))
    else if ← sign? "<&" then return some (.same (fd 0) (← word))
    else if ← sign? "<>" then return some (.input (fd 0) (← word))
    else if ← sign? "<" then return some (.input (fd 0) (← word))
    else if ← sign? ">>" then return some (.append (fd 1) (← word))
    else if ← sign? ">&" then return some (.same (fd 1) (← word))
    else if ← sign? ">|" then return some (.output (fd 1) (← word))
    else
      let _ ← sign? ">"
      return some (.output (fd 1) (← word))
  | _ => return none

/-- All redirections that come next. -/
def redirections (done : List Redirection) : Nat → Read (List Redirection)
  | 0 => return done.reverse
  | budget + 1 => do
    match ← redirection? with
    | some r => redirections (r :: done) budget
    | none => return done.reverse

/-! ## Commands -/

/-- The name and the value of an assignment, if a word is one. -/
def assignment? (word : Word) : Option (Raw × Word) :=
  match word with
  | .text s false :: rest =>
    let name := s.takeWhile (· != '=')
    match s.drop name.length with
    | '=' :: value =>
      if isName name then some (name, if value.isEmpty then rest else .text value false :: rest)
      else none
    | _ => none
  | _ => none

/-- Words, assignments and redirections up to the end of a simple command. -/
def simpleParts (assignments : List (Raw × Word)) (words : List Word)
    (redirections : List Redirection) :
    Nat → Read (List (Raw × Word) × List Word × List Redirection)
  | 0 => return (assignments.reverse, words.reverse, redirections.reverse)
  | budget + 1 => do
    match ← redirection? with
    | some r => simpleParts assignments words (r :: redirections) budget
    | none =>
      let isEnd := match ← get with
        | [] => true
        | c :: _ => isMeta c
      if isEnd then return (assignments.reverse, words.reverse, redirections.reverse)
      let w ← word
      match assignment? w, words with
      | some a, [] => simpleParts (a :: assignments) [] redirections budget
      | _, _ => simpleParts assignments (w :: words) redirections budget

/-- A simple command. -/
def simple : Read Command := do
  let start ← line
  let (assignments, words, redirections) ← simpleParts [] [] [] ((← get).length + 1)
  if assignments.isEmpty && words.isEmpty && redirections.isEmpty then unexpected ""
  return .simple start assignments words redirections

/-- Words up to the end of a line or a semicolon. -/
def wordList (done : List Word) : Nat → Read (List Word)
  | 0 => return done.reverse
  | budget + 1 => do
    skipBlanks
    match ← get with
    | [] => return done.reverse
    | c :: _ => if isMeta c then return done.reverse else wordList ((← word) :: done) budget

/-- The patterns of a case arm, up to the closing parenthesis. -/
def armPatterns (done : List Word) : Nat → Read (List Word)
  | 0 => unexpected ")"
  | budget + 1 => do
    let w ← word
    skipBlanks
    if ← sign? "|" then armPatterns (w :: done) budget
    else
      expectSign ")"
      return (w :: done).reverse

/-- Whether a list of commands ends here: at the end, at a closing sign or at a reserved word that
closes something. -/
def atListEnd : Read Bool := do
  skipBlanks
  match ← get with
  | [] | ')' :: _ | ';' :: ';' :: _ => return true
  | _ =>
    return ["then", "else", "elif", "fi", "do", "done", "esac", "\x7d"].contains (← bareWord)

mutual

/-- A list of commands inside a compound command, up to what closes it. -/
def inner : Nat → Read Command
  | 0 => unexpected ""
  | budget + 1 => do
    skipBreaks
    if ← atListEnd then return .nothing
    let first ← andOr budget
    skipBlanks
    let first := if (← get).head? = some '&' then .background first else first
    match ← get with
    | ';' :: ';' :: _ => return first
    | c :: rest =>
      if c = ';' || c = '&' || c = '\n' then
        set rest
        return .sequence first (← inner budget)
      else return first
    | [] => return first

/-- Pipelines with operators between them. -/
def andOr : Nat → Read Command
  | 0 => unexpected ""
  | budget + 1 => do andOrTail budget (← pipeline budget)

def andOrTail : Nat → Command → Read Command
  | 0, first => return first
  | budget + 1, first => do
    skipBlanks
    if ← sign? "&&" then
      skipBreaks
      andOrTail budget (.both first (← pipeline budget))
    else if ← sign? "||" then
      skipBreaks
      andOrTail budget (.either first (← pipeline budget))
    else return first

/-- Commands with bars between them. -/
def pipeline : Nat → Read Command
  | 0 => unexpected ""
  | budget + 1 => do
    if ← keyword? "!" then return .negated (← pipeline budget)
    match ← stages budget with
    | [command] => return command
    | commands => return .pipeline commands

def stages : Nat → Read (List Command)
  | 0 => return []
  | budget + 1 => do
    let first ← command budget
    skipBlanks
    match ← get with
    | '|' :: '|' :: _ => return [first]
    | '|' :: rest =>
      set rest
      skipBreaks
      return first :: (← stages budget)
    | _ => return [first]

/-- A command. -/
def command : Nat → Read Command
  | 0 => unexpected ""
  | budget + 1 => do
    skipBlanks
    let start ← line
    let finish (body : Command) : Read Command := do
      match ← redirections [] ((← get).length + 1) with
      | [] => return body
      | redirections => return .redirected start body redirections
    if ← sign? "(" then
      let body ← inner budget
      expectSign ")"
      finish (.subshell body)
    else
      match ← bareWord with
      | "\x7b" => do
        modify (·.drop 1)
        let body ← inner budget
        expectKeyword "\x7d"
        finish body
      | "if" => do
        modify (·.drop 2)
        finish (← choice budget)
      | "while" => do
        modify (·.drop 5)
        finish (.loop true (← inner budget) (← doGroup budget))
      | "until" => do
        modify (·.drop 5)
        finish (.loop false (← inner budget) (← doGroup budget))
      | "for" => do
        modify (·.drop 3)
        finish (← forLoop budget)
      | "case" => do
        modify (·.drop 4)
        let subject ← word
        skipBreaks
        expectKeyword "in"
        finish (.select subject (← arms budget))
      | "then" | "else" | "elif" | "fi" | "do" | "done" | "esac" | "\x7d" => unexpected ""
      | name => definitionOr budget name

/-- A function, if a name and a pair of parentheses come next; otherwise a simple command. -/
def definitionOr : Nat → String → Read Command
  | 0, _ => unexpected ""
  | budget + 1, name => do
    let text ← get
    match dropBlanks (text.drop name.length) with
    | '(' :: rest =>
      if isName name.toList then
        set rest
        expectSign ")"
        skipBreaks
        return .define name.toList (← command budget)
      else simple
    | _ => simple

/-- What follows the word that opens a choice. -/
def choice : Nat → Read Command
  | 0 => unexpected "then"
  | budget + 1 => do
    let condition ← inner budget
    expectKeyword "then"
    let body ← inner budget
    if ← keyword? "elif" then return .choice condition body (← choice budget)
    else if ← keyword? "else" then
      let otherwise ← inner budget
      expectKeyword "fi"
      return .choice condition body otherwise
    else
      expectKeyword "fi"
      return .choice condition body .nothing

/-- The body of a loop. -/
def doGroup : Nat → Read Command
  | 0 => unexpected "do"
  | budget + 1 => do
    expectKeyword "do"
    let body ← inner budget
    expectKeyword "done"
    return body

/-- What follows the word that opens a loop over words. -/
def forLoop : Nat → Read Command
  | 0 => unexpected ""
  | budget + 1 => do
    skipBlanks
    let name ← bareWord
    if !isName name.toList then throw "Syntax error: Bad for loop variable"
    modify (·.drop name.length)
    skipBreaks
    let words ← if ← keyword? "in" then some <$> wordList [] ((← get).length + 1) else pure none
    skipBlanks
    let _ ← sign? ";"
    skipBreaks
    return .each name.toList words (← doGroup budget)

/-- The arms of a case up to its end. -/
def arms : Nat → Read (List (List Word × Command))
  | 0 => unexpected "esac"
  | budget + 1 => do
    skipBreaks
    if ← keyword? "esac" then return []
    let _ ← sign? "("
    let patterns ← armPatterns [] ((← get).length + 1)
    let body ← inner budget
    skipBreaks
    if ← sign? ";;" then return (patterns, body) :: (← arms budget)
    else
      expectKeyword "esac"
      return [(patterns, body)]

end

/-- Commands up to the end of a line. -/
def lineOf : Nat → Read Command
  | 0 => unexpected ""
  | budget + 1 => do
    let first ← andOr budget
    skipBlanks
    let first := if (← get).head? = some '&' then .background first else first
    match ← get with
    | [] => return first
    | '\n' :: rest =>
      set rest
      return first
    | ';' :: ';' :: _ => unexpected ""
    | c :: rest =>
      if c = ';' || c = '&' then
        set rest
        skipBlanks
        match ← get with
        | [] => return first
        | '\n' :: rest =>
          set rest
          return first
        | _ => return .sequence first (← lineOf budget)
      else unexpected ""

/-- The next line with commands; none at the end. -/
def nextLine : Read (Option Command) := do
  skipBreaks
  let budget := (← get).length
  if budget = 0 then return none
  some <$> lineOf (8 * budget + 8)

/-- The commands of the next line and what stands behind it; or a mistake and its line. `lines` is
the number of line ends of the whole script. -/
def next (lines : Nat) (text : Raw) : Except (Nat × String) (Option Command × Raw) :=
  match (nextLine.run lines).run.run text with
  | (.ok command, rest) => .ok (command, rest)
  | (.error message, rest) => .error (1 + lines - rest.count '\n', message)

end Grammar

end Playground.Shell
