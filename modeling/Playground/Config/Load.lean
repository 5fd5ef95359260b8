import Playground.Config.Parse
import Playground.Files.Tree
import Playground.Text.Utf8

/-!
# Configurations from files

* `Config.load` — the configuration of the file at a path. Its name says what notation it is in.
-/

set_option autoImplicit false

namespace Playground.Config

open Files Text

/-- Bytes without a mark of the byte order at their front. -/
def dropMark : List UInt8 → List UInt8
  | 0xEF :: 0xBB :: 0xBF :: rest => rest
  | bytes => bytes

/-- The text of a file, with replacements for what is not text. -/
def fileText (bytes : List UInt8) : String := String.ofList (Utf8.decodeLossy (dropMark bytes))

/-- The ordinary file at a path, if there is one. -/
def fileAt? (t : Tree) (here : Place) (path : String) : Option (List UInt8) :=
  match t.stat here path with
  | .ok (_, entry) => if entry.isFile then some entry.bytes else none
  | .error _ => none

/-- The notation of a file according to its name. -/
def formatOf? (path : String) : Option Format :=
  Path.fileName? path >>= Path.ending? >>= Format.ofEnding?

/-- The path with an ending put behind its last name, if it has one. -/
def withEnding (path : String) (format : Format) : String :=
  match Path.fileName? path with
  | some _ => Path.dropEnd path ++ "." ++ format.ending
  | none => path

/-- The configuration of a file with the given content. -/
def ofFile (format : Format) (path : String) (bytes : List UInt8) : Except ConfigError Config :=
  ofText format (some path) (fileText bytes)

/-- The configuration at a path that names no ordinary file: one of the files whose names go on with
an ending. -/
def loadBeside (t : Tree) (here : Place) (path : String) : Except ConfigError Config :=
  let tries := [Format.toml, Format.json].filterMap fun format =>
    let path := withEnding path format
    (fileAt? t here path).map (format, path, ·)
  match tries with
  | [] => .error (.noFile path)
  | (format, path, bytes) :: _ => ofFile format path bytes

/-- The configuration at a path. -/
def load (t : Tree) (here : Place) (path : String) : Except ConfigError Config :=
  match t.stat here path with
  | .error _ => .error (.unreadable path)
  | .ok (_, entry) =>
    if entry.isFile then
      match formatOf? path with
      | some format => ofFile format path entry.bytes
      | none => .error (.unknownFormat path)
    else loadBeside t here path

end Playground.Config
