import Playground.Config.Load
import Playground.Proofs.Files.Tree
import Playground.Proofs.Text.Encoding

/-!
# A file and its text

There are two ways to a configuration in TOML: from a file, and from the text itself. This file says
that they take each other's place.

* `fileText_toUTF8` — a file that holds an encoded text is read as that text.
* `valid_of_ofText` — no text gives a configuration that was not validated.
* `ofText_some` — the name of the file goes into the errors only.
* `Agree`, `load_agrees_with_text` — the two ways agree on every text.
-/

set_option autoImplicit false

namespace Playground

namespace Config

open Files Text

/-! ## Reading a file -/

/-- Bytes that begin with a mark of the byte order are read as that mark and what follows. -/
theorem decodeLossy_mark (rest : List UInt8) :
    Utf8.decodeLossy (0xEF :: 0xBB :: 0xBF :: rest) = '\ufeff' :: Utf8.decodeLossy rest := by
  have hnext : Utf8.next 0xEF (0xBB :: 0xBF :: rest) = (some '\ufeff', rest) :=
    Utf8.next_three (d := 15) (e := 59) (f := 63) (by decide) (by decide) (by decide) (by decide)
      (by decide) rest
  rw [Utf8.decodeLossy_cons, hnext]
  rfl

/-- Nothing is dropped in front of a text that does not begin with the mark. -/
theorem dropMark_toUTF8 {text : String} (h : text.toList.head? ≠ some '\ufeff') :
    dropMark text.toUTF8.toList = text.toUTF8.toList := by
  unfold dropMark
  split
  next rest hmark =>
    have htext := Utf8.decodeLossy_toUTF8 text
    rw [hmark, decodeLossy_mark] at htext
    rw [← htext] at h
    exact absurd rfl h
  next => rfl

/-- **A file that holds an encoded text is read as that text.** -/
theorem fileText_toUTF8 {text : String} (h : text.toList.head? ≠ some '\ufeff') :
    fileText text.toUTF8.toList = text := by
  rw [fileText, dropMark_toUTF8 h, Utf8.decodeLossy_toUTF8, String.ofList_toList]

/-! ## Configurations of a text -/

/-- Settings that stand for a configuration stand for a valid one. -/
theorem valid_of_ofSettings {path : Option String} {settings : List (String × Setting)}
    {config : Config} (h : ofSettings path settings = .ok config) : config.validate = .ok () := by
  unfold ofSettings at h
  split at h
  · cases h
  · split at h
    · cases h
    · cases h
      assumption

/-- No text gives a configuration that was not validated. -/
theorem valid_of_ofText {format : Format} {path : Option String} {text : String} {config : Config}
    (h : ofText format path text = .ok config) : config.validate = .ok () := by
  unfold ofText at h
  split at h
  · cases h
  · exact valid_of_ofSettings h

namespace ConfigError

/-- What went wrong, in the large. -/
inductive Kind where
  | unread
  | unparsed
  | unsafeName
  | invalid
  deriving DecidableEq, Repr

def kind : ConfigError → Kind
  | unreadable _ => .unread
  | illFormed _ | undecodable .. | unknownFormat _ | noFile _ => .unparsed
  | invalid (.unsafeName _) => .unsafeName
  | invalid _ => .invalid

/-- The error of a text as the error of a file that holds the text. -/
def inFileAt (path : String) : ConfigError → ConfigError
  | illFormed _ => illFormed (some path)
  | undecodable e _ => undecodable e (some path)
  | e => e

theorem kind_inFileAt (path : String) (e : ConfigError) : (e.inFileAt path).kind = e.kind := by
  cases e <;> rfl

/-- An error that names no file, though it could. -/
inductive Nameless : ConfigError → Prop
  | illFormed : Nameless (illFormed none)
  | undecodable (e : DecodeError) : Nameless (undecodable e none)
  | invalid (v : Violation) : Nameless (invalid v)

theorem message_illFormed (path : Option String) : (illFormed path).message =
    "failed to parse config: " ++ ("the text is not well formed" ++ inFile path) := rfl

theorem message_undecodable (e : DecodeError) (path : Option String) :
    (undecodable e path).message =
      "failed to parse config: " ++ (e.message ++ if e.isTraced then inFile path else "") := rfl

/-- The name of the file stands at the end of the message, if it stands there at all. -/
theorem Nameless.message_inFileAt {e : ConfigError} (h : e.Nameless) (path : String) :
    (e.inFileAt path).message = e.message ∨
      (e.inFileAt path).message = e.message ++ " in " ++ path := by
  have hnone : inFile none = "" := rfl
  have hsome : inFile (some path) = " in " ++ path := rfl
  cases h with
  | illFormed =>
    refine .inr ?_
    rw [inFileAt, message_illFormed, message_illFormed, hnone, hsome, String.append_empty]
    simp only [String.append_assoc]
  | undecodable e =>
    rw [inFileAt, message_undecodable, message_undecodable, hnone, hsome, ite_self,
      String.append_empty]
    -- only what was found in the text is traced back to its file
    split
    · exact .inr (by simp only [String.append_assoc])
    · exact .inl (by rw [String.append_empty])
  | invalid v => exact .inl rfl

end ConfigError

theorem ofSettings_some (path : String) (settings : List (String × Setting)) :
    ofSettings (some path) settings = (ofSettings none settings).mapError (·.inFileAt path) := by
  unfold ofSettings
  cases decode settings with
  | error e => rfl
  | ok config =>
    dsimp only
    cases config.validate <;> rfl

/-- **The name of the file goes into the errors only.** -/
theorem ofText_some (format : Format) (path text : String) :
    ofText format (some path) text = (ofText format none text).mapError (·.inFileAt path) := by
  unfold ofText
  cases format.settings? text with
  | none => rfl
  | some settings => exact ofSettings_some path settings

theorem nameless_of_ofText {format : Format} {text : String} {e : ConfigError}
    (h : ofText format none text = .error e) : e.Nameless := by
  unfold ofText at h
  split at h
  · cases h
    exact .illFormed
  · unfold ofSettings at h
    split at h
    · cases h
      exact .undecodable _
    · split at h <;> cases h
      exact .invalid _

/-! ## The two ways -/

/-- The results for a file and for its text: one configuration, which is valid, or errors of one kind
that say the same, up to the name of the file. -/
def Agree (path : String) : Except ConfigError Config → Except ConfigError Config → Prop
  | .ok loaded, .ok config => loaded = config ∧ config.validate = .ok ()
  | .error inFile, .error e => inFile.kind = e.kind ∧
      (inFile.message = e.message ∨ inFile.message = e.message ++ " in " ++ path)
  | _, _ => False

theorem agree_ofText_some (format : Format) (path text : String) :
    Agree path (ofText format (some path) text) (ofText format none text) := by
  rw [ofText_some]
  cases h : ofText format none text with
  | ok config => exact ⟨rfl, valid_of_ofText h⟩
  | error e => exact ⟨e.kind_inFileAt path, (nameless_of_ofText h).message_inFileAt path⟩

/-- **Loading a file and reading its text agree**, for every text that does not begin with a mark of
the byte order and every file of TOML that holds the text: the configuration is the same and valid,
or both are refused for the same reason and in the same words, up to the name of the file. -/
theorem load_agrees_with_text (t : Tree) (here place : Place) (path text : String)
    (executable : Bool)
    (hstat : t.stat here path = .ok (place, .file text.toUTF8.toList executable))
    (hending : Path.fileName? path >>= Path.ending? = some "toml")
    (hmark : text.toList.head? ≠ some '\ufeff') :
    Agree path (load t here path) (ofText .toml none text) := by
  have hformat : formatOf? path = some .toml := by
    rw [formatOf?, hending]
    rfl
  have hload : load t here path = ofText .toml (some path) text := by
    rw [load, hstat]
    simp only [Entry.isFile, if_true, hformat, ofFile, Entry.bytes, fileText_toUTF8 hmark]
  rw [hload]
  exact agree_ofText_some .toml path text

/-- A tree with nothing but a file of settings. -/
def soleTree (bytes : List UInt8) : Tree := ⟨[(["halcyon.toml"], .file bytes false)]⟩

theorem stat_soleTree (bytes : List UInt8) :
    (soleTree bytes).stat [] "/halcyon.toml" = .ok (["halcyon.toml"], .file bytes false) := by
  have hpath : "/halcyon.toml" = Path.render ([] ++ ["halcyon.toml"]) := by decide +kernel
  have hwalk : (soleTree bytes).walk true Tree.linkLimit [] ["halcyon.toml"] =
      .ok (.found ["halcyon.toml"] (.file bytes false)) :=
    Tree.walk_content (by decide) rfl rfl
  rw [Tree.stat, hpath, Tree.locate_eq (by decide), if_neg (by decide +kernel),
    if_neg (by decide +kernel), List.nil_append, hwalk]
  rfl

/-- Settings with no more than there must be. -/
def soleText : String := "[compiler]
command = [\"cc\"]
source_name = \"a\"
output_name = \"b\"
"

theorem load_agrees_with_text_sole :
    (soleTree soleText.toUTF8.toList).stat [] "/halcyon.toml" =
        .ok (["halcyon.toml"], .file soleText.toUTF8.toList false) ∧
      Agree "/halcyon.toml" (load (soleTree soleText.toUTF8.toList) [] "/halcyon.toml")
        (ofText .toml none soleText) := by
  have hstat := stat_soleTree soleText.toUTF8.toList
  have hending : Path.fileName? "/halcyon.toml" >>= Path.ending? = some "toml" := by
    decide +kernel
  have hmark : soleText.toList.head? ≠ some '\ufeff' := by decide +kernel
  exact ⟨hstat, load_agrees_with_text (soleTree soleText.toUTF8.toList) [] ["halcyon.toml"]
    "/halcyon.toml" soleText false hstat hending hmark⟩

end Config

end Playground
