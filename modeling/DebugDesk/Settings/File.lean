/-
  Files, and the settings in them.

  Settings and recordings come from files.  What matters about a path is whether there is a file
  with readable content, and if not, whether it cannot be opened or opens but cannot be read, as a
  directory does.

  Settings are written in TOML, with the names of the record of settings as keys.  Keys that the
  record does not know are passed over, but the document has to be well formed as a whole.
-/
import DebugDesk.Desk
import DebugDesk.Settings
import DebugDesk.Toml.Reader

namespace DebugDesk

/-- What stands under a path. -/
inductive FileContent where
  /-- Nothing that can be opened. -/
  | missing
  /-- A directory. -/
  | directory
  /-- A file with its bytes. -/
  | bytes (content : ByteArray)

namespace Settings

/-- The settings that a document writes. -/
def ofToml? (text : String) : Option Settings :=
  (Toml.read? text).bind fun root => ofJson? root.toJson

/-- **The settings in a file.** -/
def ofFile : FileContent → Except DeskError Settings
  | .missing => .error (.settings "no such file")
  | .directory => .error (.settings "a directory is no file")
  | .bytes content =>
    match String.fromUTF8? content with
    | none => .error (.settings "the file is not encoded in UTF-8")
    | some text =>
      match ofToml? text with
      | none => .error (.settings "the document holds no settings")
      | some settings => .ok settings

end Settings

end DebugDesk
