import Gatehouse.Text.Utf8

/-! # Files

    The program reads two kinds of file, its configuration and public keys, both as text.
    Here a file is what can be found at its path; where paths lead is left to the outside. -/

namespace Gatehouse

/-- What is found at a path. -/
inductive File where
  | absent
  | holding (content : List UInt8)
  deriving DecidableEq, Repr

/-- What is found at every path. -/
abbrev Files := String → File

/-- Why a file gives no text. -/
inductive FileFault where
  | notFound
  | notUtf8
  deriving DecidableEq, Repr

def FileFault.message : FileFault → String
  | .notFound => "No such file or directory (os error 2)"
  | .notUtf8  => "stream did not contain valid UTF-8"

/-- The text of a file. -/
def File.text : File → Except FileFault String
  | .absent          => .error .notFound
  | .holding content =>
    match Text.ofBytes? content with
    | none   => .error .notUtf8
    | some t => .ok t

@[simp] theorem File.text_holding_bytes (t : String) :
    (File.holding (Text.bytes t)).text = .ok t := by
  simp [File.text]

end Gatehouse
