import Gatehouse.Failure
import Gatehouse.File
import Gatehouse.Key.Line

/-! # Public key files

    A public key file holds a key on its first line that is neither blank nor a comment;
    the lines after it do not matter. -/

namespace Gatehouse.Key

open Text

/-- Does a line, its outer blanks gone, hold a key? -/
def isKeyLine (line : List Char) : Bool := !line.isEmpty && line.head? != some '#'

/-- The first line that holds a key, without its outer blanks. -/
def firstKeyLine (text : List Char) : Option (List Char) :=
  let line := trim (text.takeWhile (· != '\n'))
  if isKeyLine line then some line
  else
    match _h : text.dropWhile (· != '\n') with
    | []        => none
    | _ :: rest => firstKeyLine rest
termination_by text.length
decreasing_by
  have h := (List.dropWhile_sublist (· != '\n') (l := text)).length_le
  rw [_h, List.length_cons] at h
  omega

/-! ## Reading a file -/

/-- Why a public key file gives no key. -/
inductive FileError where
  | unreadable (path : String) (fault : FileFault)
  /-- Every line is blank or a comment. -/
  | noKey (path : String)
  | invalid (path : String) (fault : LineFault)
  deriving DecidableEq, Repr

def FileError.failure : FileError → Failure
  | .unreadable path fault => ⟨"failed to read public key file: " ++ path, [fault.message]⟩
  | .noKey path            => ⟨"no key in " ++ path, [LineFault.empty.message]⟩
  | .invalid path fault    => ⟨"failed to parse " ++ path, [fault.message]⟩

/-- The key of the file at a path. -/
def ofFile (path : String) (file : File) : Except FileError AuthorizedKey :=
  match file.text with
  | .error fault => .error (.unreadable path fault)
  | .ok text     =>
    match firstKeyLine text.toList with
    | none      => .error (.noKey path)
    | some line =>
      match AuthorizedKey.parse (String.ofList line) with
      | .error fault => .error (.invalid path fault)
      | .ok key      => .ok key

end Gatehouse.Key
