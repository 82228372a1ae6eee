/-! # The command line

    The program has one option, the path of its configuration, and a flag that asks for
    help:

        sshgate [-c PATH | --config PATH] [-h | --help]

    The path may be a word of its own or be joined to the option: `-cPATH`, `-c=PATH`,
    `--config=PATH`.  Words are read from left to right.  An option settles when the next
    option or the end of the words is reached, and only then does it fail for want of a path
    or because it was given before; the first failure is the answer, and so is the first
    demand for help.

    Core Lean 4 only. -/

namespace Gatehouse.CommandLine

/-- What the words ask for. -/
inductive Command where
  /-- Run with the configuration at a path. -/
  | run (configPath : String)
  | help
  deriving DecidableEq, Repr

/-- What is wrong with the words. -/
inductive UsageError where
  /-- An option without its path. -/
  | missingValue
  /-- An option given twice. -/
  | repeatedOption
  /-- A word that means nothing here. -/
  | unknownWord
  /-- A flag with a value joined to it. -/
  | unexpectedValue
  deriving DecidableEq, Repr

def UsageError.message : UsageError → String
  | .missingValue    => "a value is required for '--config <CONFIG>' but none was supplied"
  | .repeatedOption  => "the argument '--config <CONFIG>' cannot be used multiple times"
  | .unknownWord     => "unexpected argument found"
  | .unexpectedValue => "unexpected value found; '--help' takes none"

/-- The path that is read when none is given. -/
def defaultConfigPath : String := "/etc/sshgate/config.yaml"

/-- What is shown on demand. -/
def helpText : String :=
  "SSH gateway authentication and routing webhooks\n\n"
    ++ "Usage: sshgate [OPTIONS]\n\n"
    ++ "Options:\n"
    ++ "  -c, --config <CONFIG>  Path to the YAML configuration file [default: "
    ++ defaultConfigPath ++ "]\n"
    ++ "  -h, --help             Print help\n"

/-! ## Words -/

/-- What a word is, by its own look. -/
inductive Word where
  /-- The option, with the path joined to it, if there is one. -/
  | config (joined : Option String)
  | help
  /-- The flag with a value joined to it. -/
  | helpWithValue
  /-- An option that the program does not have. -/
  | unknownOption
  /-- Two hyphens: no options follow. -/
  | endOfOptions
  /-- No option. -/
  | plain (text : String)
  deriving DecidableEq, Repr

/-- The word after two hyphens: a name, and a value after the first equals sign. -/
def longOption (s : List Char) : Word :=
  let name := String.ofList (s.takeWhile (· ≠ '='))
  let value :=
    match s.dropWhile (· ≠ '=') with
    | []     => none
    | _ :: v => some (String.ofList v)
  if name = "config" then .config value
  else if name = "help" then (if value.isSome then .helpWithValue else .help)
  else .unknownOption

/-- The word after one hyphen: a letter, and what is joined to it. -/
def shortOption (c : Char) (s : List Char) : Word :=
  if c = 'c' then
    match s with
    | []       => .config none
    | '=' :: v => .config (some (String.ofList v))
    | v        => .config (some (String.ofList v))
  else if c = 'h' then .help
  else .unknownOption

def Word.ofString (text : String) : Word :=
  match text.toList with
  | ['-', '-']      => .endOfOptions
  | '-' :: '-' :: s => longOption s
  | '-' :: c :: s   => shortOption c s
  | _               => .plain text

/-! ## Reading the words -/

/-- The option as far as the words read so far give it. -/
structure Reading where
  /-- The path that has settled. -/
  settled : Option String
  /-- An option that has not settled, with its path if that was read. -/
  pending : Option (Option String)
  deriving DecidableEq, Repr

namespace Reading

/-- Nothing was read. -/
def start : Reading := ⟨none, none⟩

/-- Settles the pending option. -/
def settle (r : Reading) : Except UsageError (Option String) :=
  match r.pending, r.settled with
  | none, path               => .ok path
  | some none, _             => .error .missingValue
  | some (some path), none   => .ok (some path)
  | some (some _), some _    => .error .repeatedOption

/-- The option is met once more. -/
def meet (r : Reading) (joined : Option String) : Except UsageError Reading :=
  match r.settle with
  | .error e => .error e
  | .ok path =>
    match joined, path with
    | none, path         => .ok ⟨path, some none⟩
    | some given, none   => .ok ⟨some given, none⟩
    | some _, some _     => .error .repeatedOption

/-- The command when no word is left. -/
def finish (r : Reading) : Except UsageError Command :=
  match r.settle with
  | .error e => .error e
  | .ok path => .ok (.run (path.getD defaultConfigPath))

end Reading

/-- Reads the words that are left. -/
def readWords (r : Reading) : List String → Except UsageError Command
  | []           => r.finish
  | word :: rest =>
    match Word.ofString word with
    | .config joined =>
      match r.meet joined with
      | .error e => .error e
      | .ok r    => readWords r rest
    | .help          =>
      match r.settle with
      | .error e => .error e
      | .ok _    => .ok .help
    | .helpWithValue => .error .unexpectedValue
    | .unknownOption => .error .unknownWord
    | .endOfOptions  => if rest.isEmpty then r.finish else .error .unknownWord
    | .plain text    =>
      if r.pending = some none then readWords { r with pending := some (some text) } rest
      else .error .unknownWord

/-- What the words after the program's name ask for. -/
def parse (words : List String) : Except UsageError Command := readWords .start words

end Gatehouse.CommandLine
