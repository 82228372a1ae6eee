import Gatehouse.Config.Validity
import Gatehouse.Config.Yaml
import Gatehouse.Key.File
import Gatehouse.Route

/-! # Loading configurations and host keys

    At its start the program reads its configuration from a YAML file, and then the public
    key files that the configuration names. -/

namespace Gatehouse

/-! ## The configuration -/

/-- Why a file gives no configuration. -/
inductive ConfigError where
  | unreadable (path : String) (fault : FileFault)
  | yaml (path : String) (error : Config.YamlError)
  | invalid (path : String) (error : InvalidConfig)

namespace ConfigError

def inFile (path : String) : String := "invalid config file: " ++ path

def failure : ConfigError → Failure
  | .unreadable path fault => ⟨"failed to read config file: " ++ path, [fault.message]⟩
  | .yaml path error       => ⟨inFile path, ["failed to parse YAML", error.message]⟩
  | .invalid path error    => error.failure.within (inFile path)

end ConfigError

/-- The valid configuration that the file at a path holds. -/
def Config.load (path : String) (file : File) : Except ConfigError Config :=
  match file.text with
  | .error fault => .error (.unreadable path fault)
  | .ok text     =>
    match Config.ofYaml text with
    | .error e => .error (.yaml path e)
    | .ok c    =>
      match c.validate with
      | .error e => .error (.invalid path e)
      | .ok _    => .ok c

/-! ## Host keys -/

/-- The fingerprints of the keys in the files, in the order of the files; the first file
    without a key ends the reading. -/
def fingerprintsOf (files : Files) : List String → Except Key.FileError (List String)
  | []            => .ok []
  | path :: paths =>
    match Key.ofFile path (files path) with
    | .error e => .error e
    | .ok key  => (fingerprintsOf files paths).map (key.fingerprint :: ·)

/-- The configured fingerprints and those of the configured files. -/
def RoutingSection.fingerprints (r : RoutingSection) (files : Files) :
    Except Key.FileError FingerprintSet :=
  match fingerprintsOf files r.hostKeyFiles with
  | .error e    => .error e
  | .ok further => .ok (.ofList (r.trustedFingerprints ++ further))

end Gatehouse
