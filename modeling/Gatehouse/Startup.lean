import Gatehouse.CommandLine
import Gatehouse.Config.Load
import Gatehouse.Http.Service
import Gatehouse.Store.Build

/-! # From start to end

    The program reads its command line and its configuration, gathers the trusted
    fingerprints, builds the user store and binds its listener; then it serves until it is
    told to stop.  What it does on the way is told by `Event`s, which it logs.

    `prepare` makes the service, `start` goes as far as the listener and `run` to the end.
    Whatever they need of the machine is in `Surroundings`, so that all are functions of it. -/

namespace Gatehouse

/-! ## Events -/

/-- How the program is told to stop. -/
inductive Signal where
  | terminate
  | interrupt
  deriving DecidableEq, Repr

def Signal.name : Signal → String
  | .terminate => "SIGTERM"
  | .interrupt => "SIGINT"

inductive Level where
  | info
  | warning
  deriving DecidableEq, Repr

def Level.name : Level → String
  | .info    => "INFO"
  | .warning => "WARN"

/-- What the program logs. -/
inductive Event where
  /-- The configuration is loaded. -/
  | starting
  | noFingerprints
  | fingerprintsLoaded
  /-- The listed users are none. -/
  | noUsers
  | storeReady
  | listening
  | received (signal : Signal)
  | ended
  deriving DecidableEq, Repr

namespace Event

def level : Event → Level
  | .noFingerprints => .warning
  | .noUsers        => .warning
  | _               => .info

def message : Event → String
  | .starting           => "starting sshgate"
  | .noFingerprints     =>
    "no trusted backend fingerprints configured; the gateway will refuse every backend"
  | .fingerprintsLoaded => "trusted fingerprints loaded"
  | .noUsers            => "static user store has no users; every public key will be refused"
  | .storeReady         => "user store initialised"
  | .listening          => "webhook server listening"
  | .received signal    => "received " ++ signal.name
  | .ended              => "sshgate shut down cleanly"

/-- The line of the log that tells of the event. -/
def record (timestamp : String) (e : Event) : Json :=
  .object [("timestamp", .string timestamp), ("level", .string e.level.name),
    ("fields", .object [("message", .string e.message)]), ("target", .string "sshgate")]

end Event

/-! ## The listener -/

/-- Can the listener be bound to an address?  If not, the reason. -/
abbrev Bind := Net.SocketAddress → Except String Unit

/-- Why there is no listener. -/
inductive ListenFailure where
  | notAnAddress
  | refused (address : Net.SocketAddress) (reason : String)
  deriving DecidableEq, Repr

def ListenFailure.failure : ListenFailure → Failure
  | .notAnAddress           => ⟨"invalid listen address", [Net.notAnAddress]⟩
  | .refused address reason => ⟨"failed to bind HTTP listener on " ++ address.render, [reason]⟩

/-- Binds the listener to the address that a text writes. -/
def listen (bind : Bind) (text : String) : Except ListenFailure Net.SocketAddress :=
  match Net.SocketAddress.parse text with
  | none         => .error .notAnAddress
  | some address =>
    match bind address with
    | .error reason => .error (.refused address reason)
    | .ok _         => .ok address

/-! ## Starting -/

/-- What the program needs of the machine. -/
structure Surroundings where
  files       : Files
  environment : Environment
  connect     : Connect
  bind        : Bind

/-- Why the program ends before it serves. -/
inductive StartFailure where
  | config (error : ConfigError)
  | hostKey (error : Key.FileError)
  | store (error : StoreFailure)
  | listen (error : ListenFailure)

def StartFailure.failure : StartFailure → Failure
  | .config e  => e.failure
  | .hostKey e => e.failure
  | .store e   => e.failure
  | .listen e  => e.failure

/-- The program before it listens. -/
structure Prepared where
  config  : Config
  service : Http.Service

/-- The program once it serves. -/
structure Started where
  config  : Config
  service : Http.Service
  /-- Where the service listens. -/
  address : Net.SocketAddress

/-- The events of loading fingerprints. -/
def fingerprintEvents (fingerprints : FingerprintSet) : List Event :=
  if fingerprints.isEmpty then [.noFingerprints, .fingerprintsLoaded] else [.fingerprintsLoaded]

/-- The events of building a store. -/
def storeEvents (built : BuiltStore) : List Event :=
  if built.hasUsers then [.storeReady] else [.noUsers, .storeReady]

/-- Makes the service of a configuration that is loaded: the events on the way, and what it led
    to. -/
def prepareWith (s : Surroundings) (c : Config) : List Event × Except StartFailure Prepared :=
  match c.routing.fingerprints s.files with
  | .error e         => ([.starting], .error (.hostKey e))
  | .ok fingerprints =>
    let events := .starting :: fingerprintEvents fingerprints
    match c.store.build s.environment s.connect with
    | .error e  => (events, .error (.store e))
    | .ok built => (events ++ storeEvents built, .ok ⟨c, ⟨fingerprints, built.store⟩⟩)

/-- Makes the service of the configuration at a path. -/
def prepare (s : Surroundings) (configPath : String) :
    List Event × Except StartFailure Prepared :=
  match Config.load configPath (s.files configPath) with
  | .error e => ([], .error (.config e))
  | .ok c    => prepareWith s c

/-- Binds the listener of a service. -/
def Prepared.start (p : Prepared) (bind : Bind) : List Event × Except StartFailure Started :=
  match listen bind p.config.server.listen with
  | .error e    => ([], .error (.listen e))
  | .ok address => ([.listening], .ok ⟨p.config, p.service, address⟩)

/-- Goes as far as the listener with the configuration at a path. -/
def start (s : Surroundings) (configPath : String) : List Event × Except StartFailure Started :=
  match prepare s configPath with
  | (events, .error e) => (events, .error e)
  | (events, .ok p)    =>
    let (further, started) := p.start s.bind
    (events ++ further, started)

/-! ## Ending -/

/-- How the program ended. -/
inductive Ending where
  | usage (error : CommandLine.UsageError)
  | helped
  | failed (failure : StartFailure)
  | stopped

def Ending.exitCode : Ending → Nat
  | .usage _  => 2
  | .helped   => 0
  | .failed _ => 1
  | .stopped  => 0

/-- What the program reports of a failure when it ends. -/
def Ending.report : Ending → Option String
  | .failed e => some e.failure.report
  | _         => none

/-- The events from the signal to stop to the end. -/
def stopEvents (signal : Signal) : List Event := [.received signal, .ended]

/-- A whole run with the words of the command line, told to stop by a signal once it serves:
    the events, and how it ended. -/
def run (s : Surroundings) (words : List String) (signal : Signal) : List Event × Ending :=
  match CommandLine.parse words with
  | .error e         => ([], .usage e)
  | .ok .help        => ([], .helped)
  | .ok (.run path)  =>
    match start s path with
    | (events, .error e) => (events, .failed e)
    | (events, .ok _)    => (events ++ stopEvents signal, .stopped)

end Gatehouse
