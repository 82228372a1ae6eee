import Std.Async.Signal
import Std.Http.Server
import Std.Time.Format
import Std.Time.Zoned
import Gatehouse.Startup

/-! # The program

    Reads files and variables, listens, waits for a signal and writes the log.  What is read
    and what is answered is decided by `Gatehouse.prepare`, `Gatehouse.listen` and
    `Gatehouse.Http.Service.reply`. -/

namespace Gatehouse.Program

/-- The file at a path; one that cannot be opened counts as absent. -/
def readFile (path : String) : IO File := do
  match ← (IO.FS.readBinFile path).toBaseIO with
  | .ok content => return .holding content.toList
  | .error _    => return .absent

/-- The files at some paths. -/
def readFiles (paths : List String) : IO Files := do
  let found ← paths.mapM fun path => return (path, ← readFile path)
  return fun path => (found.lookup path).getD .absent

/-- Writes an event to the log. -/
def log (e : Event) : IO Unit := do
  let now ← Std.Time.DateTime.now
  let output ← IO.getStdout
  output.putStr ((e.record now.toISO8601String).render ++ "\n")
  output.flush

/-! ## Serving -/

/-- The reply to a request.  The answer is computed once to be timed and once to be counted. -/
def reply (service : Http.Service) (state : IO.Ref Metrics) (r : Http.Request) :
    IO Http.Reply := do
  let before ← state.get
  let began ← IO.monoNanosNow
  let _ ← IO.wait (Task.spawn fun _ => service.reply before r 0)
  let ended ← IO.monoNanosNow
  state.modifyGet fun m => service.reply m r (Float.ofNat (ended - began) / 1e9)

/-- The request as it came over the wire. -/
def receive (r : Std.Http.Request Std.Http.Body.Stream) :
    Std.Async.ContextAsync Http.Request := do
  let content : ByteArray ← r.body.readAll
  return {
    method := toString r.line.method
    target := toString r.line.uri
    body   := ⟨(r.line.headers.get? .contentType).map (·.value), content.toList⟩ }

/-- The reply as it goes over the wire. -/
def send (r : Http.Reply) : Std.Async.ContextAsync (Std.Http.Response Std.Http.Body.Full) := do
  let body ← Std.Http.Body.Full.ofByteArray r.body.toUTF8
  let status := (Std.Http.Status.ofCode none r.status.toUInt16).getD .internalServerError
  let headers := [("content-type", r.contentType), ("allow", r.allow)]
  let builder := headers.foldl (fun builder (name, value) =>
    (value.bind (builder.header? name)).getD builder) (Std.Http.Response.withStatus status)
  return builder.body body

/-- A service that answers over the wire. -/
structure Handler where
  service : Http.Service
  state   : IO.Ref Metrics

instance : Std.Http.Server.Handler Handler where
  ResponseBody := Std.Http.Body.Full
  onRequest h r := do
    let request ← receive r
    let answer ← reply h.service h.state request
    send answer

/-- The address as the machine takes it. -/
def socketAddress : Net.SocketAddress → Std.Net.SocketAddress
  | .v4 q port       =>
    .v4 ⟨.ofParts q.a.toUInt8 q.b.toUInt8 q.c.toUInt8 q.d.toUInt8, port.toUInt16⟩
  | .v6 groups _ port =>
    let g (i : Nat) : UInt16 := (groups.getD i 0).toUInt16
    .v6 ⟨.ofParts (g 0) (g 1) (g 2) (g 3) (g 4) (g 5) (g 6) (g 7), port.toUInt16⟩

/-- Serves at an address, if the machine lets it. -/
def serve (service : Http.Service) (address : Net.SocketAddress) :
    IO (Except IO.Error Std.Http.Server) := do
  let state ← IO.mkRef service.initial
  let handler : Handler := ⟨service, state⟩
  (Std.Http.Server.serve (socketAddress address) handler { serverName := none }).block.toBaseIO

/-- Waits for a signal to stop. -/
def waitForSignal : IO Signal := do
  let terminate ← Std.Async.Signal.Waiter.mk .sigterm false
  let interrupt ← Std.Async.Signal.Waiter.mk .sigint false
  (Std.Async.Selectable.one #[
    .case terminate.selector (fun _ => return .terminate),
    .case interrupt.selector (fun _ => return .interrupt)]).block

/-! ## Running -/

/-- No connection to a database can be made from here. -/
def connect : Connect := fun _ => .error (.communication "no database client is built in")

/-- What the program needs of the machine for the configuration at a path. -/
def surroundings (path : String) : IO Surroundings := do
  let config ← readFile path
  let (keys, variableName) : List String × Option String :=
    match Config.load path config with
    | .error _ => ([], none)
    | .ok c    => (c.routing.hostKeyFiles, c.store.database.map (·.urlVariable))
  let keyFiles ← readFiles keys
  let url ← variableName.bindM fun name => IO.getEnv name
  return {
    files       := fun p => if p = path then config else keyFiles p
    environment := fun name => if variableName = some name then url else none
    connect     := connect
    bind        := fun _ => .ok () }

/-- Reports how the program ended. -/
def finish (ending : Ending) : IO UInt32 := do
  match ending with
  | .helped  => IO.print CommandLine.helpText
  | .usage e => IO.eprint ("error: " ++ e.message ++ "\n")
  | _        => IO.eprint (ending.report.getD "")
  return ending.exitCode.toUInt32

/-- Serves until a signal comes. -/
def listenAndServe (p : Prepared) : IO Ending := do
  let running ← (Net.SocketAddress.parse p.config.server.listen).mapM (serve p.service)
  let bind : Bind := fun _ =>
    match running with
    | some (.error e) => .error (toString e)
    | _               => .ok ()
  let (events, started) := p.start bind
  events.forM log
  match started, running with
  | .error e, _           => return .failed e
  | .ok _, some (.ok server) =>
    (stopEvents (← waitForSignal)).forM fun e => do
      if e = .ended then server.shutdownAndWait.block
      log e
    return .stopped
  | .ok _, _              => return .stopped

/-- Runs with the configuration at a path. -/
def runWith (path : String) : IO Ending := do
  let (events, prepared) := prepare (← surroundings path) path
  events.forM log
  match prepared with
  | .error e => return .failed e
  | .ok p    => listenAndServe p

end Gatehouse.Program

def main (args : List String) : IO UInt32 := do
  match Gatehouse.CommandLine.parse args with
  | .error e        => Gatehouse.Program.finish (.usage e)
  | .ok .help       => Gatehouse.Program.finish .helped
  | .ok (.run path) => Gatehouse.Program.finish (← Gatehouse.Program.runWith path)
