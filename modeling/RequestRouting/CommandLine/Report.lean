import RequestRouting.CommandLine.Arguments
import RequestRouting.Dispatcher
import RequestRouting.Json.Parser
import RequestRouting.Json.Printer
import RequestRouting.RouteTable.File
import RequestRouting.RuntimeConfig.File

/-!
# Commands

What the program answers to its arguments: it checks a route table, looks one request up, or runs
one request through its chain. Names that are no middleware are served by the echo handler.
-/

set_option autoImplicit false

namespace RequestRouting.CommandLine

open Document (FileSystem)

structure Report where
  output : String := ""
  events : List Event := []
  failure : Option String := none

def unlines (lines : List String) : String := String.join (lines.map (· ++ "\n"))

def registry : HandlerRegistry := HandlerRegistry.builtin.setFallback (Echo.handler "echo")

def loadConfig (files : FileSystem) (env : Environment) :
    Option String → Except String RuntimeConfig
  | none => .ok (RuntimeConfig.ofEnvironment env)
  | some file => (RuntimeConfig.load files env file).mapError (RuntimeConfig.loadMessage file)

structure Loaded where
  table : RouteTable
  router : Router
  events : List Event

def loadRouter (files : FileSystem) (c : RuntimeConfig) (file : String) :
    Except String Loaded :=
  match RouteTable.ofFile files file with
  | .error e => .error (RouteTable.loadMessage file e)
  | .ok table =>
    let start := Router.withConfig c
    match start.extend table registry with
    | (.error e, _) => .error ("route table " ++ file ++ " is invalid: " ++ e.message)
    | (.ok (), router) => .ok
      { table, router
        events := RouteTable.loadEvents file table ++ start.extendEvents table registry ++
          (if c.logRoutes then router.dumpEvents else []) }

/-! ## Checking a table -/

def entryLine (e : RouteEntry) : String :=
  "  " ++ Text.padRight 7 e.method.token ++ " " ++ Text.padRight 40 e.pattern ++ " chain=" ++
    toString e.chain.length

def echoedNames (t : RouteTable) : List String :=
  t.referencedNames.filter fun n => !registry.contains n

def checkLines (t : RouteTable) (r : Router) : List String :=
  (toString r.entries.length ++ " routes OK") :: r.entries.map entryLine ++
    (if (echoedNames t).isEmpty then []
      else ["served by echo: " ++ Text.joinWith ", " (echoedNames t)])

/-! ## Looking a request up -/

def lookupLines : RouteLookup → List String
  | .found route =>
    ("MATCH " ++ route.entry.method.token ++ " " ++ route.entry.pattern) ::
      route.params.pairs.map fun p => "  " ++ p.1 ++ " = " ++ p.2
  | .methodNotAllowed allowed => ["METHOD NOT ALLOWED (allow: " ++ allowed.header ++ ")"]
  | .notFound => ["NOT FOUND"]

def resolveLines (r : Router) (method : Method) (target : String) : List String :=
  lookupLines (r.resolve method (Request.splitTarget target).1)

/-! ## Running a request -/

def readHeader (h : String) : Except String (String × String) :=
  match Text.cutFirst ':' h with
  | some (name, value) => .ok (Text.trim name, Text.trim value)
  | none => .error ("header '" ++ h ++ "' must look like 'name: value'")

def readHeaders : List String → Except String (List (String × String))
  | [] => .ok []
  | h :: rest =>
    match readHeader h with
    | .error e => .error e
    | .ok header => (readHeaders rest).map (header :: ·)

def readBody : Option String → Except String (Option Json)
  | none => .ok none
  | some text =>
    match Json.parseValue? text with
    | some v => .ok (some v)
    | none => .error ("--body is not valid JSON: " ++ Document.Format.json.mark)

def readRequest (method uri : String) (headers : List String) (body : Option String) :
    Except String Request :=
  match Method.read method with
  | .error e => .error e.message
  | .ok method =>
    match readHeaders headers with
    | .error e => .error e
    | .ok headers => (readBody body).map fun body => { method, uri, headers, body }

def responseLines (r : Response) : List String :=
  ("HTTP " ++ toString r.status) :: r.headers.map (fun h => h.1 ++ ": " ++ h.2) ++
    ["", r.body.pretty]

def dispatch (router : Router) (c : RuntimeConfig) (request : Request) (minted : RequestId) :
    Report :=
  match (Dispatcher.withConfig router c).handle request minted {} with
  | (.ok response, w) => { output := unlines (responseLines response), events := w.journal }
  | (.error payload, w) => { events := w.journal, failure := some payload.message }

def runLoaded (c : RuntimeConfig) (minted : RequestId) (l : Loaded) : Command → Report
  | .check _ => { output := unlines (checkLines l.table l.router) }
  | .resolve _ method path =>
    match Method.read method with
    | .error e => { failure := some e.message }
    | .ok method =>
      { output := unlines (resolveLines l.router method path)
        events := l.router.resolveEvents method (Request.splitTarget path).1 }
  | .dispatch _ method uri headers body =>
    match readRequest method uri headers body with
    | .error e => { failure := some e }
    | .ok request => dispatch l.router c request minted

def Command.table : Command → String
  | .check table | .resolve table _ _ | .dispatch table _ _ _ _ => table

/-- Runs a command: the configuration is loaded first, then the table. A request without an
identifier gets the minted one. -/
def run (files : FileSystem) (env : Environment) (minted : RequestId) (a : Arguments) : Report :=
  match loadConfig files env a.config with
  | .error e => { failure := some e }
  | .ok c =>
    let overlaid := RuntimeConfig.overlayEvents env
    match loadRouter files c a.command.table with
    | .error e => { events := overlaid, failure := some e }
    | .ok l =>
      let report := runLoaded c minted l a.command
      { report with events := overlaid ++ l.events ++ report.events }

end RequestRouting.CommandLine
