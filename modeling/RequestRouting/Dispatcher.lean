import RequestRouting.Chain
import RequestRouting.Request
import RequestRouting.Router.Events
import RequestRouting.SharedRouter

/-!
# Dispatchers

A dispatcher looks the route of a request up and runs its chain. The answer is a response, an
error, or a panic that nobody caught.
-/

set_option autoImplicit false

namespace RequestRouting

inductive DispatchError where
  | notFound (method : Method) (path : String)
  | methodNotAllowed (method : Method) (path : String) (allowed : AllowedMethods)
  | handler (error : HandlerError)
  deriving DecidableEq

namespace DispatchError

def statusCode : DispatchError → Nat
  | .notFound _ _ => 404
  | .methodNotAllowed _ _ _ => 405
  | .handler e => e.statusCode

def message : DispatchError → String
  | .notFound method path => "no route for " ++ method.token ++ " " ++ path
  | .methodNotAllowed method path allowed =>
    "method " ++ method.token ++ " not allowed for " ++ path ++
      " (allowed: " ++ allowed.header ++ ")"
  | .handler e => "handler failed: " ++ e.message

def source? : DispatchError → Option String
  | .handler e => some e.message
  | _ => none

def response : DispatchError → Response
  | .notFound _ _ => .error 404 "Not Found"
  | .methodNotAllowed _ _ allowed =>
    (Response.error 405 "Method Not Allowed").setHeader "allow" allowed.header
  | .handler e => e.response

end DispatchError

inductive DispatchResult where
  | answered (response : Response)
  | refused (error : DispatchError)
  | panicked (payload : PanicPayload)

/-- What outlives a request: the notes of the handlers, the meters, and the journal. -/
structure World where
  notes : List (String × Json) := []
  meters : Meters := []
  journal : List Event := []

structure Dispatcher where
  router : SharedRouter := .withConfig {} {}
  config : RuntimeConfig := {}

namespace Dispatcher

def withConfig (r : Router) (c : RuntimeConfig) : Dispatcher := ⟨.withConfig r c, c⟩

def ofShared (s : SharedRouter) (c : RuntimeConfig) : Dispatcher := ⟨s.configure c, c⟩

def signal (d : Dispatcher) : CancelSignal :=
  match d.config.requestTimeout with
  | some ms => .withTimeout ms
  | none => {}

def contextOf (request : Request) (route : RouteMatch) (minted : RequestId)
    (signal : CancelSignal) : Context where
  requestId := request.requestId.getD minted
  method := request.method
  path := request.path
  pattern := route.entry.pattern
  params := route.params
  query := Query.parse request.query
  headers := request.headers
  body := request.body
  signal := signal

def start (w : World) (context : Context) : Execution where
  scope := ⟨context, w.notes⟩
  meters := w.meters
  journal := w.journal

def completeEvent (e : Execution) : Event :=
  .entry .debug "Dispatch complete"
    [e.idField, ("method", .text e.context.method.token), e.patternField,
      ("status", .number e.context.response.status), ("handlers_run", .number e.cursor)]

def withoutBody (e : Execution) : Execution :=
  if e.context.method = .head then
    e.mapContext fun c => { c with response := { c.response with body := .null } }
  else e

def conclude (outcome : Outcome) (e : Execution) : DispatchResult × Execution :=
  match outcome with
  | .ok =>
    let done := withoutBody e
    (.answered done.context.response, done.log (completeEvent done))
  | .failed error => (.refused (.handler error), e)
  | .panicked payload => (.panicked payload, e)

/-- Dispatches with the given signal. A request without an identifier gets the minted one. -/
def dispatchWith (d : Dispatcher) (request : Request) (signal : CancelSignal) (minted : RequestId)
    (w : World) : DispatchResult × World :=
  let router := d.router.load
  let w := { w with journal := w.journal ++ router.resolveEvents request.method request.path }
  match router.resolve request.method request.path with
  | .notFound => (.refused (.notFound request.method request.path), w)
  | .methodNotAllowed allowed =>
    (.refused (.methodNotAllowed request.method request.path allowed), w)
  | .found route =>
    let (outcome, after) := Chain.advance route.entry.chain
      (start w (contextOf request route minted signal))
    let (result, done) := conclude outcome after
    (result, ⟨done.scope.notes, done.meters, done.journal⟩)

def dispatch (d : Dispatcher) (request : Request) (minted : RequestId) (w : World) :
    DispatchResult × World :=
  d.dispatchWith request d.signal minted w

def handle (d : Dispatcher) (request : Request) (minted : RequestId) (w : World) :
    Except PanicPayload Response × World :=
  match d.dispatch request minted w with
  | (.answered response, w) => (.ok response, w)
  | (.refused error, w) => (.ok error.response, w)
  | (.panicked payload, w) => (.error payload, w)

end Dispatcher

end RequestRouting
