import RequestRouting.LogFilter.Field
import RequestRouting.Text.Blank

/-!
# Log filters

A filter is a set of directives, each of which gives a level to the events of a target, of a span,
or to all events. A directive for the same events replaces an earlier one. Directives that name a
span or the value of a field speak of spans, and are kept apart from the others.
-/

set_option autoImplicit false

namespace RequestRouting

inductive FilterLevel where
  | off
  | error
  | warn
  | info
  | debug
  | trace
  deriving DecidableEq

namespace FilterLevel

def name : FilterLevel → String
  | .off => "off"
  | .error => "error"
  | .warn => "warn"
  | .info => "info"
  | .debug => "debug"
  | .trace => "trace"

def all : List FilterLevel := [.off, .error, .warn, .info, .debug, .trace]

def read? (s : String) : Option FilterLevel :=
  match Text.readUnsigned s with
  | some n => all[n]?
  | none => all.find? fun l => l.name == Text.lower s

def readOrTrace? (s : String) : Option FilterLevel := if s.isEmpty then some .trace else read? s

end FilterLevel

structure FilterScope where
  target : Option String := none
  span : Option String := none
  field : Option FieldMatch := none
  deriving DecidableEq

namespace FilterScope

/-- The scope without the sign of a zero: two scopes that have the same are of the same events. -/
def unsigned (s : FilterScope) : FilterScope :=
  { s with field := s.field.map fun f => { f with value := f.value.map ValueTest.unsigned } }

def isOfEvents (s : FilterScope) : Bool := s.span.isNone && !s.field.any (·.value.isSome)

def isOfSpans (s : FilterScope) : Bool := s.span.isSome || s.field.isSome

end FilterScope

structure Directive where
  scope : FilterScope := {}
  level : FilterLevel := .trace
  deriving DecidableEq

namespace Directive

def readLevel? (scope : FilterScope) : List Char → Option Directive
  | [] => some { scope := scope }
  | '=' :: level => (FilterLevel.readOrTrace? (String.ofList level)).map fun l => ⟨scope, l⟩
  | _ => none

def readSpan? (target : Option String) (cs : List Char) : Option Directive :=
  let (name, rest) := cs.span fun c => c != ']' && c != '\x7b'
  let span := String.ofList name
  match rest with
  | ']' :: rest => readLevel? { target := target, span := some span } rest
  | _ :: rest =>
    let (field, rest) := rest.span (· != '\x7d')
    match rest with
    | _ :: ']' :: rest =>
      if field.isEmpty then none
      else
        (FieldMatch.read? (String.ofList field)).bind fun field =>
          readLevel?
            { target := target
              span := if span.isEmpty then none else some span
              field := some field }
            rest
    | _ => none
  | [] => none

def beginsTarget (c : Char) : Bool := c == '-' || c == ':' || c == '_' || Text.isAlphanumeric c

/-- Reads a directive: a span in brackets, a target with a span or a level, or a word, which is a
level if it can be and else a target. -/
def read? (s : String) : Option Directive :=
  match s.toList with
  | [] => none
  | '[' :: rest => readSpan? none rest
  | c :: cs =>
    if !beginsTarget c then none
    else
      let (word, rest) := (c :: cs).span fun c => c != '=' && c != '['
      let target := String.ofList word
      match rest with
      | [] =>
        match FilterLevel.read? target with
        | some level => some { level := level }
        | none => some { scope := { target := some target } }
      | '[' :: rest => readSpan? (some target) rest
      | rest => readLevel? { target := some target } rest

def scopeText (s : FilterScope) : String :=
  let field := match s.field with
    | none => ""
    | some f => "\x7b" ++ f.text ++ "\x7d"
  let span := if s.span.isSome || s.field.isSome then "[" ++ s.span.getD "" ++ field ++ "]" else ""
  s.target.getD "" ++ span

def text (d : Directive) : String :=
  if d.scope = {} then d.level.name else scopeText d.scope ++ "=" ++ d.level.name

end Directive

structure LogFilter where
  events : List Directive := []
  spans : List Directive := []
  deriving DecidableEq

namespace LogFilter

def put (ds : List Directive) (d : Directive) : List Directive :=
  ds.filter (fun e => e.scope.unsigned != d.scope.unsigned) ++ [d]

def add (f : LogFilter) (d : Directive) : LogFilter :=
  if d.scope.isOfEvents then { f with events := put f.events d }
  else { f with spans := put f.spans d }

/-- The filter of some directives. One that names a field without its value speaks both of events
and of spans. -/
def ofDirectives (ds : List Directive) : LogFilter where
  events := (ds.filter (·.scope.isOfEvents)).foldl put []
  spans := (ds.filter (·.scope.isOfSpans)).foldl put []

def ofLevel (l : FilterLevel) : LogFilter := ofDirectives [{ level := l }]

/-- The filter of a list of directives, all of which must be readable; without any, errors pass. -/
def read? (s : String) : Option LogFilter :=
  (((Text.pieces ',' s).filter (· != "")).mapM Directive.read?).map fun ds =>
    if ds.isEmpty then ofLevel .error else ofDirectives ds

def extend (f : LogFilter) (s : String) : LogFilter :=
  ((Text.pieces ',' s).filterMap fun d => Directive.read? (Text.trim d)).foldl add f

def texts (f : LogFilter) : List String := (f.events ++ f.spans).map Directive.text

end LogFilter

end RequestRouting
