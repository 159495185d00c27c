import RequestRouting.RuntimeConfig
import RequestRouting.Text.Split

/-!
# Arguments

The arguments of the program: options of the program itself, the name of a command, and the options
and operands of the command. Two options may stand on either side of the name. An option is looked
at only when the next one or an operand is met, or at the end.
-/

set_option autoImplicit false

namespace RequestRouting.CommandLine

inductive UsageError where
  | help
  | helpOnMissingCommand
  | missingCommand
  | unknownCommand
  | unknownArgument
  | missingArgument
  | missingValue
  | unexpectedValue
  | repeated
  deriving DecidableEq

inductive OptionName where
  | help
  | verbose
  | config
  | table
  | header
  | body
  deriving DecidableEq

namespace OptionName

def long : OptionName → String
  | .help => "help"
  | .verbose => "verbose"
  | .config => "config"
  | .table => "table"
  | .header => "header"
  | .body => "body"

def short? : OptionName → Option Char
  | .help => some 'h'
  | .verbose => some 'v'
  | .config => none
  | .table => some 't'
  | .header => some 'H'
  | .body => some 'b'

def takesValue : OptionName → Bool
  | .help | .verbose => false
  | _ => true

def namesFile : OptionName → Bool
  | .config | .table => true
  | _ => false

def isRepeatable : OptionName → Bool
  | .header => true
  | _ => false

end OptionName

inductive CommandName where
  | check
  | resolve
  | dispatch
  deriving DecidableEq

namespace CommandName

def text : CommandName → String
  | .check => "check"
  | .resolve => "resolve"
  | .dispatch => "dispatch"

def all : List CommandName := [.check, .resolve, .dispatch]

def read? (s : String) : Option CommandName := all.find? fun c => c.text == s

def options : CommandName → List OptionName
  | .check | .resolve => [.table, .config, .verbose, .help]
  | .dispatch => [.table, .header, .body, .config, .verbose, .help]

def operandCount : CommandName → Nat
  | .check => 0
  | .resolve | .dispatch => 2

end CommandName

def helpWord : String := "help"

/-- What is known of the arguments of the program, or of a command. `pending` is an option that is
not looked at yet, without a value as long as it waits for one. -/
structure Level where
  command : Option CommandName
  given : List (OptionName × Option String) := []
  operands : List String := []
  pending : Option (OptionName × Option String) := none

namespace Level

def options (l : Level) : List OptionName :=
  match l.command with
  | none => [.config, .verbose, .help]
  | some c => c.options

def operandCount (l : Level) : Nat :=
  match l.command with
  | none => 0
  | some c => c.operandCount

def record (l : Level) (f : OptionName) (value : Option String) : Except UsageError Level :=
  if f = .help then .error .help
  else if f.takesValue && value.isNone then .error .missingValue
  else if !f.isRepeatable && l.given.any (·.1 == f) then .error .repeated
  else if f.namesFile && value == some "" then .error .missingValue
  else .ok { l with given := l.given ++ [(f, value)] }

def settle (l : Level) : Except UsageError Level :=
  match l.pending with
  | none => .ok l
  | some (f, value) => { l with pending := none }.record f value

def take (l : Level) (f : OptionName) (value : Option String) : Except UsageError Level :=
  match l.settle with
  | .error e => .error e
  | .ok l => l.record f value

def await (l : Level) (f : OptionName) : Except UsageError Level :=
  match l.settle with
  | .error e => .error e
  | .ok l => .ok { l with pending := some (f, none) }

def takeLong (l : Level) (name : String) (attached : Option String) : Except UsageError Level :=
  match l.options.find? fun f => f.long == name with
  | none => .error .unknownArgument
  | some f =>
    if f.takesValue then
      match attached with
      | some value => l.take f (some value)
      | none => l.await f
    else if attached.isSome then .error .unexpectedValue
    else l.take f none

/-- Options by their letters. One that takes a value takes the rest of the word, less an equals sign
in front, if there is any. -/
def takeShort (l : Level) : List Char → Except UsageError Level
  | [] => .ok l
  | c :: rest =>
    match l.options.find? fun f => f.short? == some c with
    | none => .error .unknownArgument
    | some f =>
      if f.takesValue then
        match rest with
        | [] => l.await f
        | '=' :: value => l.take f (some (String.ofList value))
        | value => l.take f (some (String.ofList value))
      else
        match l.take f none with
        | .error e => .error e
        | .ok l => l.takeShort rest

/-- An operand. Where no further one is expected, the program itself takes it for the name of a
command; behind two dashes the name of a command is out of place. -/
def takeOperand (l : Level) (trailing : Bool) (word : String) : Except UsageError Level :=
  if l.operands.length < l.operandCount then
    match l.settle with
    | .error e => .error e
    | .ok l => .ok { l with operands := l.operands ++ [word] }
  else
    match l.command with
    | some _ => .error .unknownArgument
    | none =>
      if trailing && ((CommandName.read? word).isSome || word == helpWord) then
        .error .unknownArgument
      else .error .unknownCommand

def takeWord (l : Level) (word : String) : Except UsageError Level :=
  match word.toList with
  | '-' :: '-' :: name =>
    match Text.cutFirst '=' (String.ofList name) with
    | some (name, value) => l.takeLong name (some value)
    | none => l.takeLong (String.ofList name) none
  | '-' :: c :: rest => l.takeShort (c :: rest)
  | _ =>
    match l.pending with
    | some (f, none) => .ok { l with pending := some (f, some word) }
    | _ => l.takeOperand false word

def helpOn : List String → UsageError
  | [] => .help
  | [name] => if (CommandName.read? name).isSome || name == helpWord then .help else .unknownCommand
  | _ => .unknownCommand

def isWaiting (l : Level) : Bool := l.pending.any (·.2.isNone)

/-- Goes through the arguments, up to the name of a command if there may be one. Behind two dashes
there are only operands. -/
def takeAll (l : Level) (trailing : Bool) :
    List String → Except UsageError (Level × Option (CommandName × List String))
  | [] => .ok (l, none)
  | word :: rest =>
    if trailing then
      match l.takeOperand true word with
      | .error e => .error e
      | .ok l => l.takeAll true rest
    else
      let expectsName := l.command.isNone && !l.isWaiting
      if expectsName && word == helpWord then .error (helpOn rest)
      else
        match if expectsName then CommandName.read? word else none with
        | some name => .ok (l, some (name, rest))
        | none =>
          if word = "--" then l.takeAll true rest
          else
            match l.takeWord word with
            | .error e => .error e
            | .ok l => l.takeAll false rest

def configVariable : String := "BRRTR_CONFIG"

def close (l : Level) (env : Environment) : Except UsageError (Level × Option String) :=
  match l.settle with
  | .error e => .error e
  | .ok l =>
    let fromEnv := if l.given.any (·.1 == .config) then none else env configVariable
    if fromEnv = some "" then .error .missingValue else .ok (l, fromEnv)

def value? (l : Level) (f : OptionName) : Option String := (l.given.lookup f).join

def values (l : Level) (f : OptionName) : List String :=
  l.given.filterMap fun g => if g.1 = f then g.2 else none

def has (l : Level) (f : OptionName) : Bool := l.given.any (·.1 == f)

end Level

inductive Command where
  | check (table : String)
  | resolve (table method path : String)
  | dispatch (table method uri : String) (headers : List String) (body : Option String)
  deriving DecidableEq

structure Arguments where
  config : Option String
  verbose : Bool
  command : Command
  deriving DecidableEq

def commandOf (name : CommandName) (l : Level) : Option Command :=
  match name, l.value? .table, l.operands with
  | .check, some table, _ => some (.check table)
  | .resolve, some table, [method, path] => some (.resolve table method path)
  | .dispatch, some table, [method, uri] =>
    some (.dispatch table method uri (l.values .header) (l.value? .body))
  | _, _, _ => none

/-- Reads all arguments. The command is read to its end before the options in front of it are looked
at. -/
def Arguments.read (env : Environment) (words : List String) : Except UsageError Arguments :=
  match ({ command := none } : Level).takeAll false words with
  | .error e => .error e
  | .ok (outer, none) =>
    match outer.close env with
    | .error e => .error e
    | .ok (outer, fromEnv) =>
      if outer.given.isEmpty && fromEnv.isNone then .error .helpOnMissingCommand
      else .error .missingCommand
  | .ok (outer, some (name, rest)) =>
    match ({ command := some name } : Level).takeAll false rest with
    | .error e => .error e
    | .ok (inner, _) =>
      match inner.close env with
      | .error e => .error e
      | .ok (inner, fromEnv) =>
        match commandOf name inner with
        | none => .error .missingArgument
        | some command =>
          match outer.close env with
          | .error e => .error e
          | .ok (outer, _) => .ok
            { config := ((inner.value? .config).or (outer.value? .config)).or fromEnv
              verbose := inner.has .verbose || outer.has .verbose
              command := command }

end RequestRouting.CommandLine
