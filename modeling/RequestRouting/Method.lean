import RequestRouting.Text.Ascii
import RequestRouting.Text.Blank
import RequestRouting.Text.Split

/-!
# Request methods

A method is a non-empty token, compared with regard to case. `AllowedMethods` is the list of
methods that a path answers to: without repetition, the common methods first in a fixed order,
the others after them by their text.
-/

set_option autoImplicit false

namespace RequestRouting

namespace Method

def isTokenChar (c : Char) : Bool :=
  c.isAlphanum || "!#$%&'*+-.^_`|~".toList.contains c

def isToken (s : String) : Bool := !s.toList.isEmpty && s.toList.all isTokenChar

end Method

structure Method where
  token : String
  valid : Method.isToken token = true
  deriving DecidableEq

namespace Method

def ofText? (s : String) : Option Method :=
  if h : isToken s = true then some ⟨s, h⟩ else none

theorem ofText?_token (m : Method) : ofText? m.token = some m := by
  simp [ofText?, m.valid]

theorem token_of_ofText? {s : String} {m : Method} (h : ofText? s = some m) : m.token = s := by
  unfold ofText? at h
  split at h
  · rw [← Option.some.inj h]
  · cases h

theorem eq_of_token_eq {a b : Method} (h : a.token = b.token) : a = b := by
  cases a
  cases b
  simp_all

def get : Method := ⟨"GET", by decide⟩
def head : Method := ⟨"HEAD", by decide⟩
def post : Method := ⟨"POST", by decide⟩
def put : Method := ⟨"PUT", by decide⟩
def delete : Method := ⟨"DELETE", by decide⟩
def patch : Method := ⟨"PATCH", by decide⟩
def options : Method := ⟨"OPTIONS", by decide⟩
def trace : Method := ⟨"TRACE", by decide⟩

structure Invalid where
  text : String
  deriving DecidableEq

def notAToken : String := "invalid HTTP method"

def Invalid.message (e : Invalid) : String :=
  "invalid HTTP method '" ++ e.text ++ "': " ++ notAToken

def read (s : String) : Except Invalid Method :=
  match ofText? (Text.upper (Text.trim s)) with
  | some m => .ok m
  | none => .error ⟨s⟩

def rank (m : Method) : Nat :=
  if m = get then 0 else if m = head then 1 else if m = post then 2 else if m = put then 3
  else if m = delete then 4 else if m = patch then 5 else if m = options then 6
  else if m = trace then 7 else 8

/-- The order of listing: by rank, and by text within a rank. -/
def before (a b : Method) : Bool :=
  a.rank < b.rank || (a.rank == b.rank && a.token < b.token)

def upTo (a b : Method) : Bool := !b.before a

end Method

structure AllowedMethods where
  methods : List Method
  deriving DecidableEq

namespace AllowedMethods

/-- The methods, and `HEAD` behind them if `GET` implies it and it is not among them. -/
def withImplied (implicitHead : Bool) (methods : List Method) : List Method :=
  if implicitHead && methods.contains .get && !methods.contains .head then methods ++ [.head]
  else methods

/-- One method for each run of equal ones. Equal methods that do not stand side by side stay. -/
def dropRepeats : List Method → List Method
  | [] => []
  | [m] => [m]
  | m :: n :: rest => if m = n then dropRepeats (n :: rest) else m :: dropRepeats (n :: rest)

def ofMethods (implicitHead : Bool) (methods : List Method) : AllowedMethods :=
  ⟨dropRepeats ((withImplied implicitHead methods).mergeSort Method.upTo)⟩

def contains (a : AllowedMethods) (m : Method) : Bool := a.methods.contains m

def header (a : AllowedMethods) : String := Text.joinWith ", " (a.methods.map Method.token)

end AllowedMethods

end RequestRouting
