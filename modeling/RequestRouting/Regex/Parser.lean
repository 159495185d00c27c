import RequestRouting.Regex.Basic
import RequestRouting.Text.Alphanumeric
import RequestRouting.Text.Blank
import RequestRouting.Text.Numeral

/-!
# Reading regular expressions

`parse?` reads the expressions that hold no closing brace. What needs one, a count of repetitions or
a name in braces, is therefore refused.
-/

set_option autoImplicit false

namespace RequestRouting.Regex

/-- The text that is left. In a spaced expression blanks and comments are passed over. The names of
the groups so far are kept, since none may be used twice. -/
structure Source where
  rest : List Char
  spaced : Bool := false
  names : List String := []

def dropSpace (inComment : Bool) : List Char → List Char
  | [] => []
  | c :: rest =>
    if inComment then dropSpace (c != '\n') rest
    else if c = '#' then dropSpace true rest
    else if Text.isBlank c then dropSpace false rest
    else c :: rest

namespace Source

def skipSpace (s : Source) : Source :=
  if s.spaced then { s with rest := dropSpace false s.rest } else s

def skip (s : Source) (n : Nat) : Source := { s with rest := s.rest.drop n }

def next (s : Source) : Source := (s.skip 1).skipSpace

/-- The character behind the first one and the space there. Of a comment only the mark is passed. -/
def peek? (s : Source) : Option Char :=
  let after := s.rest.drop 1
  if s.spaced then
    match after.dropWhile Text.isBlank with
    | [] => after.head?
    | '#' :: rest => (rest.dropWhile Text.isBlank).head?.or after.head?
    | c :: _ => some c
  else after.head?

end Source

/-! ## Escapes -/

def isEscapable (c : Char) : Bool :=
  isAscii c && !c.isAlphanum && c != '<' && c != '>'

def control? : Char → Option Char
  | 'a' => some (Char.ofNat 7)
  | 'f' => some (Char.ofNat 12)
  | 't' => some '\t'
  | 'n' => some '\n'
  | 'r' => some '\r'
  | 'v' => some (Char.ofNat 11)
  | _ => none

def hexDigits? : Nat → Source → Option (List Nat × Source)
  | 0, s => some ([], s)
  | n + 1, s =>
    match s.rest.head?.bind (Text.digitValue? 16) with
    | none => none
    | some d => (hexDigits? n s.next).map fun (ds, s) => (d :: ds, s)

def hexChar? (n : Nat) (s : Source) : Option (Char × Source) :=
  match hexDigits? n s.skipSpace with
  | none => none
  | some (ds, s) =>
    let v := Text.numeral 16 ds
    if (0xD800 ≤ v ∧ v ≤ 0xDFFF) ∨ 0x10FFFF < v then none else some (Char.ofNat v, s)

def isCategory (c : Char) : Bool := "clmnpszCLMNPSZ".toList.contains c

/-- What a backslash and the character behind it stand for; the source is behind both. -/
def escaped? (c : Char) (s : Source) : Option (Regex × Source) :=
  if c = 'x' then (hexChar? 2 s).map fun (c, s) => (.literal ⟨c, true⟩, s)
  else if c = 'u' then (hexChar? 4 s).map fun (c, s) => (.literal ⟨c, false⟩, s)
  else if c = 'U' then (hexChar? 8 s).map fun (c, s) => (.literal ⟨c, false⟩, s)
  else if c = 'p' || c = 'P' then
    let s := s.skipSpace
    if s.rest.head?.any isCategory then some (.set .property, s.next) else none
  else if c = 'd' || c = 's' || c = 'w' then some (.set (.family false), s)
  else if c = 'D' || c = 'S' || c = 'W' then some (.set (.family true), s)
  else if isEscapable c then some (.literal ⟨c, false⟩, s)
  else if c = 'A' || c = 'z' then some (.edge, s)
  else if c = 'b' || c = 'B' || c = '<' || c = '>' then some (.wordEdge, s)
  else (control? c).map fun c => (.literal ⟨c, false⟩, s)

def escape? (s : Source) : Option (Regex × Source) :=
  match s.rest with
  | '\\' :: c :: _ => escaped? c (s.skip 2)
  | _ => none

/-! ## Sets of characters -/

def setNames : List String :=
  ["alnum", "alpha", "ascii", "blank", "cntrl", "digit", "graph", "lower", "print", "punct",
    "space", "upper", "word", "xdigit"]

def named? (s : Source) : Option (Bool × Source) :=
  match s.rest with
  | '[' :: ':' :: rest =>
    let negated := rest.head? == some '^'
    let rest := if negated then rest.drop 1 else rest
    let name := rest.takeWhile (· != ':')
    match rest.drop name.length with
    | ':' :: ']' :: rest =>
      if setNames.contains (String.ofList name) then some (negated, { s with rest := rest })
      else none
    | _ => none
  | _ => none

def setAtom? (s : Source) : Option (Regex × Source) :=
  match s.rest with
  | [] => none
  | '\\' :: _ => escape? s
  | c :: _ => some (.literal ⟨c, false⟩, s.skip 1)

def setItem? (s : Source) : Option (CharSet × Source) := do
  let (first, s) ← setAtom? s
  let s := s.skipSpace
  if s.rest.head? != some '-' || s.peek? == some ']' || s.peek? == some '-' then
    match first with
    | .literal l => some (.literal l, s)
    | .set chars => some (chars, s)
    | _ => none
  else
    let (last, s) ← setAtom? s.next
    match first, last with
    | .literal a, .literal b => if a.char ≤ b.char then some (.range a b, s) else none
    | _, _ => none

def hyphens : Nat → Source → List CharSet × Source
  | 0, s => ([], s)
  | fuel + 1, s =>
    if s.rest.head? == some '-' then
      let (items, s) := hyphens fuel s.next
      (.literal ⟨'-', false⟩ :: items, s)
    else ([], s)

/-- What stands behind an opening bracket: a circumflex, and hyphens or a closing bracket that stand
for themselves. -/
def openSet (s : Source) : Bool × List CharSet × Source :=
  let s := s.next
  let negated := s.rest.head? == some '^'
  let s := if negated then s.next else s
  let (items, s) := hyphens s.rest.length s
  if items.isEmpty && s.rest.head? == some ']' then
    (negated, [.literal ⟨']', false⟩], s.next)
  else (negated, items, s)

def setBody? : Nat → Option CharSet → List CharSet → Source → Option (CharSet × Source)
  | 0, _, _, _ => none
  | fuel + 1, left, items, s =>
    let s := s.skipSpace
    let union := CharSet.ofList items
    let combined := match left with
      | none => union
      | some l => .combined l union
    match s.rest with
    | [] => none
    | ']' :: _ => some (combined, s.skip 1)
    | '&' :: '&' :: _ | '-' :: '-' :: _ | '~' :: '~' :: _ =>
      setBody? fuel (some combined) [] (s.skip 2)
    | '[' :: _ =>
      match named? s with
      | some (negated, s) => setBody? fuel left (items ++ [.named negated]) s
      | none =>
        let (negated, first, inner) := openSet s
        match setBody? fuel none first inner with
        | none => none
        | some (chars, s) => setBody? fuel left (items ++ [.brackets negated chars]) s
    | _ =>
      match setItem? s with
      | none => none
      | some (item, s) => setBody? fuel left (items ++ [item]) s

def set? (s : Source) : Option (CharSet × Source) :=
  let (negated, items, inner) := openSet s
  (setBody? (s.rest.length + 1) none items inner).map fun (chars, s) => (.brackets negated chars, s)

/-! ## Groups -/

def flag? : Char → Option Flag
  | 'i' => some .ignoreCase
  | 'm' => some .multiLine
  | 's' => some .dotAll
  | 'U' => some .swapGreed
  | 'u' => some .unicode
  | 'R' => some .carriageReturns
  | 'x' => some .spaced
  | _ => none

/-- Flags up to a colon or a closing parenthesis, and whether it is a colon. No flag is given twice,
and there is at most one minus sign, with flags behind it. -/
def setting? (found : Setting) (negated dangling : Bool) :
    List Char → Option (Setting × Bool × List Char)
  | [] => none
  | c :: rest =>
    if c = ':' || c = ')' then if dangling then none else some (found, c == ':', rest)
    else if c = '-' then if negated then none else setting? found true true rest
    else
      match flag? c with
      | none => none
      | some f =>
        if (found.lookup f).isSome then none
        else setting? (found ++ [(f, !negated)]) negated false rest

def isNameChar (c : Char) : Bool := "_.[]".toList.contains c || Text.isAlphanumeric c

def groupName? (s : Source) : Option Source :=
  let name := s.rest.takeWhile (· != '>')
  let text := String.ofList name
  if name.head?.any (fun c => c == '_' || Text.isAlphabetic c) && name.all isNameChar &&
      !s.names.contains text && (s.rest.drop name.length).head? == some '>' then
    some { s with rest := s.rest.drop (name.length + 1), names := text :: s.names }
  else none

/-- What stands behind an opening parenthesis: flags that hold up to the end of the group around
them, or the beginning of a group. -/
inductive Opening where
  | flags (s : Setting)
  | group (s : Setting)

/-- The beginning of a group. Nothing can be said of the text before or behind a position. -/
def opening? (s : Source) : Option (Opening × Source) :=
  let s := s.skipSpace
  match s.rest with
  | '?' :: 'P' :: '<' :: rest => (groupName? { s with rest := rest }).map fun s => (.group [], s)
  | '?' :: '<' :: rest =>
    if rest.head? == some '=' || rest.head? == some '!' then none
    else (groupName? { s with rest := rest }).map fun s => (.group [], s)
  | '?' :: rest =>
    match setting? [] false false rest with
    | none => none
    | some (found, true, rest) => some (.group found, { s with rest := rest })
    | some (found, false, rest) =>
      if found.isEmpty then none else some (.flags found, { s with rest := rest })
  | _ => some (.group [], s)

def Source.within (s : Source) (given : Setting) : Source :=
  { s with spaced := given.apply .spaced s.spaced }

/-! ## Expressions -/

def isRepeatable : Regex → Bool
  | .flags _ => false
  | _ => true

def atom? (s : Source) : Option (Regex × Source) :=
  match s.rest with
  | [] => none
  | '\\' :: _ => escape? s
  | '.' :: _ => some (.any, s.skip 1)
  | '^' :: _ | '$' :: _ => some (.edge, s.skip 1)
  | c :: _ => some (.literal ⟨c, false⟩, s.skip 1)

/-- The branches up to the end of the text or, within a group, to its closing parenthesis. The parts
of the current branch come last first. -/
def branches? (inGroup : Bool) :
    Nat → List Regex → List Regex → Source → Option (Regex × Source)
  | 0, _, _, _ => none
  | fuel + 1, done, parts, s =>
    let s := s.skipSpace
    let branch := ofList parts.reverse
    match s.rest with
    | [] => if inGroup then none else some (ofBranches (done ++ [branch]), s)
    | ')' :: _ => if inGroup then some (ofBranches (done ++ [branch]), s.skip 1) else none
    | '|' :: _ => branches? inGroup fuel (done ++ [branch]) [] (s.skip 1)
    | '\x7b' :: _ => none
    | '(' :: _ =>
      match opening? (s.skip 1) with
      | none => none
      | some (.flags given, s) =>
        branches? inGroup fuel done (.flags given :: parts) (s.within given)
      | some (.group given, inner) =>
        match branches? true fuel [] [] (inner.within given) with
        | none => none
        | some (body, after) =>
          branches? inGroup fuel done (.group given body :: parts) { after with spaced := s.spaced }
    | '[' :: _ =>
      match set? s with
      | none => none
      | some (chars, s) => branches? inGroup fuel done (.set chars :: parts) s
    | c :: rest =>
      if c = '?' || c = '*' || c = '+' then
        match parts with
        | [] => none
        | r :: parts =>
          if isRepeatable r then
            let length := if rest.head? == some '?' then 2 else 1
            branches? inGroup fuel done (.repeated r :: parts) (s.skip length)
          else none
      else
        match atom? s with
        | none => none
        | some (r, s) => branches? inGroup fuel done (r :: parts) s

def parse? (text : String) : Option Regex :=
  (branches? false (text.toList.length + 1) [] [] { rest := text.toList }).map (·.1)

end RequestRouting.Regex
