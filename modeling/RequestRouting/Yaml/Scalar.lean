import RequestRouting.Text.Numeral
import RequestRouting.Yaml.Cursor

/-!
# YAML scalars

The four ways to write a scalar: plain, in single or double quotes, and as a block that keeps or
folds its lines. Each reader gives the text and the cursor behind it.
-/

set_option autoImplicit false

namespace RequestRouting.Yaml

inductive ScalarStyle where
  | plain
  | quoted
  | literal
  | folded
  deriving DecidableEq

/-- Blanks and breaks between two parts of a scalar: the blanks if there is no break, else the
first break and the others. -/
structure Gap where
  blanks : List Char := []
  first : Option Char := none
  others : List Char := []

namespace Gap

/-- What the gap stands for: a single line feed becomes a space, of several the first is lost. -/
def fold (g : Gap) : List Char :=
  match g.first with
  | none => g.blanks
  | some '\n' => if g.others.isEmpty then [' '] else g.others
  | some b => b :: g.others

def addBreak (g : Gap) (b : Char) : Gap :=
  match g.first with
  | none => ⟨[], some b, g.others⟩
  | some _ => { g with others := g.others ++ [b] }

def scan (indent : Nat) : Nat → Gap → Bool → Cursor → Option (Gap × Bool × Cursor)
  | 0, g, broken, c => some (g, broken, c)
  | fuel + 1, g, broken, c =>
    match c.lineBreak? with
    | some (b, next) => scan indent fuel (g.addBreak b) true next
    | none =>
      match c.rest with
      | ' ' :: _ =>
        scan indent fuel (if broken then g else { g with blanks := g.blanks ++ [' '] }) broken
          (c.skip 1)
      | '\t' :: _ =>
        if broken && c.column < indent then none
        else scan indent fuel (if broken then g else { g with blanks := g.blanks ++ ['\t'] })
          broken (c.skip 1)
      | _ => some (g, broken, c)

end Gap

/-! ## Plain scalars -/

def isFlowMark (c : Char) : Bool :=
  c == ',' || c == '[' || c == ']' || c == '\x7b' || c == '\x7d'

/-- The characters up to a blank or an indicator that ends the scalar. Within brackets a colon
must not stand before a mark. -/
def plainRun (inFlow : Bool) : List Char → Option (List Char)
  | [] => some []
  | c :: rest =>
    if isBlank c || isBreak c then some []
    else if inFlow && c == ':' && rest.head?.any fun d => isFlowMark d || d == '?' then none
    else if c == ':' && atBlankOrEnd rest then some []
    else if inFlow && isFlowMark c then some []
    else (plainRun inFlow rest).map (c :: ·)

/-- A plain scalar, and whether a break was passed at its end. Its lines are indented by at least
`level` columns, but not within brackets. -/
def scanPlain (inFlow : Bool) (level : Nat) :
    Nat → Gap → Bool → Cursor → Option (List Char × Bool × Cursor)
  | 0, _, _, _ => none
  | fuel + 1, gap, broken, c =>
    if c.atDocumentMark || c.rest.head? == some '#' then some ([], broken, c)
    else
      match plainRun inFlow c.rest with
      | none => none
      | some [] => some ([], broken, c)
      | some run =>
        let after := c.skip run.length
        match Gap.scan level after.rest.length {} false after with
        | none => none
        | some (next, nextBroken, c) =>
          if atBlankOrEnd after.rest && !after.rest.isEmpty && (inFlow || level ≤ c.column) then
            (scanPlain inFlow level fuel next nextBroken c).map fun (text, b, c) =>
              (gap.fold ++ run ++ text, b, c)
          else some (gap.fold ++ run, nextBroken, c)

/-! ## Quoted scalars -/

def hexEscape? (n : Nat) (cs : List Char) : Option (Char × Nat) :=
  let digits := cs.take n
  if digits.length < n then none
  else
    match (digits.mapM (Text.digitValue? 16)).map (Text.numeral 16) with
    | none => none
    | some v =>
      if (0xD800 ≤ v ∧ v ≤ 0xDFFF) ∨ 0x10FFFF < v then none else some (Char.ofNat v, n + 1)

def escape? : List Char → Option (Char × Nat)
  | '0' :: _ => some (Char.ofNat 0, 1)
  | 'a' :: _ => some (Char.ofNat 7, 1)
  | 'b' :: _ => some (Char.ofNat 8, 1)
  | 't' :: _ => some ('\t', 1)
  | '\t' :: _ => some ('\t', 1)
  | 'n' :: _ => some ('\n', 1)
  | 'v' :: _ => some (Char.ofNat 11, 1)
  | 'f' :: _ => some (Char.ofNat 12, 1)
  | 'r' :: _ => some ('\r', 1)
  | 'e' :: _ => some (Char.ofNat 27, 1)
  | ' ' :: _ => some (' ', 1)
  | '"' :: _ => some ('"', 1)
  | '/' :: _ => some ('/', 1)
  | '\\' :: _ => some ('\\', 1)
  | 'N' :: _ => some (Char.ofNat 0x85, 1)
  | '_' :: _ => some (Char.ofNat 0xA0, 1)
  | 'L' :: _ => some (Char.ofNat 0x2028, 1)
  | 'P' :: _ => some (Char.ofNat 0x2029, 1)
  | 'x' :: rest => hexEscape? 2 rest
  | 'u' :: rest => hexEscape? 4 rest
  | 'U' :: rest => hexEscape? 8 rest
  | _ => none

def scanQuoted (single : Bool) : Nat → Cursor → Option (List Char × Cursor)
  | 0, _ => none
  | fuel + 1, c =>
    if c.atDocumentMark then none
    else
      match c.rest with
      | [] => none
      | '\'' :: '\'' :: _ =>
        if single then (scanQuoted single fuel (c.skip 2)).map fun (t, c) => ('\'' :: t, c)
        else (scanQuoted single fuel (c.skip 1)).map fun (t, c) => ('\'' :: t, c)
      | x :: rest =>
        if x = (if single then '\'' else '"') then some ([], c.skip 1)
        else if x = '\\' ∧ single = false then
          match (c.skip 1).lineBreak? with
          | some (_, next) =>
            match Gap.scan 0 next.rest.length {} true next with
            | none => none
            | some (gap, _, c) =>
              (scanQuoted single fuel c).map fun (t, c) => (gap.first.toList ++ gap.others ++ t, c)
          | none =>
            match escape? rest with
            | none => none
            | some (e, n) => (scanQuoted single fuel (c.skip (n + 1))).map fun (t, c) => (e :: t, c)
        else if isBlank x || isBreak x then
          match Gap.scan 0 c.rest.length {} false c with
          | none => none
          | some (gap, _, c) => (scanQuoted single fuel c).map fun (t, c) => (gap.fold ++ t, c)
        else (scanQuoted single fuel (c.skip 1)).map fun (t, c) => (x :: t, c)

/-! ## Block scalars -/

inductive Chomping where
  | strip
  | clip
  | keep
  deriving DecidableEq

def chomping? : Char → Option Chomping
  | '+' => some .keep
  | '-' => some .strip
  | _ => none

def indentDigit? (c : Char) : Option Nat :=
  if c.isDigit && c != '0' then some (c.toNat - 0x30) else none

def blockHeader? (cs : List Char) : Option (Chomping × Option Nat × Nat) :=
  match cs with
  | [] => some (.clip, none, 0)
  | c :: rest =>
    match chomping? c with
    | some chomping =>
      match rest.head? with
      | some '0' => none
      | some d =>
        match indentDigit? d with
        | some n => some (chomping, some n, 2)
        | none => some (chomping, none, 1)
      | none => some (chomping, none, 1)
    | none =>
      if c = '0' then none
      else
        match indentDigit? c with
        | none => some (.clip, none, 0)
        | some n =>
          match rest.head?.bind chomping? with
          | some chomping => some (chomping, some n, 2)
          | none => some (.clip, some n, 1)

/-- Indentation and empty lines before a line of a block: the breaks, the greatest column seen,
and the cursor. A tab within the indentation is refused. -/
def blockBreaks (indent : Option Nat) :
    Nat → List Char → Nat → Cursor → Option (List Char × Nat × Cursor)
  | 0, breaks, widest, c => some (breaks, widest, c)
  | fuel + 1, breaks, widest, c =>
    let spaces := (c.rest.takeWhile (· == ' ')).length
    let c := c.skip (match indent with
      | none => spaces
      | some n => min spaces (n - c.column))
    let inside := match indent with
      | none => true
      | some n => c.column < n
    if inside && c.rest.head? == some '\t' then none
    else
      match c.lineBreak? with
      | none => some (breaks, max widest c.column, c)
      | some (b, next) => blockBreaks indent fuel (breaks ++ [b]) (max widest c.column) next

/-- The lines of a block. `leading` is the break before the current line and `afterBlank` whether
the line before began with a blank; `breaks` are those of the empty lines between. -/
def blockLines (literal : Bool) (indent : Nat) :
    Nat → Option Char → Bool → List Char → Cursor →
      Option (List Char × Option Char × List Char × Cursor)
  | 0, _, _, _, _ => none
  | fuel + 1, leading, afterBlank, breaks, c =>
    if c.column = indent ∧ c.rest ≠ [] then
      let startsBlank := c.rest.head?.any isBlank
      let folds := !literal && leading == some '\n' && !afterBlank && !startsBlank
      let joined :=
        (if folds then (if breaks.isEmpty then [' '] else []) else leading.toList) ++ breaks
      let line := c.rest.takeWhile fun x => !isBreak x
      let c := c.skip line.length
      let (leading, c) := match c.lineBreak? with
        | some (b, next) => (some b, next)
        | none => (none, c)
      match blockBreaks (some indent) (c.rest.length + 1) [] 0 c with
      | none => none
      | some (breaks, _, c) =>
        (blockLines literal indent fuel leading startsBlank breaks c).map
          fun (text, rest) => (joined ++ line ++ text, rest)
    else some ([], leading, breaks, c)

def scanBlock (literal : Bool) (level : Nat) (c : Cursor) : Option (List Char × Cursor) := do
  let (chomping, increment, n) ← blockHeader? c.rest
  let c ← (c.skip n).endOfLine?
  let given := increment.map fun n => level - 1 + n
  let (breaks, widest, c) ← blockBreaks given (c.rest.length + 1) [] 0 c
  let indent := given.getD (max (max widest level) 1)
  let (text, leading, breaks, c) ← blockLines literal indent (c.rest.length + 1) none false breaks c
  let tail := match chomping with
    | .strip => []
    | .clip => leading.toList
    | .keep => leading.toList ++ breaks
  return (text ++ tail, c)

end RequestRouting.Yaml
