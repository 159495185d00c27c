import RequestRouting.Text.Utf8
import RequestRouting.Yaml.Scalar

/-!
# YAML tokens

`tokens?` cuts a text into tokens. Indentation is written out as tokens that open and close blocks.
Whether a token begins a key is known only when its colon is met, so the tokens that say so are put
in front of it afterwards; the place where a key may have begun is kept until then, at most one for
the block context and one for each open bracket.
-/

set_option autoImplicit false

namespace RequestRouting.Yaml

inductive Token where
  | version (major minor : Nat)
  | handle (name stem : String)
  | documentStart
  | documentEnd
  | blockSequence
  | blockMapping
  | blockEnd
  | flowSequence
  | flowSequenceEnd
  | flowMapping
  | flowMappingEnd
  | blockEntry
  | flowEntry
  | key
  | value
  | alias (name : String)
  | anchor (name : String)
  | tag (handle suffix : String)
  | scalar (style : ScalarStyle) (text : String)
  deriving DecidableEq

/-! ## Names, tags and directives -/

def wordAt? (c : Cursor) : Option (String × Cursor) :=
  let word := c.rest.takeWhile isWord
  if word.isEmpty then none else some (String.ofList word, c.skip word.length)

def anchorName? (c : Cursor) : Option (String × Cursor) :=
  (wordAt? c).filter fun (_, c) =>
    atBlankOrEnd c.rest || c.rest.head?.any fun x => "?:,]\x7d%@`".toList.contains x

def octet? : List Char → Option Nat
  | '%' :: a :: b :: _ => ([a, b].mapM (Text.digitValue? 16)).map (Text.numeral 16)
  | _ => none

def octetCount (first : Nat) : Nat :=
  if first < 0x80 then 1
  else if first / 32 = 6 then 2
  else if first / 16 = 14 then 3
  else if first / 8 = 30 then 4
  else 0

def laterOctets? : Nat → List Char → Option (List Nat)
  | 0, _ => some []
  | n + 1, cs =>
    match octet? cs with
    | none => none
    | some b => if b / 64 = 2 then (laterOctets? n (cs.drop 3)).map (b :: ·) else none

def escapedOctets? (cs : List Char) : Option (List Nat) :=
  (octet? cs).bind fun first =>
    match octetCount first with
    | 0 => none
    | n + 1 => (laterOctets? n (cs.drop 3)).map (first :: ·)

def isUriChar (verbatim : Bool) (c : Char) : Bool :=
  isWord c || ";/?:@&=+$.%!~*'()".toList.contains c ||
    (verbatim && (c == ',' || c == '[' || c == ']'))

def uriOctets? (verbatim : Bool) : Nat → List Char → Option (List UInt8 × Nat)
  | 0, _ => some ([], 0)
  | _ + 1, [] => some ([], 0)
  | fuel + 1, x :: rest =>
    if !isUriChar verbatim x then some ([], 0)
    else if x = '%' then
      match escapedOctets? (x :: rest) with
      | none => none
      | some octets =>
        let n := 3 * octets.length
        (uriOctets? verbatim fuel ((x :: rest).drop n)).map fun (more, m) =>
          (octets.map (fun b => UInt8.ofNat b) ++ more, n + m)
    else
      (uriOctets? verbatim fuel rest).map fun (more, m) => (UInt8.ofNat x.toNat :: more, m + 1)

/-- A run of tag characters, and the cursor behind it. An escaped zero ends the text of the run. -/
def uriAt? (verbatim : Bool) (c : Cursor) : Option (String × Cursor) :=
  (uriOctets? verbatim (c.rest.length + 1) c.rest).map fun (octets, n) =>
    (Text.decodeLossy (octets.takeWhile (· != 0)), c.skip n)

def someUriAt? (verbatim : Bool) (c : Cursor) : Option (String × Cursor) :=
  if c.rest.head?.any (isUriChar verbatim) then uriAt? verbatim c else none

def tagHandle? (c : Cursor) : Option (String × Bool × Cursor) :=
  match c.rest with
  | '!' :: rest =>
    let word := rest.takeWhile isWord
    let c := c.skip (word.length + 1)
    if c.rest.head? == some '!' then some (String.ofList ('!' :: (word ++ ['!'])), true, c.skip 1)
    else some (String.ofList ('!' :: word), false, c)
  | _ => none

/-- A tag: verbatim between angle brackets, with a handle, or an exclamation mark and a suffix that
may be empty. -/
def tagAt? (inFlow : Bool) (c : Cursor) : Option (Token × Cursor) := do
  let (token, c) ← match c.rest with
    | '!' :: '<' :: _ => do
      let (uri, c) ← someUriAt? true (c.skip 2)
      if c.rest.head? != some '>' then none
      else some (Token.tag "" uri, c.skip 1)
    | _ => do
      let (handle, closed, c) ← tagHandle? c
      if closed then
        let (uri, c) ← someUriAt? false c
        some (Token.tag handle uri, c)
      else
        let (uri, c) ← uriAt? false c
        let suffix := String.ofList (handle.toList.drop 1) ++ uri
        if suffix.isEmpty then some (Token.tag "" "!", c) else some (Token.tag "!" suffix, c)
  if atBlankOrEnd c.rest || (inFlow && c.rest.head? == some ',') then some (token, c) else none

def versionNumber? (c : Cursor) : Option (Nat × Cursor) :=
  let digits := c.rest.takeWhile Char.isDigit
  if digits.isEmpty || 9 < digits.length then none
  else some (digits.foldl (fun n d => n * 10 + (d.toNat - 0x30)) 0, c.skip digits.length)

def directive? (c : Cursor) : Option (Token × Cursor) := do
  let (name, c) ← wordAt? c
  if !atBlankOrEnd c.rest then none
  else
    let c := c.skipWhile isBlank
    let (token, c) ←
      if name = "YAML" then do
        let (major, c) ← versionNumber? c
        if c.rest.head? != some '.' then none
        else
          let (minor, c) ← versionNumber? (c.skip 1)
          some (Token.version major minor, c)
      else if name = "TAG" then do
        let (handle, closed, c) ← tagHandle? c
        if !closed && handle != "!" then none
        else if !c.rest.head?.any isBlank then none
        else
          let (stem, c) ← someUriAt? true (c.skipWhile isBlank)
          if !atBlankOrEnd c.rest then none
          else some (Token.handle handle stem, c)
      else none
    (c.endOfLine?).map fun c => (token, c)

/-- A plain scalar begins here: with a character that is no indicator, or with one of three
indicators before another character. -/
def startsPlain (inFlow : Bool) : List Char → Bool
  | [] => false
  | x :: rest =>
    !(isBlank x || isBreak x || "-?:,[]\x7b\x7d#&*!|>'\"%@`".toList.contains x) ||
      (x == '-' && !rest.head?.any isBlank) ||
      (!inFlow && (x == '?' || x == ':') && !atBlankOrEnd rest)

/-! ## The state between two tokens -/

/-- A place where a key may have begun, before the token of the given number. In a block, a token
in the column of the keys must be a key. -/
structure PendingKey where
  required : Bool
  number : Nat
  offset : Nat
  line : Nat
  column : Nat

/-- A key has its colon on the same line, within 1024 octets. -/
def PendingKey.isStale (k : PendingKey) (c : Cursor) : Bool :=
  k.line < c.line || k.offset + 1024 < c.offset

def PendingKey.expire? (c : Cursor) : Option PendingKey → Option (Option PendingKey)
  | none => some none
  | some k =>
    if k.isStale c then if k.required then none else some none
    else some (some k)

/-- The tokens so far and the text that is left. `level` is one more than the column of the
innermost block, zero outside of blocks, and `outer` has the levels around it; `key` belongs to the
innermost open bracket, and `flow` has one entry for each bracket around that. -/
structure Scanner where
  cursor : Cursor
  tokens : List Token := []
  level : Nat := 0
  outer : List Nat := []
  mayBeKey : Bool := true
  key : Option PendingKey := none
  flow : List (Option PendingKey) := []

namespace Scanner

def inFlow (s : Scanner) : Bool := !s.flow.isEmpty

def emit (s : Scanner) (t : Token) : Scanner := { s with tokens := s.tokens ++ [t] }

def emitAt (s : Scanner) (number : Nat) (t : Token) : Scanner :=
  { s with tokens := s.tokens.insertIdx number t }

def pass (s : Scanner) (n : Nat) (t : Token) : Scanner :=
  { s with cursor := s.cursor.skip n }.emit t

def dropKey? (s : Scanner) : Option Scanner :=
  match s.key with
  | some k => if k.required then none else some { s with key := none }
  | none => some s

def saveKey? (s : Scanner) : Option Scanner :=
  if s.mayBeKey then
    s.dropKey?.map fun s =>
      { s with
        key := some
          { required := !s.inFlow && s.level == s.cursor.column + 1
            number := s.tokens.length
            offset := s.cursor.offset
            line := s.cursor.line
            column := s.cursor.column } }
  else some s

/-- Opens a block in a column, if it is indented further than the innermost one. -/
def roll (s : Scanner) (column number : Nat) (t : Token) : Scanner :=
  if !s.inFlow && s.level ≤ column then
    { s with level := column + 1, outer := s.level :: s.outer }.emitAt number t
  else s

def levelsAbove (bound : Nat) : Nat → List Nat → Nat × Nat × List Nat
  | level, [] => (0, level, [])
  | level, next :: outer =>
    if bound < level then
      let (n, found) := levelsAbove bound next outer
      (n + 1, found)
    else (0, level, next :: outer)

def unroll (s : Scanner) (bound : Nat) : Scanner :=
  if s.inFlow then s
  else
    let (n, level, outer) := levelsAbove bound s.level s.outer
    { s with level := level, outer := outer, tokens := s.tokens ++ List.replicate n .blockEnd }

/-- Blanks, comments and breaks at the cursor, and on each line a mark of the byte order before
them. In a block, a key may begin on each new line, and tabs are no blanks where it may. -/
def skipGap (inFlow : Bool) : Nat → Bool → Cursor → Bool × Cursor
  | 0, mayBeKey, c => (mayBeKey, c)
  | fuel + 1, mayBeKey, c =>
    let c := c.skipOrderMark.skipWhile fun x => x == ' ' || ((inFlow || !mayBeKey) && x == '\t')
    let c := if c.rest.head? = some '#' then c.skipWhile fun x => !isBreak x else c
    match c.lineBreak? with
    | some (_, next) => skipGap inFlow fuel (mayBeKey || !inFlow) next
    | none => (mayBeKey, c)

/-- Goes on to the next token: keys expire, and blocks that are indented further are closed. -/
def toToken? (s : Scanner) : Option Scanner := do
  let (mayBeKey, c) := skipGap s.inFlow (s.cursor.rest.length + 1) s.mayBeKey s.cursor
  let key ← PendingKey.expire? c s.key
  let flow ← s.flow.mapM (PendingKey.expire? c)
  let s := { s with cursor := c, mayBeKey := mayBeKey, key := key, flow := flow }
  return s.unroll (c.column + 1)

/-! ## Single tokens -/

def directive? (s : Scanner) : Option Scanner := do
  let s ← (s.unroll 0).dropKey?
  let (token, c) ← Yaml.directive? (s.cursor.skip 1)
  return { s with cursor := c, mayBeKey := false }.emit token

def documentMark? (s : Scanner) : Option Scanner := do
  let s ← (s.unroll 0).dropKey?
  let token := if s.cursor.rest.head? == some '-' then Token.documentStart else .documentEnd
  return { s with mayBeKey := false }.pass 3 token

def openFlow? (s : Scanner) (t : Token) : Option Scanner := do
  let s ← s.saveKey?
  return { s with flow := s.key :: s.flow, key := none, mayBeKey := true }.pass 1 t

def closeFlow? (s : Scanner) (t : Token) : Option Scanner := do
  let s ← s.dropKey?
  let s := match s.flow with
    | [] => s
    | key :: flow => { s with key := key, flow := flow }
  return { s with mayBeKey := false }.pass 1 t

def flowEntry? (s : Scanner) : Option Scanner := do
  let s ← s.dropKey?
  return { s with mayBeKey := true }.pass 1 .flowEntry

def openBlock? (s : Scanner) (t : Token) : Option Scanner :=
  if s.inFlow then some s
  else if s.mayBeKey then some (s.roll s.cursor.column s.tokens.length t)
  else none

def blockEntry? (s : Scanner) : Option Scanner := do
  let s ← s.openBlock? .blockSequence
  let s ← s.dropKey?
  return { s with mayBeKey := true }.pass 1 .blockEntry

def keyMark? (s : Scanner) : Option Scanner := do
  let s ← s.openBlock? .blockMapping
  let s ← s.dropKey?
  return { s with mayBeKey := !s.inFlow }.pass 1 .key

/-- A colon makes what may have begun before it a key, or it stands alone. -/
def valueMark? (s : Scanner) : Option Scanner :=
  match s.key with
  | some k =>
    let s := (s.emitAt k.number .key).roll k.column k.number .blockMapping
    some ({ s with key := none, mayBeKey := false }.pass 1 .value)
  | none => do
    let s ← s.openBlock? .blockMapping
    return { s with mayBeKey := !s.inFlow }.pass 1 .value

def reference? (s : Scanner) (make : String → Token) : Option Scanner := do
  let s ← s.saveKey?
  let (name, c) ← anchorName? (s.cursor.skip 1)
  return { s with cursor := c, mayBeKey := false }.emit (make name)

def tag? (s : Scanner) : Option Scanner := do
  let s ← s.saveKey?
  let (token, c) ← tagAt? s.inFlow s.cursor
  return { s with cursor := c, mayBeKey := false }.emit token

def block? (s : Scanner) (literal : Bool) : Option Scanner := do
  let s ← s.dropKey?
  let (text, c) ← scanBlock literal s.level (s.cursor.skip 1)
  let style := if literal then ScalarStyle.literal else .folded
  return { s with cursor := c, mayBeKey := true }.emit (.scalar style (String.ofList text))

def quoted? (s : Scanner) (single : Bool) : Option Scanner := do
  let s ← s.saveKey?
  let (text, c) ← scanQuoted single (s.cursor.rest.length + 1) (s.cursor.skip 1)
  return { s with cursor := c, mayBeKey := false }.emit (.scalar .quoted (String.ofList text))

def plain? (s : Scanner) : Option Scanner := do
  let s ← s.saveKey?
  let (text, broken, c) ← scanPlain s.inFlow s.level (s.cursor.rest.length + 1) {} false s.cursor
  return { s with cursor := c, mayBeKey := broken }.emit (.scalar .plain (String.ofList text))

def token? (s : Scanner) (x : Char) (rest : List Char) : Option Scanner :=
  if s.cursor.column == 0 && x == '%' then s.directive?
  else if s.cursor.atDocumentMark then s.documentMark?
  else if x == '[' then s.openFlow? .flowSequence
  else if x == '\x7b' then s.openFlow? .flowMapping
  else if x == ']' then s.closeFlow? .flowSequenceEnd
  else if x == '\x7d' then s.closeFlow? .flowMappingEnd
  else if x == ',' then s.flowEntry?
  else if x == '-' && atBlankOrEnd rest then s.blockEntry?
  else if x == '?' && (s.inFlow || atBlankOrEnd rest) then s.keyMark?
  else if x == ':' && (s.inFlow || atBlankOrEnd rest) then s.valueMark?
  else if x == '*' then s.reference? .alias
  else if x == '&' then s.reference? .anchor
  else if x == '!' then s.tag?
  else if (x == '|' || x == '>') && !s.inFlow then s.block? (x == '|')
  else if x == '\'' || x == '"' then s.quoted? (x == '\'')
  else if startsPlain s.inFlow (x :: rest) then s.plain?
  else none

def run? : Nat → Scanner → Option (List Token)
  | 0, _ => none
  | fuel + 1, s =>
    match s.toToken? with
    | none => none
    | some s =>
      match s.cursor.rest with
      | [] => (s.unroll 0).dropKey?.map (·.tokens)
      | x :: rest => (s.token? x rest).bind (run? fuel)

end Scanner

def tokens? (text : String) : Option (List Token) :=
  let cs := text.toList
  if cs.all isPermitted then Scanner.run? (cs.length + 1) { cursor := { rest := cs } } else none

end RequestRouting.Yaml
