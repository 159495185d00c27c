/-!
# Positions in a YAML text

The classes of characters that the tokens are made of, and a cursor that knows the line and the
column of the text that is left.
-/

set_option autoImplicit false

namespace RequestRouting.Yaml

def isBreak (c : Char) : Bool :=
  c == '\n' || c == '\r' || c.toNat == 0x85 || c.toNat == 0x2028 || c.toNat == 0x2029

def isBlank (c : Char) : Bool := c == ' ' || c == '\t'

def atBlankOrEnd : List Char → Bool
  | [] => true
  | c :: _ => isBlank c || isBreak c

def isWord (c : Char) : Bool := c.isAlphanum || c == '_' || c == '-'

def isPermitted (c : Char) : Bool :=
  let n := c.toNat
  n == 0x09 || n == 0x0A || n == 0x0D || (0x20 ≤ n && n ≤ 0x7E) || n == 0x85 ||
    (0xA0 ≤ n && n ≤ 0xFFFD) || 0x10000 ≤ n

/-- What is left of a text, and where it begins: after how many octets, in which line, and in which
column of characters. -/
structure Cursor where
  rest : List Char
  offset : Nat := 0
  line : Nat := 0
  column : Nat := 0

def octetLength (cs : List Char) : Nat := cs.foldl (fun n c => n + c.utf8Size) 0

namespace Cursor

def skip (c : Cursor) (n : Nat) : Cursor :=
  { c with
    rest := c.rest.drop n
    offset := c.offset + octetLength (c.rest.take n)
    column := c.column + n }

def skipWhile (p : Char → Bool) (c : Cursor) : Cursor := c.skip (c.rest.takeWhile p).length

/-- The break at the cursor as it is kept, and the cursor on the next line. A carriage return and
a line feed count as one break; the separators are kept, all other breaks become line feeds. -/
def lineBreak? (c : Cursor) : Option (Char × Cursor) :=
  match c.rest with
  | '\r' :: '\n' :: rest => some ('\n', ⟨rest, c.offset + 2, c.line + 1, 0⟩)
  | b :: rest =>
    if isBreak b then
      let next : Cursor := ⟨rest, c.offset + b.utf8Size, c.line + 1, 0⟩
      some (if b.toNat < 0x2000 then '\n' else b, next)
    else none
  | [] => none

/-- Goes on over a mark of the byte order in the first column. The mark takes a column itself. -/
def skipOrderMark (c : Cursor) : Cursor :=
  if c.column == 0 && c.rest.head? == some (Char.ofNat 0xFEFF) then c.skip 1 else c

def atDocumentMark (c : Cursor) : Bool :=
  c.column == 0 &&
    match c.rest with
    | '-' :: '-' :: '-' :: rest => atBlankOrEnd rest
    | '.' :: '.' :: '.' :: rest => atBlankOrEnd rest
    | _ => false

def endOfLine? (c : Cursor) : Option Cursor :=
  let c := c.skipWhile isBlank
  let c := if c.rest.head? = some '#' then c.skipWhile fun x => !isBreak x else c
  match c.rest with
  | [] => some c
  | _ => c.lineBreak?.map (·.2)

end Cursor

end RequestRouting.Yaml
