import RequestRouting.Json.Number

/-!
# Writing JSON

`compact` writes a value without blanks, and `pretty` on indented lines.
-/

set_option autoImplicit false

namespace RequestRouting.Json

def hexDigit (n : Nat) : Char :=
  if n < 10 then Char.ofNat (0x30 + n) else Char.ofNat (0x61 + (n - 10))

def escapeChar (c : Char) : List Char :=
  if c = '"' then ['\\', '"']
  else if c = '\\' then ['\\', '\\']
  else if c = '\n' then ['\\', 'n']
  else if c = '\r' then ['\\', 'r']
  else if c = '\t' then ['\\', 't']
  else if c.toNat = 8 then ['\\', 'b']
  else if c.toNat = 12 then ['\\', 'f']
  else if c.toNat < 0x20 then
    ['\\', 'u', '0', '0', hexDigit (c.toNat / 16), hexDigit (c.toNat % 16)]
  else [c]

def quote (s : String) : String :=
  String.ofList ('"' :: (s.toList.flatMap escapeChar ++ ['"']))

mutual

def compact : Json → String
  | .null => "null"
  | .bool true => "true"
  | .bool false => "false"
  | .int n => toString n
  | .real negative x => realText negative x
  | .string s => quote s
  | .array items => "[" ++ compactItems items ++ "]"
  | .object fields => "\x7b" ++ compactFields fields ++ "\x7d"

def compactItems : List Json → String
  | [] => ""
  | [v] => compact v
  | v :: w :: rest => compact v ++ "," ++ compactItems (w :: rest)

def compactFields : List (String × Json) → String
  | [] => ""
  | [(n, v)] => quote n ++ ":" ++ compact v
  | (n, v) :: f :: rest => quote n ++ ":" ++ compact v ++ "," ++ compactFields (f :: rest)

end

def newline (depth : Nat) : String := String.ofList ('\n' :: List.replicate (2 * depth) ' ')

mutual

/-- The value on lines of its own, `depth` levels in; an empty container stays on one line. -/
def prettyAt (depth : Nat) : Json → String
  | .array [] => "[]"
  | .array (v :: rest) =>
    "[" ++ prettyItems (depth + 1) (v :: rest) ++ newline depth ++ "]"
  | .object [] => "\x7b\x7d"
  | .object (f :: rest) =>
    "\x7b" ++ prettyFields (depth + 1) (f :: rest) ++ newline depth ++ "\x7d"
  | .null => "null"
  | .bool b => if b then "true" else "false"
  | .int n => toString n
  | .real negative x => realText negative x
  | .string s => quote s

def prettyItems (depth : Nat) : List Json → String
  | [] => ""
  | [v] => newline depth ++ prettyAt depth v
  | v :: w :: rest =>
    newline depth ++ prettyAt depth v ++ "," ++ prettyItems depth (w :: rest)

def prettyFields (depth : Nat) : List (String × Json) → String
  | [] => ""
  | [(n, v)] => newline depth ++ quote n ++ ": " ++ prettyAt depth v
  | (n, v) :: f :: rest =>
    newline depth ++ quote n ++ ": " ++ prettyAt depth v ++ "," ++ prettyFields depth (f :: rest)

end

def pretty (v : Json) : String := prettyAt 0 v

end RequestRouting.Json
