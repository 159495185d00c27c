import RequestRouting.Json.Number
import RequestRouting.Text.Numeral

/-!
# Reading JSON

`parse?` reads a whole text as one value. Containers nest at most 127 deep. The fields of an object
are kept as they are written; `parseValue?` brings them into the order of their names.
-/

set_option autoImplicit false

namespace RequestRouting.Json

def isSpace (c : Char) : Bool := c == ' ' || c == '\t' || c == '\n' || c == '\r'

def skipSpace (cs : List Char) : List Char := cs.dropWhile isSpace

def fourHex? : List Char → Option (Nat × List Char)
  | a :: b :: c :: d :: rest =>
    ([a, b, c, d].mapM (Text.digitValue? 16)).map fun digits => (Text.numeral 16 digits, rest)
  | _ => none

/-- The character after a backslash; the two halves of a surrogate pair belong together. -/
def escape? : List Char → Option (Char × List Char)
  | '"' :: rest => some ('"', rest)
  | '\\' :: rest => some ('\\', rest)
  | '/' :: rest => some ('/', rest)
  | 'b' :: rest => some (Char.ofNat 8, rest)
  | 'f' :: rest => some (Char.ofNat 12, rest)
  | 'n' :: rest => some ('\n', rest)
  | 'r' :: rest => some ('\r', rest)
  | 't' :: rest => some ('\t', rest)
  | 'u' :: rest =>
    match fourHex? rest with
    | none => none
    | some (n, rest) =>
      if 0xDC00 ≤ n ∧ n ≤ 0xDFFF then none
      else if 0xD800 ≤ n ∧ n ≤ 0xDBFF then
        match rest with
        | '\\' :: 'u' :: more =>
          match fourHex? more with
          | some (low, more) =>
            if 0xDC00 ≤ low ∧ low ≤ 0xDFFF then
              some (Char.ofNat (0x10000 + (n - 0xD800) * 0x400 + (low - 0xDC00)), more)
            else none
          | none => none
        | _ => none
      else some (Char.ofNat n, rest)
  | _ => none

/-- The rest of a text in quotes, after the opening quote; `fuel` bounds its length. -/
def stringBody? : Nat → List Char → Option (List Char × List Char)
  | 0, _ => none
  | _ + 1, [] => none
  | fuel + 1, c :: rest =>
    if c = '"' then some ([], rest)
    else if c = '\\' then
      match escape? rest with
      | none => none
      | some (e, rest) => (stringBody? fuel rest).map fun (s, rest) => (e :: s, rest)
    else if c.toNat < 0x20 then none
    else (stringBody? fuel rest).map fun (s, rest) => (c :: s, rest)

def string? (cs : List Char) : Option (String × List Char) :=
  (stringBody? (cs.length + 1) cs).map fun (s, rest) => (String.ofList s, rest)

def itemsWith (value : Nat → List Char → Option (Json × List Char)) (number : Nat) :
    Nat → List Char → Option (List Json × List Char)
  | 0, _ => none
  | fuel + 1, cs =>
    match value number cs with
    | none => none
    | some (v, rest) =>
      match skipSpace rest with
      | ',' :: more =>
        (itemsWith value (number + 1) fuel (skipSpace more)).map fun (vs, rest) => (v :: vs, rest)
      | ']' :: more => some ([v], more)
      | _ => none

def arrayWith (value : Nat → List Char → Option (Json × List Char)) (cs : List Char) :
    Option (Json × List Char) :=
  match skipSpace cs with
  | ']' :: more => some (.array [], more)
  | more => (itemsWith value 0 more.length more).map fun (vs, rest) => (.array vs, rest)

def fieldsWith (value : String → List Char → Option (Json × List Char)) :
    Nat → List Char → Option (List (String × Json) × List Char)
  | 0, _ => none
  | fuel + 1, cs =>
    match cs with
    | '"' :: cs =>
      match string? cs with
      | none => none
      | some (name, rest) =>
        match skipSpace rest with
        | ':' :: rest =>
          match value name (skipSpace rest) with
          | none => none
          | some (v, rest) =>
            match skipSpace rest with
            | ',' :: more =>
              (fieldsWith value fuel (skipSpace more)).map fun (fs, rest) => ((name, v) :: fs, rest)
            | '\x7d' :: more => some ([(name, v)], more)
            | _ => none
        | _ => none
    | _ => none

def objectWith (value : String → List Char → Option (Json × List Char)) (cs : List Char) :
    Option (Json × List Char) :=
  match skipSpace cs with
  | '\x7d' :: more => some (.object [], more)
  | more => (fieldsWith value more.length more).map fun (fs, rest) => (.object fs, rest)

def valueWithin : Nat → List Char → Option (Json × List Char)
  | _, 'n' :: 'u' :: 'l' :: 'l' :: rest => some (.null, rest)
  | _, 't' :: 'r' :: 'u' :: 'e' :: rest => some (.bool true, rest)
  | _, 'f' :: 'a' :: 'l' :: 's' :: 'e' :: rest => some (.bool false, rest)
  | _, '"' :: rest => (string? rest).map fun (s, rest) => (.string s, rest)
  | _, '-' :: rest => number? true rest
  | depth + 1, '[' :: rest => arrayWith (fun _ => valueWithin depth) rest
  | depth + 1, '\x7b' :: rest => objectWith (fun _ => valueWithin depth) rest
  | _, cs => number? false cs

def maxDepth : Nat := 127

def whole? (value : List Char → Option (Json × List Char)) (text : String) : Option Json :=
  match value (skipSpace text.toList) with
  | none => none
  | some (v, rest) => if (skipSpace rest).isEmpty then some v else none

def parse? (text : String) : Option Json := whole? (valueWithin maxDepth) text

/-- The value of a text, the fields of its objects in the order of their names. -/
def parseValue? (text : String) : Option Json := (parse? text).map canonical

end RequestRouting.Json
