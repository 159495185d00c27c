import RequestRouting.Binary64.Basic
import RequestRouting.Text.Numeral
import RequestRouting.Toml.Value

/-!
# TOML scalars

Texts in four kinds of quotes, and the words that stand for numbers, truth values and dates.
-/

set_option autoImplicit false

namespace RequestRouting.Toml

def isBlank (c : Char) : Bool := c == ' ' || c == '\t'

def isPlain (c : Char) : Bool := c == '\t' || (0x20 ≤ c.toNat && c.toNat != 0x7F)

def lineBreak? : List Char → Option (List Char)
  | '\n' :: rest => some rest
  | '\r' :: '\n' :: rest => some rest
  | _ => none

/-! ## Texts -/

def hexEscape? (n : Nat) (cs : List Char) : Option (Char × List Char) :=
  let digits := cs.take n
  if digits.length < n then none
  else
    match (digits.mapM (Text.digitValue? 16)).map (Text.numeral 16) with
    | none => none
    | some v =>
      if (0xD800 ≤ v ∧ v ≤ 0xDFFF) ∨ 0x10FFFF < v then none else some (Char.ofNat v, cs.drop n)

def escape? : List Char → Option (Char × List Char)
  | 'b' :: rest => some (Char.ofNat 8, rest)
  | 't' :: rest => some ('\t', rest)
  | 'n' :: rest => some ('\n', rest)
  | 'f' :: rest => some (Char.ofNat 12, rest)
  | 'r' :: rest => some ('\r', rest)
  | 'e' :: rest => some (Char.ofNat 27, rest)
  | '"' :: rest => some ('"', rest)
  | '\\' :: rest => some ('\\', rest)
  | 'x' :: rest => hexEscape? 2 rest
  | 'u' :: rest => hexEscape? 4 rest
  | 'U' :: rest => hexEscape? 8 rest
  | _ => none

def skipLines : List Char → List Char
  | ' ' :: rest => skipLines rest
  | '\t' :: rest => skipLines rest
  | '\n' :: rest => skipLines rest
  | '\r' :: '\n' :: rest => skipLines rest
  | rest => rest

/-- Passes blanks and line breaks behind a backslash at the end of a line. -/
def lineEnding? (cs : List Char) : Option (List Char) :=
  (lineBreak? (cs.dropWhile isBlank)).map skipLines

def lineText? (quote : Char) (escapes : Bool) : Nat → List Char → Option (List Char × List Char)
  | 0, _ => none
  | _ + 1, [] => none
  | fuel + 1, c :: rest =>
    if c = quote then some ([], rest)
    else if escapes && c == '\\' then
      match escape? rest with
      | none => none
      | some (e, rest) => (lineText? quote escapes fuel rest).map fun (t, rest) => (e :: t, rest)
    else if isPlain c then (lineText? quote escapes fuel rest).map fun (t, rest) => (c :: t, rest)
    else none

/-- The rest of a text on several lines. Three quotes end it, and up to two more before them belong
to the text. -/
def blockText? (quote : Char) (escapes : Bool) : Nat → List Char → Option (List Char × List Char)
  | 0, _ => none
  | _ + 1, [] => none
  | fuel + 1, c :: rest =>
    if c = quote then
      let quotes := min 5 ((c :: rest).takeWhile (· == quote)).length
      if 3 ≤ quotes then
        some (List.replicate (quotes - 3) quote, (c :: rest).drop quotes)
      else (blockText? quote escapes fuel rest).map fun (t, rest) => (c :: t, rest)
    else if escapes && c == '\\' then
      match escape? rest with
      | some (e, rest) => (blockText? quote escapes fuel rest).map fun (t, rest) => (e :: t, rest)
      | none => (lineEnding? rest).bind (blockText? quote escapes fuel)
    else if c == '\r' then
      if rest.head? = some '\n' then
        (blockText? quote escapes fuel rest).map fun (t, rest) => (c :: t, rest)
      else none
    else if isPlain c || c == '\n' then
      (blockText? quote escapes fuel rest).map fun (t, rest) => (c :: t, rest)
    else none

def text? (quote : Char) (rest : List Char) : Option (String × List Char) :=
  let escapes := quote == '"'
  let found := match rest with
    | a :: b :: more =>
      if a = quote ∧ b = quote then
        let more := (lineBreak? more).getD more
        blockText? quote escapes (more.length + 1) more
      else lineText? quote escapes (rest.length + 1) rest
    | _ => lineText? quote escapes (rest.length + 1) rest
  found.map fun (t, rest) => (String.ofList t, rest)

/-! ## Numbers -/

/-- Digits, with single underscores between them, without the underscores. -/
def digits? (base : Nat) (cs : List Char) : Option (List Nat) :=
  let groups := cs.splitOn '_'
  if groups.any List.isEmpty then none else (groups.flatten).mapM (Text.digitValue? base)

def hasLeadingZero (cs : List Char) : Bool := cs.head? == some '0' && 1 < cs.length

def wholeNumber? (cs : List Char) : Option Nat :=
  if hasLeadingZero cs then none else (digits? 10 cs).map (Text.numeral 10)

def sign : List Char → Bool × List Char
  | '-' :: rest => (true, rest)
  | '+' :: rest => (false, rest)
  | rest => (false, rest)

/-- A number without fraction: with a marker it has no sign and another base. No number has more
than 128 bits. -/
def integer? (cs : List Char) : Option Value :=
  match cs with
  | '0' :: 'x' :: rest => bounded ((digits? 16 rest).map (Text.numeral 16))
  | '0' :: 'o' :: rest => bounded ((digits? 8 rest).map (Text.numeral 8))
  | '0' :: 'b' :: rest => bounded ((digits? 2 rest).map (Text.numeral 2))
  | cs =>
    let (negative, digits) := sign cs
    match wholeNumber? digits with
    | none => none
    | some n =>
      if negative then if n ≤ Nat.pow 2 127 then some (.integer (-(n : Int))) else none
      else bounded (some n)
where
  bounded (n? : Option Nat) : Option Value :=
    (n?.filter (· < Nat.pow 2 128)).map fun n => .integer n

def real? (cs : List Char) : Option Value :=
  let digits := (sign cs).2
  if digits = ['i', 'n', 'f'] ∨ digits = ['n', 'a', 'n'] then some .other
  else
    let (mantissa, exponent) := digits.span fun c => c != 'e' && c != 'E'
    let (whole, fraction) := mantissa.span (· != '.')
    let exponent? := match exponent with
      | [] => some 0
      | _ :: rest =>
        let (negative, digits) := sign rest
        (digits? 10 digits).map fun ds =>
          let n : Int := Text.numeral 10 ds
          if negative then -n else n
    let fraction? := match fraction with
      | [] => some []
      | _ :: rest => digits? 10 rest
    match wholeNumber? whole, fraction?, exponent? with
    | some n, some fs, some e =>
      let significand := n * Nat.pow 10 fs.length + Text.numeral 10 fs
      if exponent = [] ∧ fraction = [] then none
      else (Binary64.ofDecimal? significand (e - fs.length)).map fun _ => .other
    | _, _, _ => none

/-! ## Dates and times -/

def fixed? (n : Nat) (cs : List Char) : Option (Nat × List Char) :=
  if (cs.take n).length < n then none
  else ((cs.take n).mapM (Text.digitValue? 10)).map fun ds => (Text.numeral 10 ds, cs.drop n)

def expect? (c : Char) : List Char → Option (List Char)
  | [] => none
  | d :: rest => if d = c then some rest else none

def daysIn (year month : Nat) : Nat :=
  if month = 2 then
    if year % 4 = 0 ∧ (year % 100 ≠ 0 ∨ year % 400 = 0) then 29 else 28
  else if [4, 6, 9, 11].contains month then 30
  else 31

def date? (cs : List Char) : Option (List Char) := do
  let (year, cs) ← fixed? 4 cs
  let (month, cs) ← fixed? 2 (← expect? '-' cs)
  let (day, cs) ← fixed? 2 (← expect? '-' cs)
  if 1 ≤ month ∧ month ≤ 12 ∧ 1 ≤ day ∧ day ≤ daysIn year month then some cs else none

def secondFraction? : List Char → Option (List Char)
  | '.' :: rest =>
    if (rest.takeWhile Char.isDigit).isEmpty then none else some (rest.dropWhile Char.isDigit)
  | cs => some cs

def time? (cs : List Char) : Option (List Char) := do
  let (hour, cs) ← fixed? 2 cs
  let (minute, cs) ← fixed? 2 (← expect? ':' cs)
  if 23 < hour ∨ 59 < minute then none
  else
    match cs with
    | ':' :: rest =>
      let (second, cs) ← fixed? 2 rest
      if 60 < second then none else secondFraction? cs
    | cs => some cs

def offset? : List Char → Option (List Char)
  | 'Z' :: rest | 'z' :: rest => some rest
  | '+' :: rest | '-' :: rest => do
    let (hour, cs) ← fixed? 2 rest
    let (minute, cs) ← fixed? 2 (← expect? ':' cs)
    if 59 < minute ∨ 24 * 60 < hour * 60 + minute then none else some cs
  | cs => some cs

/-- A date, a time, or both, then with an offset if one is given. -/
def moment? (cs : List Char) : Option Value :=
  let rest? := match date? cs with
    | none => time? cs
    | some [] => some []
    | some (c :: rest) =>
      if c = 'T' ∨ c = 't' ∨ c = ' ' then (time? rest).bind offset? else none
  if rest? = some [] then some .other else none

/-! ## Words -/

def isWordChar (c : Char) : Bool :=
  c.isAlphanum || c == '_' || c == '-' || c == '+' || c == '.' || c == ':'

/-- The length of a word. A blank may stand between a date and a time. -/
def wordLength (cs : List Char) : Nat :=
  let n := (cs.takeWhile isWordChar).length
  match cs.drop n with
  | ' ' :: rest =>
    let time := rest.takeWhile isWordChar
    if date? (cs.take n) = some [] ∧ (time.take 2).all Char.isDigit ∧ time[2]? = some ':' then
      n + 1 + time.length
    else n
  | _ => n

def wordValue? (word : List Char) : Option Value :=
  if word = ['t', 'r', 'u', 'e'] then some (.boolean true)
  else if word = ['f', 'a', 'l', 's', 'e'] then some (.boolean false)
  else (integer? word).or ((real? word).or (moment? word))

def word? (cs : List Char) : Option (Value × List Char) :=
  let n := wordLength cs
  (wordValue? (cs.take n)).map fun v => (v, cs.drop n)

end RequestRouting.Toml
