/-!
# Regular expressions

The form of a regular expression, and which ones can be used: those that nest at most 250 deep, that
match whole characters only, and that do not ask whether a position is at the edge of a word of some
script. What an expression matches is not modelled.
-/

set_option autoImplicit false

namespace RequestRouting

namespace Regex

inductive Flag where
  | ignoreCase
  | multiLine
  | dotAll
  | swapGreed
  | unicode
  | carriageReturns
  | spaced
  deriving DecidableEq

abbrev Setting := List (Flag × Bool)

def Setting.apply (s : Setting) (flag : Flag) (before : Bool) : Bool :=
  (s.lookup flag).getD before

structure Literal where
  char : Char
  isOctet : Bool := false

def isAscii (c : Char) : Bool := c.toNat < 0x80

/-- A set of characters. A family is one of the classes of digits, spaces and words. -/
inductive CharSet where
  | literal (l : Literal)
  | range (first last : Literal)
  | family (negated : Bool)
  | property
  | named (negated : Bool)
  | brackets (negated : Bool) (set : CharSet)
  | union (sets : List CharSet)
  | combined (left right : CharSet)

namespace CharSet

def ofList : List CharSet → CharSet
  | [s] => s
  | sets => .union sets

mutual

def depth : CharSet → Nat
  | .brackets _ s => s.depth + 1
  | .union [] => 0
  | .union (s :: rest) => max s.depth (depthOfList rest) + 1
  | .combined a b => max a.depth b.depth + 1
  | _ => 0

def depthOfList : List CharSet → Nat
  | [] => 0
  | s :: rest => max s.depth (depthOfList rest)

end

mutual

def isPlain : CharSet → Bool
  | .literal l => isAscii l.char
  | .range a b => isAscii a.char && isAscii b.char
  | .family negated => !negated
  | .property => false
  | .named negated => !negated
  | .brackets negated s => !negated && s.isPlain
  | .union sets => allPlain sets
  | .combined a b => a.isPlain && b.isPlain

def allPlain : List CharSet → Bool
  | [] => true
  | s :: rest => s.isPlain && allPlain rest

end

end CharSet

end Regex

/-- A regular expression. An edge is that of a line or of the text. -/
inductive Regex where
  | literal (l : Regex.Literal)
  | any
  | edge
  | wordEdge
  | set (s : Regex.CharSet)
  | flags (s : Regex.Setting)
  | repeated (r : Regex)
  | group (s : Regex.Setting) (r : Regex)
  | sequence (rs : List Regex)
  | choice (rs : List Regex)

namespace Regex

def ofList : List Regex → Regex
  | [r] => r
  | rs => .sequence rs

def ofBranches : List Regex → Regex
  | [r] => r
  | rs => .choice rs

mutual

def depth : Regex → Nat
  | .set s => s.depth
  | .repeated r | .group _ r => r.depth + 1
  | .sequence [] => 0
  | .sequence (r :: rest) => max r.depth (depthOfList rest) + 1
  | .choice rs => depthOfList rs + 1
  | _ => 0

def depthOfList : List Regex → Nat
  | [] => 0
  | r :: rest => max r.depth (depthOfList rest)

end

mutual

/-- Whether the Unicode mode holds behind an expression, if the expression can be used where it
holds or does not. Without it nothing may match a part of a character, and with it the edges of
words are unknown. -/
def admit? (unicode : Bool) : Regex → Option Bool
  | .literal l => if unicode || !l.isOctet || isAscii l.char then some unicode else none
  | .any => if unicode then some unicode else none
  | .edge => some unicode
  | .wordEdge => if unicode then none else some unicode
  | .set s => if unicode || s.isPlain then some unicode else none
  | .flags s => some (s.apply .unicode unicode)
  | .repeated r => admit? unicode r
  | .group s r => (admit? (s.apply .unicode unicode) r).map fun _ => unicode
  | .sequence rs | .choice rs => admitList? unicode rs

def admitList? (unicode : Bool) : List Regex → Option Bool
  | [] => some unicode
  | r :: rest =>
    match admit? unicode r with
    | none => none
    | some after => admitList? after rest

end

def maxDepth : Nat := 250

def isUsable (r : Regex) : Bool := r.depth ≤ maxDepth && (r.admit? true).isSome

end Regex

end RequestRouting
