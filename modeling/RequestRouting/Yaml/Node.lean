import RequestRouting.Yaml.Token

/-!
# YAML documents

`Node.ofTokens?` puts the tokens of a text together to its one document. Anchors are numbered: a
name that is used again takes a new number, and an alias stands for the number that its name has at
that place.
-/

set_option autoImplicit false

namespace RequestRouting.Yaml

inductive Node where
  | scalar (style : ScalarStyle) (tag : Option String) (text : String)
  | sequence (items : List Node)
  | mapping (entries : List (Node × Node))
  | alias (id : Nat)
  | anchored (id : Nat) (node : Node)

abbrev Handles := List (String × String)

def standardHandles : Handles := [("!", "!"), ("!!", "tag:yaml.org,2002:")]

structure Rest where
  tokens : List Token
  anchors : List (String × Nat) := []

structure Properties where
  anchor : Option Nat := none
  tag : Option String := none

namespace Rest

def register (r : Rest) (name : String) : Nat × Rest :=
  let id := r.anchors.length
  if r.anchors.any (·.1 == name) then
    (id, { r with anchors := r.anchors.map fun a => if a.1 == name then (name, id) else a })
  else (id, { r with anchors := r.anchors ++ [(name, id)] })

def tagText? (handles : Handles) (handle suffix : String) : Option String :=
  if handle.isEmpty then some suffix else (handles.lookup handle).map (· ++ suffix)

def properties? (handles : Handles) (r : Rest) : Option (Properties × Rest) :=
  match r.tokens with
  | .anchor name :: .tag handle suffix :: rest | .tag handle suffix :: .anchor name :: rest => do
    let tag ← tagText? handles handle suffix
    let (id, r) := { r with tokens := rest }.register name
    return ({ anchor := some id, tag := some tag }, r)
  | .anchor name :: rest =>
    let (id, r) := { r with tokens := rest }.register name
    some ({ anchor := some id }, r)
  | .tag handle suffix :: rest => do
    let tag ← tagText? handles handle suffix
    return ({ tag := some tag }, { r with tokens := rest })
  | _ => some ({}, r)

def drop (r : Rest) : Rest := { r with tokens := r.tokens.drop 1 }

def startsWith (r : Rest) (ts : List Token) : Bool := r.tokens.head?.any ts.contains

end Rest

namespace Node

def empty : Node := .scalar .plain none ""

def withAnchor (id : Option Nat) (n : Node) : Node :=
  match id with
  | none => n
  | some id => .anchored id n

mutual

/-- A node. Blocks are taken where `block` says so, and a sequence whose entries are not indented
where `indentless` says so. -/
def read? (handles : Handles) (block indentless : Bool) : Nat → Rest → Option (Node × Rest)
  | 0, _ => none
  | fuel + 1, r =>
    match r.tokens with
    | .alias name :: _ => (r.anchors.lookup name).map fun id => (.alias id, r.drop)
    | _ =>
      match r.properties? handles with
      | none => none
      | some (p, r) =>
        (readContent? handles block indentless p fuel r).map fun (n, r) =>
          (n.withAnchor p.anchor, r)

/-- The content of a node behind its properties. A written scalar with the bare tag has none. -/
def readContent? (handles : Handles) (block indentless : Bool) (p : Properties) :
    Nat → Rest → Option (Node × Rest)
  | 0, _ => none
  | fuel + 1, r =>
    match r.tokens with
    | .scalar style text :: _ =>
      some (.scalar style (p.tag.filter (· != "!")) text, r.drop)
    | .flowSequence :: _ =>
      (readFlowItems? handles true fuel r.drop).map fun (l, r) => (.sequence l, r)
    | .flowMapping :: _ =>
      (readFlowEntries? handles true fuel r.drop).map fun (l, r) => (.mapping l, r)
    | t :: _ =>
      if indentless && t == .blockEntry then
        (readIndentless? handles fuel r).map fun (l, r) => (.sequence l, r)
      else if block && t == .blockSequence then
        (readItems? handles fuel r.drop).map fun (l, r) => (.sequence l, r)
      else if block && t == .blockMapping then
        (readEntries? handles fuel r.drop).map fun (l, r) => (.mapping l, r)
      else if p.anchor.isSome || p.tag.isSome then some (.scalar .plain p.tag "", r)
      else none
    | [] => if p.anchor.isSome || p.tag.isSome then some (.scalar .plain p.tag "", r) else none

def readUnless? (handles : Handles) (block indentless : Bool) (ends : List Token) :
    Nat → Rest → Option (Node × Rest)
  | 0, _ => none
  | fuel + 1, r =>
    if r.startsWith ends then some (empty, r) else read? handles block indentless fuel r

def readItems? (handles : Handles) : Nat → Rest → Option (List Node × Rest)
  | 0, _ => none
  | fuel + 1, r =>
    match r.tokens with
    | .blockEntry :: _ =>
      match readUnless? handles true false [.blockEntry, .blockEnd] fuel r.drop with
      | none => none
      | some (n, r) => (readItems? handles fuel r).map fun (l, r) => (n :: l, r)
    | .blockEnd :: _ => some ([], r.drop)
    | _ => none

/-- The items of a sequence that is not indented; it ends where there is no further entry. -/
def readIndentless? (handles : Handles) : Nat → Rest → Option (List Node × Rest)
  | 0, _ => none
  | fuel + 1, r =>
    match r.tokens with
    | .blockEntry :: _ =>
      match readUnless? handles true false [.blockEntry, .key, .value, .blockEnd] fuel r.drop with
      | none => none
      | some (n, r) => (readIndentless? handles fuel r).map fun (l, r) => (n :: l, r)
    | _ => some ([], r)

def readEntries? (handles : Handles) : Nat → Rest → Option (List (Node × Node) × Rest)
  | 0, _ => none
  | fuel + 1, r =>
    match r.tokens with
    | .key :: _ =>
      match readUnless? handles true true [.key, .value, .blockEnd] fuel r.drop with
      | none => none
      | some (k, r) =>
        match readValue? handles true [.key, .value, .blockEnd] fuel r with
        | none => none
        | some (v, r) => (readEntries? handles fuel r).map fun (l, r) => ((k, v) :: l, r)
    | .blockEnd :: _ => some ([], r.drop)
    | _ => none

def readValue? (handles : Handles) (block : Bool) (ends : List Token) :
    Nat → Rest → Option (Node × Rest)
  | 0, _ => none
  | fuel + 1, r =>
    match r.tokens with
    | .value :: _ => readUnless? handles block block ends fuel r.drop
    | _ => some (empty, r)

/-- The items of a sequence in brackets; a comma stands before each but the first. An item may be a
single entry of a mapping. -/
def readFlowItems? (handles : Handles) (first : Bool) : Nat → Rest → Option (List Node × Rest)
  | 0, _ => none
  | fuel + 1, r =>
    if r.startsWith [.flowSequenceEnd] then some ([], r.drop)
    else if !first && !r.startsWith [.flowEntry] then none
    else
      let r := if first then r else r.drop
      match r.tokens with
      | .flowSequenceEnd :: _ => some ([], r.drop)
      | .key :: _ =>
        match readPair? handles fuel r.drop with
        | none => none
        | some (n, r) => (readFlowItems? handles false fuel r).map fun (l, r) => (n :: l, r)
      | _ =>
        match read? handles false false fuel r with
        | none => none
        | some (n, r) => (readFlowItems? handles false fuel r).map fun (l, r) => (n :: l, r)

def readPair? (handles : Handles) : Nat → Rest → Option (Node × Rest)
  | 0, _ => none
  | fuel + 1, r =>
    let ends := [.flowEntry, .flowSequenceEnd]
    let key? := if r.startsWith (.value :: ends) then some (empty, r.drop)
      else read? handles false false fuel r
    match key? with
    | none => none
    | some (k, r) =>
      (readValue? handles false ends fuel r).map fun (v, r) => (.mapping [(k, v)], r)

def readFlowEntries? (handles : Handles) (first : Bool) :
    Nat → Rest → Option (List (Node × Node) × Rest)
  | 0, _ => none
  | fuel + 1, r =>
    let ends := [.flowEntry, .flowMappingEnd]
    if r.startsWith [.flowMappingEnd] then some ([], r.drop)
    else if !first && !r.startsWith [.flowEntry] then none
    else
      let r := if first then r else r.drop
      match r.tokens with
      | .flowMappingEnd :: _ => some ([], r.drop)
      | .key :: _ =>
        match readUnless? handles false false (.value :: ends) fuel r.drop with
        | none => none
        | some (k, r) =>
          match readValue? handles false ends fuel r with
          | none => none
          | some (v, r) =>
            (readFlowEntries? handles false fuel r).map fun (l, r) => ((k, v) :: l, r)
      | _ =>
        match read? handles false false fuel r with
        | none => none
        | some (k, r) =>
          (readFlowEntries? handles false fuel r).map fun (l, r) => ((k, empty) :: l, r)

end

def isBoundary : Token → Bool
  | .version .. | .handle .. | .documentStart | .documentEnd => true
  | _ => false

/-- The directives before a document: at most one version, which is known, and no handle twice.
Handles that are not set have their standard meaning. -/
def directives? (seen : Bool) (handles : Handles) : List Token → Option (Handles × List Token)
  | .version major minor :: rest =>
    if !seen && major == 1 && (minor == 1 || minor == 2) then directives? true handles rest
    else none
  | .handle name stem :: rest =>
    if (handles.lookup name).isSome then none
    else directives? seen (handles ++ [(name, stem)]) rest
  | rest => some (handles ++ standardHandles, rest)

def readDocument? (tokens : List Token) : Option (Node × List Token) :=
  let read (handles : Handles) (tokens : List Token) :=
    (read? handles true false (3 * tokens.length + 10) { tokens := tokens }).map fun (n, r) =>
      (n, r.tokens)
  match tokens with
  | [] => some (empty, [])
  | t :: _ =>
    if isBoundary t && t != .documentEnd then
      match directives? false [] tokens with
      | some (handles, .documentStart :: rest) =>
        if rest.head?.all isBoundary then some (empty, rest) else read handles rest
      | _ => none
    else read standardHandles tokens

def ofTokens? (tokens : List Token) : Option Node :=
  match readDocument? tokens with
  | none => none
  | some (n, rest) => if rest.all (· == .documentEnd) then some n else none

def parse? (text : String) : Option Node := (tokens? text).bind ofTokens?

mutual

def anchors : Node → List (Nat × Node)
  | .scalar .. | .alias _ => []
  | .sequence items => anchorsOfItems items
  | .mapping entries => anchorsOfEntries entries
  | .anchored id n => (id, n) :: anchors n

def anchorsOfItems : List Node → List (Nat × Node)
  | [] => []
  | n :: rest => anchors n ++ anchorsOfItems rest

def anchorsOfEntries : List (Node × Node) → List (Nat × Node)
  | [] => []
  | (k, v) :: rest => anchors k ++ anchors v ++ anchorsOfEntries rest

end

def target? (anchors : List (Nat × Node)) (id : Nat) : Option Node := anchors.reverse.lookup id

end Node

end RequestRouting.Yaml
