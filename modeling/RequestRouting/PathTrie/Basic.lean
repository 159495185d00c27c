import RequestRouting.Params
import RequestRouting.Pattern

/-!
# Tries of route patterns

A tree whose edges are the raw parts of the patterns inserted, each node numbered by the order of
its creation. `search` follows a path: at every node the children are tried in the order of their
creation, and the first that leads to a match wins.
-/

set_option autoImplicit false

namespace RequestRouting

inductive NodeKind where
  | root
  | literal
  | param
  | catchAll
  deriving DecidableEq

structure ParamSlot where
  name : String
  position : Nat
  catchAll : Bool
  deriving DecidableEq

/-- A registered pattern, as it was last written, and its value. -/
structure Terminal (α : Type) where
  pattern : String
  value : α

structure PathNode (α : Type) where
  id : Nat
  segment : String
  kind : NodeKind
  slots : List ParamSlot
  terminal : Option (Terminal α)
  children : List (PathNode α)

namespace NodeKind

def ofSegment : Segment → NodeKind
  | .literal _ => .literal
  | .param _ => .param
  | .catchAll _ => .catchAll

def isParametric : NodeKind → Bool
  | .param => true
  | .catchAll => true
  | _ => false

end NodeKind

namespace ParamSlot

def ofParts (position : Nat) : List PatternPart → List ParamSlot
  | [] => []
  | p :: rest =>
    match p.segment.paramName with
    | some name => ⟨name, position, p.segment.isCatchAll⟩ :: ofParts (position + 1) rest
    | none => ofParts (position + 1) rest

/-- The part at the slot's position, or for a catch-all that part and all behind it. -/
def value (parts : List String) (slot : ParamSlot) : String :=
  if slot.catchAll then Text.joinWith "/" (parts.drop slot.position)
  else (parts[slot.position]?).getD ""

end ParamSlot

namespace PathNode

variable {α : Type}

def child? (n : PathNode α) (raw : String) : Option (PathNode α) :=
  n.children.find? fun c => c.segment == raw

def catchAllChild? (n : PathNode α) : Option (PathNode α) :=
  n.children.find? fun c => c.kind == .catchAll

def fresh (id : Nat) (part : PatternPart) : PathNode α :=
  ⟨id, part.raw, .ofSegment part.segment, [], none, []⟩

def descend? : List PatternPart → PathNode α → Option (PathNode α)
  | [], n => some n
  | p :: rest, n => (n.child? p.raw).bind (descend? rest)

/-- The catch-all that stands in the way of the parts: their last part is a catch-all, and at its
place there is one that is written otherwise. -/
def clash? : List PatternPart → PathNode α → Option (PatternPart × String)
  | [], _ => none
  | p :: rest, n =>
    match n.child? p.raw with
    | some c => clash? rest c
    | none =>
      if p.segment.isCatchAll then n.catchAllChild?.map fun c => (p, c.segment) else none

def missing : List PatternPart → PathNode α → Nat
  | [], _ => 0
  | p :: rest, n =>
    match n.child? p.raw with
    | some c => missing rest c
    | none => rest.length + 1

/-- The tree with the terminal at the end of the parts. New nodes are numbered from `next` on and
take over the slots; the last node gets them in any case. -/
def graft (slots : List ParamSlot) (terminal : Terminal α) :
    List PatternPart → Nat → PathNode α → PathNode α
  | [], _, n => { n with slots := slots, terminal := some terminal }
  | p :: rest, next, n =>
    if (n.child? p.raw).isSome then
      { n with children := n.children.map fun c =>
          if c.segment == p.raw then graft slots terminal rest next c else c }
    else
      let new : PathNode α := { fresh next p with slots := slots }
      { n with children := n.children ++ [graft slots terminal rest (next + 1) new] }

/-- The terminal node that the parts of a path lead to. A catch-all takes all parts that are left,
at least one. -/
def walk : List String → PathNode α → Option (PathNode α)
  | [], n => if n.terminal.isSome then some n else none
  | p :: rest, n => n.children.findSome? fun c =>
    match c.kind with
    | .catchAll => if c.terminal.isSome then some c else none
    | .param => walk rest c
    | .literal => if c.segment == p then walk rest c else none
    | .root => none

mutual

def preorder : PathNode α → List (PathNode α)
  | ⟨id, segment, kind, slots, terminal, children⟩ =>
    ⟨id, segment, kind, slots, terminal, children⟩ :: preorderList children

def preorderList : List (PathNode α) → List (PathNode α)
  | [] => []
  | n :: rest => preorder n ++ preorderList rest

end

end PathNode

structure PathTrie (α : Type) where
  root : PathNode α
  nodeCount : Nat
  size : Nat

structure PathMatch (α : Type) where
  node : Nat
  pattern : String
  value : α
  params : Params

namespace PathTrie

variable {α : Type}

def empty : PathTrie α := ⟨⟨0, "", .root, [], none, []⟩, 1, 0⟩

def insert (t : PathTrie α) (pattern : String) (value : α) :
    Except PatternError (Option α) × PathTrie α :=
  match Pattern.parse pattern with
  | .error e => (.error e, t)
  | .ok parts =>
    match t.root.clash? parts with
    | some (part, existing) =>
      (.error ⟨pattern, .conflictingCatchAll part.raw existing⟩, t)
    | none =>
      let previous := (t.root.descend? parts).bind (·.terminal)
      let root := t.root.graft (ParamSlot.ofParts 0 parts) ⟨pattern, value⟩ parts t.nodeCount
      (.ok (previous.map (·.value)),
        ⟨root, t.nodeCount + t.root.missing parts, if previous.isSome then t.size else t.size + 1⟩)

def search (t : PathTrie α) (path : String) : Option (PathMatch α) :=
  let parts := pathParts path
  match t.root.walk parts with
  | none => none
  | some n => n.terminal.map fun terminal =>
      ⟨n.id, terminal.pattern, terminal.value, ⟨n.slots.map fun s => (s.name, s.value parts)⟩⟩

def get? (t : PathTrie α) (pattern : String) : Option α :=
  match Pattern.parse pattern with
  | .error _ => none
  | .ok parts => ((t.root.descend? parts).bind (·.terminal)).map (·.value)

def patterns (t : PathTrie α) : List String :=
  t.root.preorder.filterMap fun n => n.terminal.map (·.pattern)

def node? (t : PathTrie α) (id : Nat) : Option (PathNode α) :=
  t.root.preorder.find? fun n => n.id == id

def nodes (t : PathTrie α) : List (PathNode α) :=
  (List.range t.nodeCount).filterMap t.node?

end PathTrie

end RequestRouting
