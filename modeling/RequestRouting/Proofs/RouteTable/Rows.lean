import Mathlib.Data.List.Basic
import RequestRouting.Proofs.LatestByKey
import RequestRouting.Proofs.PathTrie.Acceptance
import RequestRouting.RouteTable

/-!
# Rows of route tables

A row can be resolved exactly if its method is a token, blanks at its ends apart, and every name in
it has a handler. It is resolved to these handlers, under the method in capitals.
-/

set_option autoImplicit false

namespace RequestRouting

namespace Method

theorem isTokenChar_of_isAlpha {c : Char} (h : c.isAlpha = true) : isTokenChar c = true := by
  have halphanum : c.isAlphanum = true := Bool.or_eq_true_iff.2 (.inl h)
  rw [isTokenChar, halphanum, Bool.true_or]

theorem isTokenChar_of_upper {c : Char} (h : 'A'.val ≤ c.val ∧ c.val ≤ 'Z'.val) :
    isTokenChar c = true := by
  have hupper : c.isUpper = true := decide_eq_true h
  exact isTokenChar_of_isAlpha (Bool.or_eq_true_iff.2 (.inl hupper))

theorem isTokenChar_of_lower {c : Char} (h : 'a'.val ≤ c.val ∧ c.val ≤ 'z'.val) :
    isTokenChar c = true := by
  have hlower : c.isLower = true :=
    Bool.and_eq_true_iff.2 ⟨decide_eq_true h.1, decide_eq_true h.2⟩
  exact isTokenChar_of_isAlpha (Bool.or_eq_true_iff.2 (.inr hlower))

theorem isTokenChar_toUpper (c : Char) : isTokenChar c.toUpper = isTokenChar c := by
  by_cases hlower : 'a'.val ≤ c.val ∧ c.val ≤ 'z'.val
  · have hfirst : 97 ≤ c.val.toNat := UInt32.le_iff_toNat_le.1 hlower.1
    have hlast : c.val.toNat ≤ 122 := UInt32.le_iff_toNat_le.1 hlower.2
    have hshift : ('A'.val - 'a'.val).toNat = 4294967264 := by decide
    have hupper : c.toUpper.val = c.val + ('A'.val - 'a'.val) := by
      delta Char.toUpper
      rw [dif_pos hlower]
    have hcode : c.toUpper.val.toNat = c.val.toNat - 32 := by
      rw [hupper, UInt32.toNat_add, hshift]
      omega
    rw [isTokenChar_of_lower hlower]
    apply isTokenChar_of_upper
    rw [UInt32.le_iff_toNat_le, UInt32.le_iff_toNat_le, hcode]
    change 65 ≤ _ ∧ _ ≤ 90
    omega
  · have hsame : c.toUpper = c := dif_neg hlower
    rw [hsame]

theorem isToken_upper (s : String) : isToken (Text.upper s) = isToken s := by
  simp [isToken, Text.upper, isTokenChar_toUpper, Function.comp_def]

theorem read_ok_iff {s : String} {m : Method} :
    read s = .ok m ↔ m.token = Text.upper (Text.trim s) := by
  unfold read
  constructor
  · intro h
    split at h
    · rename_i found hfound
      cases h
      exact token_of_ofText? hfound
    · cases h
  · intro h
    rw [← h, ofText?_token]

theorem exists_read_iff {s : String} :
    (∃ m, read s = .ok m) ↔ isToken (Text.trim s) = true := by
  rw [← isToken_upper]
  constructor
  · rintro ⟨m, hm⟩
    rw [← read_ok_iff.1 hm]
    exact m.valid
  · intro h
    exact ⟨⟨_, h⟩, read_ok_iff.2 rfl⟩

end Method

theorem HandlerRegistry.get?_isSome_iff (registry : HandlerRegistry) (name : String) :
    (registry.get? name).isSome = true ↔
      registry.contains name = true ∨ registry.fallback.isSome = true := by
  unfold get? contains
  cases registry.handlers.lookup name <;> simp

namespace RouteSpec

def token (s : RouteSpec) : String := Text.upper (Text.trim s.method)

def key (s : RouteSpec) : String × List String := (s.token, pathParts s.path)

def names (s : RouteSpec) : List String := s.middleware ++ [s.handler]

structure Legible (registry : HandlerRegistry) (s : RouteSpec) : Prop where
  method : Method.isToken (Text.trim s.method) = true
  names : ∀ name ∈ s.names, (registry.get? name).isSome = true
  path : ∃ parts, Pattern.parse s.path = .ok parts

/-- The rows differ only in the text of the catch-all that their paths end with. -/
def Rivals (s other : RouteSpec) : Prop :=
  s.token = other.token ∧ Pattern.Rivals (pathParts s.path) (pathParts other.path)

theorem Rivals.symm {s other : RouteSpec} (h : s.Rivals other) : other.Rivals s :=
  ⟨h.1.symm, h.2.symm⟩

end RouteSpec

namespace RouteTable

variable {registry : HandlerRegistry}

theorem mem_referencedNames {t : RouteTable} {name : String} : name ∈ t.referencedNames ↔
    name ∈ t.middleware ∨ ∃ s ∈ t.routes, name ∈ s.names := by
  rw [referencedNames, foldl_distinct, List.mem_eraseDups, List.mem_append, List.mem_flatMap]
  simp [RouteSpec.names]

theorem exists_handlers_iff {names : List String} :
    (∃ handlers : List Handler, names.map registry.get? = handlers.map some) ↔
      ∀ name ∈ names, (registry.get? name).isSome = true := by
  induction names with
  | nil => exact iff_of_true ⟨[], rfl⟩ (fun _ h => absurd h List.not_mem_nil)
  | cons first rest ih =>
    rw [List.forall_mem_cons, ← ih]
    constructor
    · rintro ⟨handlers, h⟩
      cases handlers with
      | nil => cases h
      | cons handler handlers =>
        rw [List.map_cons, List.map_cons, List.cons.injEq] at h
        exact ⟨by rw [h.1]; rfl, handlers, h.2⟩
    · rintro ⟨hfirst, handlers, hrest⟩
      obtain ⟨handler, hhandler⟩ := Option.isSome_iff_exists.1 hfirst
      exact ⟨handler :: handlers, by rw [List.map_cons, List.map_cons, hhandler, hrest]⟩

theorem resolveNames_ok_iff {names : List String} {handlers : List Handler} :
    resolveNames registry names = .ok handlers ↔ names.map registry.get? = handlers.map some := by
  induction names generalizing handlers with
  | nil => cases handlers <;> simp [resolveNames]
  | cons first rest ih =>
    rw [resolveNames, List.map_cons]
    cases hfirst : registry.get? first with
    | none => cases handlers <;> simp
    | some handler =>
      cases hrest : resolveNames registry rest with
      | error name => cases handlers <;> simp [Except.map, ← ih, hrest]
      | ok found =>
        rw [ih.1 hrest, ← List.map_cons, List.map_inj_right fun _ _ => Option.some.inj]
        change Except.ok (handler :: found) = .ok handlers ↔ _
        rw [Except.ok.injEq]

theorem resolveRow_ok_iff {s : RouteSpec} {row : ResolvedRow} :
    resolveRow registry s = .ok row ↔ row.method.token = s.token ∧ row.path = s.path ∧
      s.middleware.map registry.get? = row.middleware.map some ∧
        registry.get? s.handler = some row.handler := by
  rw [RouteSpec.token, ← Method.read_ok_iff, ← resolveNames_ok_iff]
  unfold resolveRow
  cases Method.read s.method with
  | error e => exact iff_of_false nofun nofun
  | ok method =>
    cases resolveNames registry s.middleware with
    | error name => exact iff_of_false nofun nofun
    | ok middleware =>
      cases registry.get? s.handler with
      | none => exact iff_of_false nofun nofun
      | some handler =>
        constructor
        · rintro ⟨⟩
          exact ⟨rfl, rfl, rfl, rfl⟩
        · obtain ⟨_, _, _, _⟩ := row
          rintro ⟨⟨⟩, ⟨⟩, ⟨⟩, ⟨⟩⟩
          rfl

theorem exists_resolveRow_iff (registry : HandlerRegistry) (s : RouteSpec) :
    (∃ row, resolveRow registry s = .ok row) ↔ Method.isToken (Text.trim s.method) = true ∧
      ∀ name ∈ s.names, (registry.get? name).isSome = true := by
  rw [RouteSpec.names, List.forall_mem_append, List.forall_mem_singleton, ← Method.exists_read_iff,
    ← exists_handlers_iff, Option.isSome_iff_exists]
  simp only [resolveRow_ok_iff]
  constructor
  · rintro ⟨row, hmethod, -, hmiddleware, hhandler⟩
    exact ⟨⟨row.method, Method.read_ok_iff.2 hmethod⟩, ⟨row.middleware, hmiddleware⟩,
      row.handler, hhandler⟩
  · rintro ⟨⟨method, hmethod⟩, ⟨middleware, hmiddleware⟩, handler, hhandler⟩
    exact ⟨⟨method, s.path, middleware, handler⟩, Method.read_ok_iff.1 hmethod, rfl, hmiddleware,
      hhandler⟩

end RouteTable

end RequestRouting
