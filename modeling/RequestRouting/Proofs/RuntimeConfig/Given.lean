import RequestRouting.Json.Printer
import RequestRouting.Proofs.Json.Entry
import RequestRouting.Proofs.Yaml.Entry
import RequestRouting.RuntimeConfig.File

/-!
# What configuration files give

A document may leave out any setting, and what it leaves out has its default. Which settings a file
gives is read apart from what becomes of them.
-/

set_option autoImplicit false

namespace RequestRouting

namespace Document

theorem load_eq_map {α β : Type} {s : Schema α} {t : Schema β} (f : β → α)
    (hshape : s.shape = t.shape)
    (hread : ∀ {ν : Type} (r : Reader ν) (v : ν), s.read r v = (t.read r v).map f)
    (files : FileSystem) (name : String) : load files s name = (load files t name).map f := by
  have hformat : ∀ (format : Format) (text : String),
      format.read s text = (format.read t text).map f := by
    intro format text
    cases format with
    | yaml =>
      dsimp only [Format.read]
      cases Yaml.Node.parse? text with
      | none => rfl
      | some d =>
        dsimp only [Option.bind_some]
        rw [hshape]
        split
        · rfl
        · exact hread _ _
    | toml =>
      dsimp only [Format.read]
      cases Toml.parse? text with
      | none => rfl
      | some d => exact hread _ _
    | json =>
      dsimp only [Format.read]
      rw [hshape]
      cases Json.select? t.shape text with
      | none => rfl
      | some d => exact hread _ _
  rw [load, load]
  cases readText files name with
  | error fault => rfl
  | ok text =>
    dsimp only
    cases Format.ofExtension? (extension name) with
    | none => rfl
    | some format =>
      dsimp only
      rw [hformat]
      cases format.read t text <;> rfl

end Document

namespace RuntimeConfig

open Document (FileSystem Format LoadError Reader Schema)

/-- The settings that a document gives, each as it gives it. -/
structure Given where
  requestTimeout : Option (Option Nat) := none
  slowMatchThreshold : Option Nat := none
  headFallback : Option Bool := none
  logRoutes : Option Bool := none
  deriving DecidableEq

def Given.config (g : Given) : RuntimeConfig where
  requestTimeout := g.requestTimeout.getD none
  slowMatchThreshold := g.slowMatchThreshold.getD 1000
  headFallback := g.headFallback.getD true
  logRoutes := g.logRoutes.getD false

def Given.ofDocument {ν : Type} (r : Reader ν) (v : ν) : Option Given := do
  let field ← r.record? fields v
  let requestTimeout ← (field "request_timeout_ms").mapM (readLimit r)
  let slowMatchThreshold ← (field "slow_match_threshold_us").mapM r.natural?
  let headFallback ← (field "head_fallback").mapM r.boolean?
  let logRoutes ← (field "log_routes").mapM r.boolean?
  return { requestTimeout, slowMatchThreshold, headFallback, logRoutes }

def given : Schema Given := ⟨.record fields, Given.ofDocument⟩

theorem optional_eq_mapM {ν α : Type} (default : α) (read : ν → Option α) (field : Option ν) :
    Document.optional default read field = (field.mapM read).map (·.getD default) := by
  cases field with
  | none => rfl
  | some v =>
    rw [Document.optional]
    cases hread : read v <;> simp [hread]

theorem ofDocument_eq {ν : Type} (r : Reader ν) (v : ν) :
    ofDocument r v = (Given.ofDocument r v).map Given.config := by
  simp only [ofDocument, Given.ofDocument, optional_eq_mapM, Option.bind_eq_bind,
    Option.map_bind, Option.bind_map, Function.comp_def]
  rfl

theorem ofFile_eq (files : FileSystem) (file : String) :
    ofFile files file = (Document.load files given file).map Given.config :=
  Document.load_eq_map Given.config rfl ofDocument_eq files file

/-! ## Files with a time limit alone -/

def Given.limit (n : Nat) : Given := { requestTimeout := some (some n) }

theorem Given.ofDocument_limit {ν : Type} {r : Reader ν} {v w : ν} {n : Nat}
    (hfields : r.fields? v = some [("request_timeout_ms", w)])
    (hopen : r.isNull? w = some false) (hnumber : r.natural? w = some n) :
    Given.ofDocument r v = some (.limit n) := by
  have hrecord : r.record? fields v = some fun name => [("request_timeout_ms", w)].lookup name := by
    rw [Reader.record?, hfields]
    rfl
  have hlimit : readLimit r w = some (some n) := by
    rw [readLimit, hopen, hnumber]
    rfl
  rw [Given.ofDocument, hrecord]
  change ((readLimit r w).map some).bind _ = _
  rw [hlimit]
  rfl

inductive LimitText (n : Nat) : Format → String → Prop
  | yaml : LimitText n .yaml ("request_timeout_ms: " ++ toString n)
  | json : LimitText n .json (Json.compact (.object [("request_timeout_ms", .int n)]))

theorem LimitText.read_eq {n : Nat} {format : Format} {text : String}
    (htext : LimitText n format text) (h : n < UInt64.size) :
    format.read given text = some (.limit n) := by
  cases htext with
  | yaml =>
    have hparse := Yaml.Node.parse?_entry "request_timeout_ms" (toString n)
      (by decide) (by decide) (Yaml.Node.word_numeral n)
    have hfew : (Yaml.Node.entry "request_timeout_ms" (toString n)).overusesAliases given.shape =
        false := rfl
    rw [show "request_timeout_ms: " = "request_timeout_ms" ++ ": " by decide, Format.read, hparse,
      Option.bind_some, hfew]
    exact Given.ofDocument_limit rfl (Yaml.Node.openness?_toString n)
      (Yaml.Node.readNatural_toString h)
  | json =>
    rw [Format.read, given, Json.select?_entry (by decide) rfl h, Option.bind_some]
    exact Given.ofDocument_limit rfl rfl (if_pos h)

theorem LimitText.load_eq {n : Nat} {format : Format} {text : String}
    (htext : LimitText n format text) (h : n < UInt64.size) {files : FileSystem} {file : String}
    (hread : Document.readText files file = .ok text)
    (hformat : Format.ofExtension? (Document.extension file) = some format) :
    Document.load files given file = .ok (.limit n) := by
  rw [Document.load, hread]
  simp only [hformat, htext.read_eq h]

end RuntimeConfig

end RequestRouting
