import RequestRouting.Proofs.Text.Numerals
import RequestRouting.RuntimeConfig.File

/-!
# Environments over configurations

Each setting has a variable of its own, which counts if its text says a value. What lies over what
is settled for each setting alone, and so environments can be laid over one another before they are
laid over a configuration.
-/

set_option autoImplicit false

namespace RequestRouting.RuntimeConfig

open Document (FileSystem LoadError)

inductive Setting where
  | requestTimeout
  | slowMatchThreshold
  | headFallback
  | logRoutes
  deriving DecidableEq

namespace Setting

abbrev Value : Setting → Type
  | .requestTimeout => Option Nat
  | .slowMatchThreshold => Nat
  | .headFallback => Bool
  | .logRoutes => Bool

def key : Setting → String
  | .requestTimeout => timeoutVariable
  | .slowMatchThreshold => thresholdVariable
  | .headFallback => headFallbackVariable
  | .logRoutes => logRoutesVariable

def get (c : RuntimeConfig) : (s : Setting) → s.Value
  | .requestTimeout => c.requestTimeout
  | .slowMatchThreshold => c.slowMatchThreshold
  | .headFallback => c.headFallback
  | .logRoutes => c.logRoutes

def read : (s : Setting) → String → Option s.Value
  | .requestTimeout => readTimeout
  | .slowMatchThreshold => readNumber
  | .headFallback => readBool
  | .logRoutes => readBool

def all : List Setting := [.requestTimeout, .slowMatchThreshold, .headFallback, .logRoutes]

theorem mem_all (s : Setting) : s ∈ all := by cases s <;> decide

end Setting

def SaysNumber (text : String) (n : Nat) : Prop := ∃ core, Text.Pads text core ∧ Text.Numeral core n

def SaysTruth (text : String) (b : Bool) : Prop :=
  ∃ core, Text.Pads text core ∧ ∃ word ∈ Text.truthWords b, Text.sameName core word = true

/-- What a text says of a setting: a time limit of zero stands for none. -/
def Setting.Says (text : String) : (s : Setting) → s.Value → Prop
  | .requestTimeout, limit => ∃ n, SaysNumber text n ∧ limit = if n = 0 then none else some n
  | .slowMatchThreshold, n => SaysNumber text n
  | .headFallback, b => SaysTruth text b
  | .logRoutes, b => SaysTruth text b

theorem readNumber_eq_some_iff {text : String} {n : Nat} :
    readNumber text = some n ↔ SaysNumber text n :=
  Text.readUnsigned_trim_eq_some_iff

theorem readBool_eq_some_iff_mem {text : String} {b : Bool} :
    readBool text = some b ↔ Text.lower (Text.trim text) ∈ Text.truthWords b := by
  have hapart : ∀ word ∈ Text.truthWords true, word ∉ Text.truthWords false := by decide
  simp only [readBool, List.contains_iff_mem]
  change (if Text.lower (Text.trim text) ∈ Text.truthWords true then some true
    else if Text.lower (Text.trim text) ∈ Text.truthWords false then some false else none) =
      some b ↔ _
  generalize Text.lower (Text.trim text) = word
  cases b with
  | true =>
    split
    · simp [*]
    · split <;> simp [*]
  | false =>
    split
    · rename_i htrue
      simp [hapart word htrue]
    · split <;> simp [*]

theorem readBool_eq_some_iff {text : String} {b : Bool} :
    readBool text = some b ↔ SaysTruth text b := by
  rw [readBool_eq_some_iff_mem]
  constructor
  · intro h
    refine ⟨Text.trim text, Text.pads_trim text, _, h, ?_⟩
    rw [Text.sameName_iff, Text.lower_truthWord b _ h]
  · rintro ⟨core, hpads, word, hword, hsame⟩
    rw [hpads.trim_eq (Text.not_blank_of_word hword hsame), Text.sameName_iff.mp hsame,
      Text.lower_truthWord b word hword]
    exact hword

namespace Setting

variable {s t : Setting} {text : String}

theorem read_eq_some_iff {v : s.Value} : s.read text = some v ↔ s.Says text v := by
  cases s with
  | requestTimeout =>
    dsimp only [read, Says, readTimeout]
    rw [Option.map_eq_some_iff]
    exact exists_congr fun n => and_congr readNumber_eq_some_iff eq_comm
  | slowMatchThreshold => exact readNumber_eq_some_iff
  | headFallback =>
    dsimp only [read, Says]
    exact readBool_eq_some_iff
  | logRoutes =>
    dsimp only [read, Says]
    exact readBool_eq_some_iff

theorem key_injective (h : s.key = t.key) : s = t := by
  revert h
  cases s <;> cases t <;> decide

theorem get_overlay (s : Setting) (e : Environment) (c : RuntimeConfig) :
    s.get (overlay e c) = ((e s.key).bind s.read).getD (s.get c) := by
  cases s <;> rfl

end Setting

theorem ext_settings {c c' : RuntimeConfig} (h : ∀ s : Setting, s.get c = s.get c') : c = c' := by
  have hlimit : c.requestTimeout = c'.requestTimeout := h .requestTimeout
  have hthreshold : c.slowMatchThreshold = c'.slowMatchThreshold := h .slowMatchThreshold
  have hhead : c.headFallback = c'.headFallback := h .headFallback
  have hlog : c.logRoutes = c'.logRoutes := h .logRoutes
  cases c
  cases c'
  simp_all

/-- The text is one that a variable of this name counts with. -/
def Readable (name text : String) : Prop := ∃ s : Setting, s.key = name ∧ ∃ v, s.Says text v

theorem readable_iff {name text : String} : Readable name text ↔
    (Setting.all.any fun s => s.key == name && (s.read text).isSome) = true := by
  simp only [Readable, List.any_eq_true, Bool.and_eq_true, beq_iff_eq, Option.isSome_iff_exists,
    Setting.read_eq_some_iff, Setting.mem_all, true_and]

instance (name text : String) : Decidable (Readable name text) :=
  decidable_of_iff _ readable_iff.symm

theorem readable_key_iff {s : Setting} {text : String} :
    Readable s.key text ↔ (s.read text).isSome = true := by
  simp only [Readable, Option.isSome_iff_exists, Setting.read_eq_some_iff]
  constructor
  · rintro ⟨t, hkey, hsays⟩
    obtain rfl := Setting.key_injective hkey
    exact hsays
  · exact fun hsays => ⟨s, rfl, hsays⟩

def layer (lower upper : Environment) : Environment := fun name =>
  match upper name with
  | some text => if Readable name text then some text else lower name
  | none => lower name

theorem bind_read_layer (s : Setting) (lower upper : Environment) :
    (layer lower upper s.key).bind s.read =
      ((upper s.key).bind s.read).or ((lower s.key).bind s.read) := by
  rw [layer]
  cases upper s.key with
  | none => rfl
  | some text =>
    rw [Option.bind_some]
    dsimp only
    by_cases hreadable : Readable s.key text
    · obtain ⟨v, hv⟩ := Option.isSome_iff_exists.mp (readable_key_iff.mp hreadable)
      rw [if_pos hreadable, Option.bind_some, hv, Option.some_or]
    · have hnone : s.read text = none := by
        rw [← Option.not_isSome_iff_eq_none, ← readable_key_iff]
        exact hreadable
      rw [if_neg hreadable, hnone, Option.none_or]

theorem overlay_overlay (lower upper : Environment) (c : RuntimeConfig) :
    overlay upper (overlay lower c) = overlay (layer lower upper) c := by
  refine ext_settings fun s => ?_
  rw [Setting.get_overlay, Setting.get_overlay, Setting.get_overlay, bind_read_layer]
  cases (upper s.key).bind s.read <;> simp

theorem overlay_idem (e : Environment) (c : RuntimeConfig) :
    overlay e (overlay e c) = overlay e c := by
  refine ext_settings fun s => ?_
  rw [Setting.get_overlay, Setting.get_overlay]
  cases (e s.key).bind s.read <;> rfl

theorem load_ok_iff {files : FileSystem} {e : Environment} {file : String} {c : RuntimeConfig} :
    load files e file = .ok c ↔ ∃ base, ofFile files file = .ok base ∧ c = overlay e base := by
  rw [load]
  cases ofFile files file <;> simp [Except.map, eq_comm]

theorem load_error_iff {files : FileSystem} {e : Environment} {file : String} {error : LoadError} :
    load files e file = .error error ↔ ofFile files file = .error error := by
  rw [load]
  cases ofFile files file <;> simp [Except.map]

/-- Of all environments, whatever their entries. -/
theorem overlay_by_settings (c : RuntimeConfig) (e lower upper : Environment) :
    (∀ s : Setting,
      (∀ text v, e s.key = some text → s.Says text v → s.get (overlay e c) = v) ∧
      ((∀ text v, e s.key = some text → ¬ s.Says text v) → s.get (overlay e c) = s.get c) ∧
      ∀ e' : Environment, e' s.key = e s.key → s.get (overlay e' c) = s.get (overlay e c)) ∧
    overlay e (overlay e c) = overlay e c ∧
    overlay upper (overlay lower c) = overlay (layer lower upper) c ∧
    ∀ files file,
      (∀ loaded, load files e file = .ok loaded ↔
        ∃ base, ofFile files file = .ok base ∧ loaded = overlay e base) ∧
      ∀ error, load files e file = .error error ↔ ofFile files file = .error error := by
  refine ⟨fun s => ⟨fun text v htext hsays => ?_, fun hsilent => ?_, fun e' hsame => ?_⟩,
    overlay_idem e c, overlay_overlay lower upper c,
    fun files file => ⟨fun _ => load_ok_iff, fun _ => load_error_iff⟩⟩
  · rw [Setting.get_overlay, htext, Option.bind_some, Setting.read_eq_some_iff.mpr hsays,
      Option.getD_some]
  · have hnone : (e s.key).bind s.read = none := by
      refine Option.eq_none_iff_forall_ne_some.mpr fun v hv => ?_
      obtain ⟨text, htext, hread⟩ := Option.bind_eq_some_iff.mp hv
      exact hsilent text v htext (Setting.read_eq_some_iff.mp hread)
    rw [Setting.get_overlay, hnone, Option.getD_none]
  · rw [Setting.get_overlay, Setting.get_overlay, hsame]

end RequestRouting.RuntimeConfig
