import RequestRouting.Proofs.Chain.Observation
import RequestRouting.Proofs.Dispatcher.Recovered
import RequestRouting.Proofs.RuntimeConfig.Given
import RequestRouting.Proofs.RuntimeConfig.Overlay

/-!
# Time limits from files and from the environment

A time limit means the same in a file and in its variable, but for zero: in the variable there is
then no limit, and in the file the time of every request is over before it starts.
-/

set_option autoImplicit false

namespace RequestRouting

theorem Arrival.answered_of_cancelled {a : Arrival} {w : World} {route : RouteMatch}
    (hfound : a.lookup = .found route) (hchain : route.entry.chain ≠ [])
    (hcancelled : a.signal.isCancelled = true) :
    ∃ response, (a.serve w).1 = .answered response ∧ response.status = 503 ∧
      (a.serve w).2.notes = w.notes ∧ (a.serve w).2.meters = w.meters := by
  have hrunning : (a.start w route).state ≠ .completed := nofun
  obtain ⟨hanswer, hmeters⟩ := serve_of_found (w := w) hfound
  have hnotes := notes_of_found (w := w) hfound
  rw [Chain.advance_of_cancelled hchain hrunning rfl hcancelled] at hanswer hmeters hnotes
  exact ⟨_, hanswer, Dispatcher.withoutBody_status _,
    hnotes.trans (Dispatcher.withoutBody_notes _), hmeters⟩

namespace RuntimeConfig

open Document (FileSystem Format)

def unset : Environment := fun _ => none

def limitVariable (n : Nat) : Environment := fun name =>
  if name = timeoutVariable then some (toString n) else none

theorem overlay_unset (c : RuntimeConfig) : overlay unset c = c := rfl

theorem overlay_limitVariable {n : Nat} (h : n < UInt64.size) (c : RuntimeConfig) :
    overlay (limitVariable n) c =
      { c with requestTimeout := if n = 0 then none else some n } := by
  have hread : readTimeout (toString n) = some (if n = 0 then none else some n) := by
    refine Setting.read_eq_some_iff (s := .requestTimeout) |>.mpr ?_
    exact ⟨n, ⟨_, Text.pads_self _, Text.numeral_toString h⟩, rfl⟩
  have hlimit : pick (limitVariable n) timeoutVariable readTimeout c.requestTimeout =
      if n = 0 then none else some n := by
    rw [pick, limitVariable, if_pos rfl, Option.bind_some, hread, Option.getD_some]
  rw [overlay, hlimit]
  rfl

/-- Dispatchers answer alike under both configurations, whatever router they share. One that is made
for a router of its own shares it with nobody. -/
def ServeAlike (c c' : RuntimeConfig) : Prop :=
  ∀ (s : SharedRouter) (request : Request) (minted : RequestId) (w : World),
    ((Dispatcher.ofShared s c).dispatch request minted w).1 =
      ((Dispatcher.ofShared s c').dispatch request minted w).1

/-- No request has any time, so that none comes to a handler. -/
def LeavesNoTime (c : RuntimeConfig) : Prop :=
  ∀ (s : SharedRouter) (request : Request) (minted : RequestId) (w : World) (route : RouteMatch),
    (Dispatcher.ofShared s c).router.load.resolve request.method request.path = .found route →
      route.entry.chain ≠ [] →
        ∃ response, ((Dispatcher.ofShared s c).dispatch request minted w).1 = .answered response ∧
          response.status = 503 ∧
          ((Dispatcher.ofShared s c).dispatch request minted w).2.notes = w.notes ∧
          ((Dispatcher.ofShared s c).dispatch request minted w).2.meters = w.meters

def SetsNoLimit (c : RuntimeConfig) : Prop :=
  ∀ (s : SharedRouter) (request : Request) (minted : RequestId) (w : World),
    (Dispatcher.ofShared s c).dispatch request minted w =
      (Dispatcher.ofShared s c).dispatchWith request {} minted w

theorem leavesNoTime {c : RuntimeConfig} (h : c.requestTimeout = some 0) : c.LeavesNoTime := by
  intro s request minted w route hfound hchain
  let a : Arrival :=
    { dispatcher := .ofShared s c, request, minted, signal := (Dispatcher.ofShared s c).signal }
  have hserve : (Dispatcher.ofShared s c).dispatch request minted w = a.serve w := rfl
  have hsignal : a.signal = .withTimeout 0 := by
    rw [show a.signal = (Dispatcher.ofShared s c).signal from rfl, Dispatcher.signal,
      show (Dispatcher.ofShared s c).config = c from rfl, h]
  have hlookup : a.lookup = .found route := hfound
  have hcancelled : a.signal.isCancelled = true := by
    rw [hsignal]
    rfl
  rw [hserve]
  exact Arrival.answered_of_cancelled hlookup hchain hcancelled

theorem setsNoLimit {c : RuntimeConfig} (h : c.requestTimeout = none) : c.SetsNoLimit := by
  intro s request minted w
  have hsignal : (Dispatcher.ofShared s c).signal = {} := by
    rw [Dispatcher.signal, show (Dispatcher.ofShared s c).config = c from rfl, h]
  rw [Dispatcher.dispatch, hsignal]

theorem LeavesNoTime.not_serveAlike {c : RuntimeConfig} (h : c.LeavesNoTime) :
    ¬ c.ServeAlike {} := by
  intro halike
  let welcome : Handler := .endpoint "welcome" fun scope _ => (.ok, scope)
  let s := SharedRouter.new (({} : Router).register .get "/" welcome).2
  let request : Request := { method := .get, uri := "/" }
  let route : RouteMatch := ⟨⟨0, .get, "/", "welcome", [welcome]⟩, ⟨[]⟩⟩
  have hpath : request.path = "/" := by decide
  have hfound : ∀ c : RuntimeConfig,
      (Dispatcher.ofShared s c).router.load.resolve request.method request.path = .found route := by
    intro c
    rw [hpath]
    rfl
  obtain ⟨response, hlate, hstatus, -⟩ :=
    h s request ⟨0⟩ {} route (hfound c) (List.cons_ne_nil _ _)
  have hserved : ((Dispatcher.ofShared s {}).dispatch request ⟨0⟩ {}).1 = .answered .blank := by
    let a : Arrival := { dispatcher := .ofShared s {}, request }
    have hanswer := (Arrival.serve_of_found (a := a) (w := {}) (hfound {})).1
    exact hanswer.trans rfl
  rw [halike, hserved, DispatchResult.answered.injEq] at hlate
  rw [← hlate] at hstatus
  cases hstatus

/-- For all files that set the time limit alone, such as those with a plain text, and all that set
nothing. -/
theorem limit_by_file_or_variable {n : Nat} (h : n < UInt64.size) :
    (∀ (files : FileSystem) (file : String) (format : Format) (text : String),
      LimitText n format text → Document.readText files file = .ok text →
        Format.ofExtension? (Document.extension file) = some format →
          Document.load files given file = .ok (.limit n)) ∧
    ∀ (files : FileSystem) (file silent : String),
      Document.load files given file = .ok (.limit n) → Document.load files given silent = .ok {} →
        ∃ c c', load files unset file = .ok c ∧ load files (limitVariable n) silent = .ok c' ∧
          (c.requestTimeout = c'.requestTimeout ↔ n ≠ 0) ∧ (c.ServeAlike c' ↔ n ≠ 0) ∧
          (n = 0 → c.LeavesNoTime ∧ c'.SetsNoLimit) := by
  refine ⟨fun files file format text htext hread hformat => htext.load_eq h hread hformat,
    fun files file silent hfile hsilent => ?_⟩
  let c : RuntimeConfig := { requestTimeout := some n }
  let c' : RuntimeConfig := { requestTimeout := if n = 0 then none else some n }
  have hc : load files unset file = .ok c := by
    rw [load, ofFile_eq, hfile]
    exact congrArg Except.ok (overlay_unset c)
  have hc' : load files (limitVariable n) silent = .ok c' := by
    rw [load, ofFile_eq, hsilent]
    exact congrArg Except.ok (overlay_limitVariable h {})
  refine ⟨c, c', hc, hc', ?_⟩
  by_cases hzero : n = 0
  · subst hzero
    have hlate : c.LeavesNoTime := leavesNoTime rfl
    refine ⟨?_, ?_, fun _ => ⟨hlate, setsNoLimit rfl⟩⟩
    · simp [c, c']
    · exact iff_of_false hlate.not_serveAlike (fun hn => hn rfl)
  · have hsame : c = c' := by simp [c, c', hzero]
    refine ⟨iff_of_true (congrArg _ hsame) hzero, iff_of_true ?_ hzero,
      fun hn => absurd hn hzero⟩
    rw [← hsame]
    exact fun s request minted w => rfl

theorem limit_by_file_or_variable_of_some :
    let files : FileSystem := fun name =>
      if name = "limit.yaml" then some "request_timeout_ms: 250\n".toUTF8
      else if name = "silent.yaml" then some "\x7b\x7d\n".toUTF8
      else none
    (250 < UInt64.size ∧ Document.load files given "limit.yaml" = .ok (.limit 250) ∧
      Document.load files given "silent.yaml" = .ok {}) ∧
    ∃ c c', load files unset "limit.yaml" = .ok c ∧
      load files (limitVariable 250) "silent.yaml" = .ok c' ∧
      c.requestTimeout = c'.requestTimeout ∧ c.ServeAlike c' := by
  intro files
  have hsmall : 250 < UInt64.size := by decide
  have hlimit : Document.load files given "limit.yaml" = .ok (.limit 250) := by decide +kernel
  have hsilent : Document.load files given "silent.yaml" = .ok {} := by decide +kernel
  obtain ⟨c, c', hc, hc', hlimits, hserve, -⟩ :=
    (limit_by_file_or_variable hsmall).2 files "limit.yaml" "silent.yaml" hlimit hsilent
  exact ⟨⟨hsmall, hlimit, hsilent⟩, c, c', hc, hc', hlimits.mpr (by decide), hserve.mpr (by decide)⟩

/-- Zero takes all the time in the one place, and lifts the limit in the other. -/
theorem zero_by_file_or_variable :
    let files : FileSystem := fun name =>
      if name = "limit.yaml" then some "request_timeout_ms: 0\n".toUTF8
      else if name = "silent.yaml" then some "\x7b\x7d\n".toUTF8
      else none
    ∃ c c', Document.load files given "limit.yaml" = .ok (.limit 0) ∧
      Document.load files given "silent.yaml" = .ok {} ∧
      load files unset "limit.yaml" = .ok c ∧
      load files (limitVariable 0) "silent.yaml" = .ok c' ∧
      c.requestTimeout = some 0 ∧ c'.requestTimeout = none ∧ ¬ c.ServeAlike c' := by
  intro files
  refine ⟨{ requestTimeout := some 0 }, {}, ?_, ?_, ?_, ?_, rfl, rfl,
    (leavesNoTime rfl).not_serveAlike⟩ <;> decide +kernel

end RuntimeConfig

end RequestRouting
