import RequestRouting.CommandLine.Report
import RequestRouting.Proofs.Dispatcher.Echoing
import RequestRouting.Proofs.RouteTable.Extension

/-!
# Looking a request up and running it

The command that looks a request up and the one that runs it load the same router, and so they fail
together, or print of one and the same lookup what it has come to.
-/

set_option autoImplicit false

namespace RequestRouting

namespace CommandLine

open Document (FileSystem)

theorem unfailing_of_get? {name : String} {h : Handler} (hname : registry.get? name = some h) :
    h.Unfailing := by
  have hhandlers : registry.handlers = [("recovery", .recovery false), ("request_id", .requestId),
    ("tracing", .tracing)] := rfl
  have hfallback : registry.fallback = some (Echo.handler "echo") := rfl
  unfold HandlerRegistry.get? at hname
  rw [hhandlers, hfallback] at hname
  split at hname
  · rename_i found hfound
    cases hname
    have hall : ∀ p ∈ [("recovery", Handler.recovery false), ("request_id", .requestId),
      ("tracing", .tracing)], p.2.Unfailing := by simp [Handler.Unfailing]
    obtain ⟨before, after, hsplit, -⟩ := List.lookup_eq_some_iff.mp hfound
    exact hall (name, h) (by rw [hsplit]; simp)
  · cases hname
    rfl

variable {files : FileSystem} {c : RuntimeConfig} {file : String} {l : Loaded}

structure Loaded.Sound (c : RuntimeConfig) (l : Loaded) : Prop where
  configured : l.router.configure c = l.router
  follows : ∃ history, l.router.Follows history
  unfailing : ∀ e ∈ l.router.entries, ∀ h ∈ e.chain, h.Unfailing

theorem sound_of_loadRouter (hload : loadRouter files c file = .ok l) : l.Sound c := by
  unfold loadRouter at hload
  cases htable : RouteTable.ofFile files file with
  | error e =>
    rw [htable] at hload
    cases hload
  | ok table =>
    rw [htable] at hload
    rcases hextend : (Router.withConfig c).extend table registry with ⟨_ | ⟨⟩, router⟩
    · simp only [hextend, reduceCtorEq] at hload
    · simp only [hextend, Except.ok.injEq] at hload
      obtain ⟨hfollows, hsettings, hbecomes⟩ :=
        (Router.new_follows.configure c).extend rfl hextend
      subst hload
      refine ⟨Router.configure_of_settings hsettings, hfollows, fun e he h hmem => ?_⟩
      obtain ⟨s, hs⟩ := hbecomes e he
      have hnamed : some h ∈ (table.middleware ++ s.names).map registry.get? :=
        hs.chain ▸ List.mem_map_of_mem hmem
      obtain ⟨name, -, hname⟩ := List.mem_map.mp hnamed
      exact unfailing_of_get? hname

/-! ## What is printed -/

def Begins (start text : String) : Prop := start.toList <+: text.toList

instance (start text : String) : Decidable (Begins start text) :=
  inferInstanceAs (Decidable (start.toList <+: text.toList))

theorem begins_append (start rest : String) : Begins start (start ++ rest) := by
  rw [Begins, String.toList_append]
  exact List.prefix_append _ _

theorem unlines_cons (line : String) (lines : List String) :
    unlines (line :: lines) = line ++ "\n" ++ unlines lines := String.join_cons

def refusal (list : String) : Response :=
  (Response.error 405 "Method Not Allowed").setHeader "allow" list

inductive Verdict where
  | found
  | notAllowed
  | notFound
  deriving DecidableEq

namespace Verdict

def ofLookup : RouteLookup → Verdict
  | .found _ => .found
  | .methodNotAllowed _ => .notAllowed
  | .notFound => .notFound

def word : Verdict → String
  | .found => "MATCH "
  | .notAllowed => "METHOD NOT ALLOWED (allow: "
  | .notFound => "NOT FOUND\n"

def status : Verdict → Nat
  | .found => 200
  | .notAllowed => 405
  | .notFound => 404

def statusLine (v : Verdict) : String := "HTTP " ++ toString v.status ++ "\n"

theorem begins_refusalLine (list : String) :
    Begins notAllowed.word (unlines ["METHOD NOT ALLOWED (allow: " ++ list ++ ")"]) := by
  rw [unlines_cons]
  simp only [String.append_assoc]
  exact begins_append _ _

theorem begins_iff {start : Verdict → String} (hapart : ∀ u v, Begins (start u) (start v) → u = v)
    {u v : Verdict} {text : String} (h : Begins (start u) text) :
    Begins (start v) text ↔ v = u := by
  constructor
  · intro hother
    rcases List.prefix_or_prefix_of_prefix h hother with hfirst | hsecond
    · exact (hapart u v hfirst).symm
    · exact hapart v u hsecond
  · rintro rfl
    exact h

theorem word_iff {v : Verdict} {lookup : RouteLookup} :
    Begins v.word (unlines (lookupLines lookup)) ↔ v = ofLookup lookup := by
  have hapart : ∀ u v : Verdict, Begins u.word v.word → u = v := by
    intro u v
    cases u <;> cases v <;> decide
  refine begins_iff hapart ?_
  cases lookup with
  | found route =>
    rw [lookupLines, unlines_cons]
    simp only [String.append_assoc]
    exact begins_append _ _
  | methodNotAllowed allowed => exact begins_refusalLine allowed.header
  | notFound => decide

theorem statusLine_iff {v u : Verdict} {r : Response} (hstatus : r.status = u.status) :
    Begins v.statusLine (unlines (responseLines r)) ↔ v = u := by
  have hapart : ∀ u v : Verdict, Begins u.statusLine v.statusLine → u = v := by
    intro u v
    cases u <;> cases v <;> decide
  refine begins_iff hapart ?_
  rw [responseLines, List.cons_append, unlines_cons, hstatus]
  exact begins_append _ _

end Verdict

theorem refusal_injective {list list' : String}
    (h : unlines (responseLines (refusal list)) = unlines (responseLines (refusal list'))) :
    list = list' := by
  have hlines (list : String) : responseLines (refusal list) = ("HTTP " ++ toString 405) ::
      ("content-type" ++ ": " ++ "application/json") :: ("allow" ++ ": " ++ list) :: "" ::
        [(refusal "").body.pretty] := rfl
  have hchars := congrArg String.toList h
  rw [hlines, hlines] at hchars
  simp only [unlines_cons, String.toList_append] at hchars
  simpa [String.toList_inj] using hchars

theorem refusalLine_injective {list list' : String}
    (h : unlines ["METHOD NOT ALLOWED (allow: " ++ list ++ ")"] =
      unlines ["METHOD NOT ALLOWED (allow: " ++ list' ++ ")"]) : list = list' := by
  have hchars := congrArg String.toList h
  simpa [unlines_cons, String.toList_inj] using hchars

/-- How the request is answered with which the lookup was made. -/
inductive Tells (request : Request) : RouteLookup → Response → Prop where
  | found {route : RouteMatch} {response : Response}
      (h : Dispatcher.Echoes request route response) : Tells request (.found route) response
  | notAllowed (allowed : AllowedMethods) :
      Tells request (.methodNotAllowed allowed) (refusal allowed.header)
  | notFound : Tells request .notFound (.error 404 "Not Found")

theorem Tells.status {request : Request} {lookup : RouteLookup} {response : Response}
    (h : Tells request lookup response) : response.status = (Verdict.ofLookup lookup).status := by
  cases h with
  | found h => exact h.status
  | notAllowed allowed => rfl
  | notFound => rfl

structure Report.Shows (report : Report) (failure : Option String) (output : String) : Prop where
  failure : report.failure = failure
  output : report.output = output

def FailAlike (resolved dispatched : Report) : Prop :=
  ∃ error, resolved.Shows (some error) "" ∧ dispatched.Shows (some error) ""

structure PrintAlike (request : Request) (lookup : RouteLookup) (resolved dispatched : Report) :
    Prop where
  looked : resolved.Shows none (unlines (lookupLines lookup))
  done : dispatched.failure = none
  verdict : ∀ v : Verdict, Begins v.word resolved.output ↔ Begins v.statusLine dispatched.output
  listed : ∀ list, resolved.output = unlines ["METHOD NOT ALLOWED (allow: " ++ list ++ ")"] ↔
    dispatched.output = unlines (responseLines (refusal list))
  echoed : ∀ route, lookup = .found route → ∃ response,
    dispatched.output = unlines (responseLines response) ∧
      Dispatcher.Echoes request route response

theorem Tells.printAlike {request : Request} {lookup : RouteLookup} {response : Response}
    (h : Tells request lookup response) {resolved dispatched : Report}
    (hresolved : resolved.Shows none (unlines (lookupLines lookup)))
    (hdispatched : dispatched.Shows none (unlines (responseLines response))) :
    PrintAlike request lookup resolved dispatched := by
  refine ⟨hresolved, hdispatched.failure, fun v => ?_, fun list => ?_, ?_⟩
  · rw [hresolved.output, hdispatched.output, Verdict.word_iff, Verdict.statusLine_iff h.status]
  · constructor
    · intro hline
      have hrefused := Verdict.begins_refusalLine list
      rw [← hline, hresolved.output, Verdict.word_iff] at hrefused
      cases h with
      | found hechoes => cases hrefused
      | notAllowed allowed =>
        rw [hdispatched.output, refusalLine_injective (hresolved.output.symm.trans hline)]
      | notFound => cases hrefused
    · intro hanswer
      have hrefused : Verdict.notAllowed = Verdict.ofLookup lookup := by
        rw [← Verdict.statusLine_iff h.status, ← hdispatched.output, hanswer]
        exact (Verdict.statusLine_iff rfl).mpr rfl
      cases h with
      | found hechoes => cases hrefused
      | notAllowed allowed =>
        rw [hresolved.output, ← refusal_injective (hdispatched.output.symm.trans hanswer)]
        rfl
      | notFound => cases hrefused
  · rintro route rfl
    cases h with
    | found hechoes => exact ⟨response, hdispatched.output, hechoes⟩

/-! ## The two commands -/

theorem Loaded.Sound.tells (h : l.Sound c) (htimeless : c.requestTimeout = none)
    (request : Request) (minted : RequestId) : ∃ response,
      ((Dispatcher.withConfig l.router c).handle request minted {}).1 = .ok response ∧
        Tells request (l.router.resolve request.method request.path) response := by
  obtain ⟨d, hd⟩ : ∃ d, d = Dispatcher.withConfig l.router c := ⟨_, rfl⟩
  have hload : d.router.load = l.router := by
    rw [hd]
    exact h.configured
  have hlive : d.signal.isCancelled = false := by
    rw [hd, Dispatcher.signal, Dispatcher.withConfig, htimeless]
    rfl
  rw [← hd, ← hload]
  have hserved {route : RouteMatch}
      (hfound : d.router.load.resolve request.method request.path = .found route) : ∃ response,
      (d.handle request minted {}).1 = .ok response ∧
        Tells request (d.router.load.resolve request.method request.path) response := by
    have hresolved : l.router.resolve request.method request.path = .found route := hload ▸ hfound
    obtain ⟨history, hfollows⟩ := h.follows
    obtain ⟨response, hanswer, hechoes⟩ := Dispatcher.handle_echoes hfound
      (h.unfailing _ (hfollows.resolve_mem hresolved)) (hfollows.params_nodup hresolved) hlive
      minted {}
    rw [hfound]
    exact ⟨response, hanswer, .found hechoes⟩
  have hanswers := d.handle_answers request minted {}
  generalize hanswer : (d.handle request minted {}).1 = answer at hanswers ⊢
  cases hanswers with
  | served hfound _ | failed hfound _ | panicked hfound _ =>
    rw [← hanswer]
    exact hserved hfound
  | notAllowed hlookup =>
    rw [hlookup]
    exact ⟨_, rfl, .notAllowed _⟩
  | notFound hlookup =>
    rw [hlookup]
    exact ⟨_, rfl, .notFound⟩

section

variable {env : Environment} {minted : RequestId} {a : Arguments} {error output : String}
  {failure : Option String}

theorem run_of_config_error (hconfig : loadConfig files env a.config = .error error) :
    (run files env minted a).Shows (some error) "" := by
  unfold run
  simp only [hconfig]
  exact ⟨rfl, rfl⟩

variable (hconfig : loadConfig files env a.config = .ok c)

include hconfig

theorem run_of_table_error (hload : loadRouter files c a.command.table = .error error) :
    (run files env minted a).Shows (some error) "" := by
  unfold run
  simp only [hconfig, hload]
  exact ⟨rfl, rfl⟩

theorem run_of_loaded (hload : loadRouter files c a.command.table = .ok l)
    (h : (runLoaded c minted l a.command).Shows failure output) :
    (run files env minted a).Shows failure output := by
  unfold run
  simp only [hconfig, hload]
  exact ⟨h.failure, h.output⟩

end

section

variable {minted : RequestId} {table text uri : String} {method : Method}

theorem failAlike_of_method {error : Method.Invalid} (hmethod : Method.read text = .error error) :
    (runLoaded c minted l (.resolve table text uri)).Shows (some error.message) "" ∧
      (runLoaded c minted l (.dispatch table text uri [] none)).Shows (some error.message) "" := by
  unfold runLoaded readRequest
  simp only [hmethod]
  exact ⟨⟨rfl, rfl⟩, rfl, rfl⟩

variable (hmethod : Method.read text = .ok method)

include hmethod

theorem resolve_shows : (runLoaded c minted l (.resolve table text uri)).Shows none
    (unlines (lookupLines (l.router.resolve method (Request.splitTarget uri).1))) := by
  unfold runLoaded
  constructor <;> simp only [hmethod, resolveLines]

theorem dispatch_shows {response : Response}
    (hanswer : ((Dispatcher.withConfig l.router c).handle { method, uri } minted {}).1 =
      .ok response) :
    (runLoaded c minted l (.dispatch table text uri [] none)).Shows none
      (unlines (responseLines response)) := by
  have hrequest : readRequest text uri [] none = .ok { method, uri } := by
    unfold readRequest
    simp only [hmethod]
    rfl
  unfold runLoaded dispatch
  simp only [hrequest]
  generalize (Dispatcher.withConfig l.router c).handle { method, uri } minted {} = handled
    at hanswer
  obtain ⟨answer, w⟩ := handled
  cases hanswer
  exact ⟨rfl, rfl⟩

end

end CommandLine

end RequestRouting
