import RequestRouting.Proofs.Dispatcher.Echoing
import RequestRouting.Proofs.SharedRouter.Stability

/-!
# Two ways to read bindings

An echo writes the parameters and the query of its request as objects, which keep the last value of
a name. A handler asks for a parameter and gets the first value of its name. Both read the same,
since a match binds no name twice.
-/

set_option autoImplicit false

namespace RequestRouting

namespace Json

/-- An object that has just these names, each with the text that it stands for. -/
def Tabulates (v : Json) (names : List String) (text? : String → Option String) : Prop :=
  ∃ fields, v = .object fields ∧ (fields.map (·.1)).Nodup ∧
    (∀ name, name ∈ fields.map (·.1) ↔ name ∈ names) ∧
    ∀ name, fields.lookup name = (text? name).map .string

theorem mem_names_iff_lookup {α : Type} {fields : List (String × α)} {name : String} :
    name ∈ fields.map (·.1) ↔ fields.lookup name ≠ none := by
  rw [Ne, List.lookup_eq_none_iff, List.mem_map]
  push Not
  simp only [bne_eq_false_iff_eq, ne_eq, Bool.not_eq_true]
  exact ⟨fun ⟨f, hf, heq⟩ => ⟨f, hf, heq.symm⟩, fun ⟨f, hf, heq⟩ => ⟨f, hf, heq.symm⟩⟩

theorem ofTexts_tabulates (texts : List (String × String)) :
    (ofTexts texts).Tabulates (texts.map (·.1)) fun name => texts.reverse.lookup name := by
  have hlookup : ∀ name, (sortFields (texts.map fun f => (f.1, Json.string f.2))).lookup name =
      (texts.reverse.lookup name).map .string := by
    intro name
    rw [lookup_sortFields, ← List.map_reverse, lookup_map_snd]
  refine ⟨_, rfl, (sortFields_sorted _).nodup, fun name => ?_, hlookup⟩
  rw [mem_names_iff_lookup, hlookup, Ne, Option.map_eq_none_iff, ← Ne, ← mem_names_iff_lookup,
    List.map_reverse, List.mem_reverse]

end Json

theorem Params.toJson_tabulates {p : Params} (h : (p.pairs.map (·.1)).Nodup) :
    p.toJson.Tabulates (p.pairs.map (·.1)) p.get? := by
  obtain ⟨fields, hobject, hnodup, hnames, hlookup⟩ := Json.ofTexts_tabulates p.pairs
  refine ⟨fields, hobject, hnodup, hnames, fun name => (hlookup name).trans ?_⟩
  rw [get?, ← lookup_reverse_of_nodup h]

theorem Params.field?_toJson {p : Params} (h : (p.pairs.map (·.1)).Nodup) (name : String) :
    p.toJson.field? name = (p.get? name).map .string := by
  obtain ⟨fields, hobject, -, -, hlookup⟩ := toJson_tabulates h
  rw [hobject, Json.field?, hlookup]

theorem Chain.advance_echo (name : String) {e : Execution} (hready : Ready 0 e) :
    (advance [Echo.handler name] e).1 = .ok ∧ (advance [Echo.handler name] e).2.context =
      { e.context with response := .json 200 (Echo.body e.context) } := by
  rw [advance, hready.advanceFrom_eq]
  refine ⟨rfl, ?_⟩
  rw [leave_context]
  rfl

namespace Arrival

theorem answered_by_echo {a : Arrival} {route : RouteMatch} {name : String}
    (hfound : a.lookup = .found route) (halone : route.entry.chain = [Echo.handler name])
    (hmethod : a.request.method ≠ .head) (hlive : a.signal.isCancelled = false) (w : World) :
    (a.serve w).1 = .answered
      (.json 200 (Echo.body (Dispatcher.contextOf a.request route a.minted a.signal))) := by
  have hready : Chain.Ready 0 (a.start w route) := ready_start hlive
  obtain ⟨hok, hcontext⟩ := Chain.advance_echo name hready
  rw [(serve_of_found hfound).1, halone, hok]
  have hother : ¬ (Chain.advance [Echo.handler name] (a.start w route)).2.context.method = .head :=
    hcontext ▸ hmethod
  rw [Dispatcher.conclude, Dispatcher.withoutBody, if_neg hother, hcontext]
  rfl

/-- Whatever was done to the shared router before. -/
theorem bindings_read_alike {a : Arrival} (hreached : a.dispatcher.router.Reached)
    {route : RouteMatch} (hfound : a.lookup = .found route) {name : String}
    (halone : route.entry.chain = [Echo.handler name]) (hmethod : a.request.method ≠ .head)
    (hlive : a.signal.isCancelled = false) (w : World) :
    let c := Dispatcher.contextOf a.request route a.minted a.signal
    (c.params.pairs.map (·.1)).Nodup ∧
      (∃ response params query, (a.serve w).1 = .answered response ∧
        response.body.field? "params" = some params ∧
        params.Tabulates (c.params.pairs.map (·.1)) c.params.get? ∧
        response.body.field? "query" = some query ∧
        query.Tabulates ((Query.parse a.request.query).map (·.1)) c.queryParam?) ∧
      ∀ key, c.params.toJson.field? key = (c.params.get? key).map .string := by
  intro c
  obtain ⟨history, hfollows⟩ := hreached.follows
  have hnodup : (c.params.pairs.map (·.1)).Nodup := hfollows.params_nodup hfound
  have hserved := answered_by_echo hfound halone hmethod hlive w
  have hparams : (Echo.body c).field? "params" = some c.params.toJson :=
    Json.field?_ofFields (by simp) (by simp)
  have hquery : (Echo.body c).field? "query" = some (Json.ofTexts c.query) :=
    Json.field?_ofFields (by simp) (by simp)
  exact ⟨hnodup, ⟨_, _, _, hserved, hparams, Params.toJson_tabulates hnodup, hquery,
    Json.ofTexts_tabulates c.query⟩, Params.field?_toJson hnodup⟩

theorem bindings_read_alike_on_files :
    let router := (({} : Router).register .get "/files/:id/*rest" (Echo.handler "files")).2
    let a : Arrival :=
      { dispatcher := .withConfig router {}
        request := { method := .get, uri := "/files/7/a/b?x=1&y=%20&x=2" } }
    let route : RouteMatch :=
      ⟨⟨0, .get, "/files/:id/*rest", "files", [Echo.handler "files"]⟩,
        ⟨[("id", "7"), ("rest", "a/b")]⟩⟩
    let c := Dispatcher.contextOf a.request route a.minted a.signal
    (a.dispatcher.router.Reached ∧ a.lookup = .found route ∧
        route.entry.chain = [Echo.handler "files"] ∧ a.request.method ≠ .head ∧
        a.signal.isCancelled = false) ∧
      (c.params.pairs.map (·.1)).Nodup ∧
      (∃ response params query, (a.serve {}).1 = .answered response ∧
        response.body.field? "params" = some params ∧
        params.Tabulates (c.params.pairs.map (·.1)) c.params.get? ∧
        response.body.field? "query" = some query ∧
        query.Tabulates ((Query.parse a.request.query).map (·.1)) c.queryParam?) ∧
      (∀ key, c.params.toJson.field? key = (c.params.get? key).map .string) ∧
      c.params.get? "rest" = some "a/b" ∧ c.queryParam? "x" = some "2" := by
  intro router a route c
  have hreached : a.dispatcher.router.Reached :=
    .withConfig ⟨[.register .get "/files/:id/*rest" [] [Echo.handler "files"]], rfl⟩ {}
  have hpath : a.request.path = "/files/7/a/b" := by decide
  have hfound : a.lookup = .found route := by
    rw [lookup, hpath]
    rfl
  have hmethod : a.request.method ≠ .head := by decide
  obtain ⟨hnodup, hechoed, hagree⟩ := bindings_read_alike hreached hfound rfl hmethod rfl {}
  exact ⟨⟨hreached, hfound, rfl, hmethod, rfl⟩, hnodup, hechoed, hagree, by decide, by decide⟩

end Arrival

end RequestRouting
