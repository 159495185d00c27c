import RequestRouting.Proofs.Router.Listing
import RequestRouting.RouteGroup

/-!
# Routers and their copies

Routers are created, copied, and changed one by one, with and without groups. Each keeps a log of
its own, which starts with that of the router it was copied from; its routes are told by the log.
-/

set_option autoImplicit false

namespace RequestRouting

structure LoggedRouter where
  router : Router := {}
  log : List RouteEntry := []

namespace LoggedRouter

def step (l : LoggedRouter) : RouterStep → LoggedRouter
  | .configure config => ⟨l.router.configure config, l.log⟩
  | .use middleware => ⟨l.router.use middleware, l.log⟩
  | .register method pattern middleware handlers =>
    let result := l.router.registerWith method pattern middleware handlers
    ⟨result.2, Router.record l.log (l.router.newEntry method pattern middleware handlers) result.1⟩

def registerIn (l : LoggedRouter) (g : RouteGroup) (method : Method) (pattern : String)
    (h : Handler) : LoggedRouter :=
  let result := g.register l.router method pattern h
  ⟨result.2, Router.record l.log
    (l.router.newEntry method (RouteGroup.join g.base pattern) g.middleware [h]) result.1⟩

def Keeps (l : LoggedRouter) : Prop := ∃ history, l.router.Follows history ∧ history.routes = l.log

theorem new_keeps : Keeps {} := ⟨[], Router.new_follows, rfl⟩

variable {l : LoggedRouter}

theorem Keeps.step (h : l.Keeps) (s : RouterStep) : (l.step s).Keeps := by
  obtain ⟨history, hfollows, hlog⟩ := h
  cases s with
  | configure config => exact ⟨history, hfollows.configure config, hlog⟩
  | use middleware => exact ⟨history, hfollows.use middleware, hlog⟩
  | register method pattern middleware handlers =>
    obtain ⟨history', hnext, hrecord⟩ :=
      hfollows.registerWith method pattern middleware handlers
    rw [hlog] at hrecord
    exact ⟨history', hnext, hrecord⟩

theorem Keeps.registerIn (h : l.Keeps) (g : RouteGroup) (method : Method) (pattern : String)
    (handler : Handler) : (l.registerIn g method pattern handler).Keeps := by
  rw [LoggedRouter.registerIn, RouteGroup.register]
  split
  · exact h.step (.register method (RouteGroup.join g.base pattern) g.middleware [handler])
  · exact h

end LoggedRouter

inductive FamilyStep where
  | create
  | copy (source : Nat)
  | change (target : Nat) (step : RouterStep)
  | registerIn (target : Nat) (group : RouteGroup) (method : Method) (pattern : String)
      (handler : Handler)

namespace RouterFamily

def step (family : List LoggedRouter) : FamilyStep → List LoggedRouter
  | .create => family ++ [{}]
  | .copy source => family ++ family[source]?.toList
  | .change target s => family.modify target fun l => l.step s
  | .registerIn target group method pattern handler =>
    family.modify target fun l => l.registerIn group method pattern handler

def run (family : List LoggedRouter) : List FamilyStep → List LoggedRouter
  | [] => family
  | s :: rest => run (step family s) rest

theorem keeps_step {family : List LoggedRouter} (h : ∀ l ∈ family, l.Keeps) (s : FamilyStep) :
    ∀ l ∈ step family s, l.Keeps := by
  have hmodify : ∀ (target : Nat) (f : LoggedRouter → LoggedRouter),
      (∀ l, l.Keeps → (f l).Keeps) → ∀ l ∈ family.modify target f, l.Keeps := by
    intro target f hf l hl
    obtain ⟨place, hplace⟩ := List.mem_iff_getElem?.1 hl
    rw [List.getElem?_modify, Option.map_eq_map, Option.map_eq_some_iff] at hplace
    obtain ⟨old, hold, rfl⟩ := hplace
    have hkeeps := h old (List.mem_of_getElem? hold)
    split
    · exact hf old hkeeps
    · exact hkeeps
  intro l hl
  cases s with
  | create =>
    rcases List.mem_append.1 hl with hl | hl
    · exact h l hl
    · rw [List.mem_singleton.1 hl]
      exact LoggedRouter.new_keeps
  | copy source =>
    rcases List.mem_append.1 hl with hl | hl
    · exact h l hl
    · exact h l (List.mem_of_getElem? (Option.mem_toList.1 hl))
  | change target s => exact hmodify target _ (fun l hkeeps => hkeeps.step s) l hl
  | registerIn target group method pattern handler =>
    exact hmodify target _ (fun l hkeeps => hkeeps.registerIn group method pattern handler) l hl

theorem keeps_run {family : List LoggedRouter} (h : ∀ l ∈ family, l.Keeps)
    (steps : List FamilyStep) : ∀ l ∈ run family steps, l.Keeps := by
  induction steps generalizing family with
  | nil => exact h
  | cons s rest ih => exact ih (keeps_step h s)

end RouterFamily

/-- What the routes of a router are, by the log of those that were registered. -/
structure Router.Lists (r : Router) (log : List RouteEntry) : Prop where
  keys : r.entries.map RouteEntry.key = (log.map RouteEntry.key).eraseDups
  latest : ∀ e ∈ r.entries, latestBy? RouteEntry.key log e.key = some e
  terminals : r.terminals.Perm (r.entries.map RouteEntry.terminal)
  length : r.entries.length = (r.tries.map fun p => p.2.size).sum
  replaced : ∀ method pattern entry old,
    ((r.trie method).insert pattern entry).1 = .ok (some old) →
      r.entries.find? (fun e => e.serial == old.serial) = some old
  resolved : ∀ method path route, r.resolve method path = .found route → route.entry ∈ r.entries

theorem LoggedRouter.Keeps.lists {l : LoggedRouter} (h : l.Keeps) : l.router.Lists l.log := by
  obtain ⟨history, hfollows, hlog⟩ := h
  rw [← hlog]
  exact
    { keys := by rw [hfollows.entries, listingBy_keys]
      latest := fun e he => hfollows.mem_entries_iff.1 he
      terminals := hfollows.terminals_perm
      length := hfollows.length_entries
      replaced := fun method pattern entry old hold => hfollows.find?_replaced hold
      resolved := fun method path route hroute => hfollows.resolve_mem hroute }

/-- Of every router that can be made, by registrations that are accepted or refused and by copies
at any time. -/
theorem RouterFamily.lists_run (steps : List FamilyStep) :
    ∀ l ∈ run [] steps, l.router.Lists l.log := fun l hl =>
  (keeps_run (fun _ hl => absurd hl List.not_mem_nil) steps l hl).lists

theorem RouterFamily.lists_run_of_copy :
    let view : Handler := .endpoint "view" fun scope _ => (.ok, scope)
    let edit : Handler := .endpoint "edit" fun scope _ => (.ok, scope)
    let steps : List FamilyStep :=
      [.create, .change 0 (.register .get "/users/:id" [] [view]),
        .change 0 (.register .get "users" [] [view]), .copy 0,
        .change 1 (.register .get "/users//:id/" [] [edit]),
        .registerIn 1 { base := "/api" } .get "/" view]
    ∃ first second, run [] steps = [first, second] ∧
      first.router.entries.map (fun e => (e.pattern, e.name)) = [("/users/:id", "view")] ∧
      second.router.entries.map (fun e => (e.pattern, e.name)) =
        [("/users//:id/", "edit"), ("/api", "view")] ∧
      first.router.Lists first.log ∧ second.router.Lists second.log := by
  intro view edit steps
  have hlists := lists_run steps
  refine ⟨_, _, rfl, rfl, rfl, hlists _ ?_, hlists _ ?_⟩
  · exact List.mem_cons_self
  · exact List.mem_cons_of_mem _ List.mem_cons_self

end RequestRouting
