import RequestRouting.Dispatcher
import RequestRouting.Proofs.Router.Registration

/-!
# Revisions of shared routers

A revision registers routes and installs middleware in a copy of the published router. It may look
at the copy at any time, go on as it likes after a registration that was refused, and fail at the
end; then nothing of it is published.
-/

set_option autoImplicit false

namespace RequestRouting

/-- A change to a router that only registers routes and installs middleware. -/
inductive Revision (ε : Type) where
  | finish (result : Except ε Unit)
  | read (next : Router → Revision ε)
  | use (middleware : Handler) (next : Revision ε)
  | register (method : Method) (pattern : String) (middleware handlers : List Handler)
      (next : Except PatternError Unit → Revision ε)

namespace Revision

variable {ε : Type} {r : Router} {history : History RouteEntry}

def run : Revision ε → Router → Except ε Unit × Router
  | finish result, r => (result, r)
  | read next, r => (next r).run r
  | use middleware next, r => next.run (r.use middleware)
  | register method pattern middleware handlers next, r =>
    let result := r.registerWith method pattern middleware handlers
    (next result.1).run result.2

def registered : Revision ε → Router → List RouteEntry
  | finish _, _ => []
  | read next, r => (next r).registered r
  | use middleware next, r => next.registered (r.use middleware)
  | register method pattern middleware handlers next, r =>
    let result := r.registerWith method pattern middleware handlers
    Router.record [] (r.newEntry method pattern middleware handlers) result.1 ++
      (next result.1).registered result.2

theorem follows (revision : Revision ε) (h : r.Follows history) :
    ∃ history', (revision.run r).2.Follows history' := by
  induction revision generalizing r history with
  | finish result => exact ⟨history, h⟩
  | read next ih => exact ih r h
  | use middleware next ih => exact ih (h.use middleware)
  | register method pattern middleware handlers next ih =>
    obtain ⟨history', hfollows, -⟩ := h.registerWith method pattern middleware handlers
    exact ih _ hfollows

theorem retains (revision : Revision ε) (h : r.Follows history) :
    r.Retains (revision.run r).2 (revision.registered r) := by
  induction revision generalizing r history with
  | finish result => exact .of_resolve (fun _ _ => rfl) _
  | read next ih => exact ih r h
  | use middleware next ih =>
    have hsame : r.Retains (r.use middleware) [] := .of_resolve (fun _ _ => rfl) []
    exact hsame.trans (ih (h.use middleware))
  | register method pattern middleware handlers next ih =>
    obtain ⟨history', hfollows, -⟩ := h.registerWith method pattern middleware handlers
    exact (h.retains_registerWith method pattern middleware handlers).trans (ih _ hfollows)

end Revision

inductive SharedGrowth : Type 1 where
  | register (method : Method) (pattern : String) (handler : Handler)
  | update {ε : Type} (revision : Revision ε)
  | load
  | resolve (method : Method) (path : String)

inductive SharedStep : Type 1 where
  | grow (growth : SharedGrowth)
  | configure (config : RuntimeConfig)
  | serve (config : RuntimeConfig)
  | replace (table : Router)

namespace SharedRouter

def grow (s : SharedRouter) : SharedGrowth → SharedRouter
  | .register method pattern handler => (s.register method pattern handler).2
  | .update revision => (s.update revision.run).2
  | .load => s
  | .resolve _ _ => s

def step (s : SharedRouter) : SharedStep → SharedRouter
  | .grow growth => s.grow growth
  | .configure config => s.configure config
  | .serve config => (Dispatcher.ofShared s config).router
  | .replace table => s.replace table

def run (s : SharedRouter) (steps : List SharedStep) : SharedRouter := steps.foldl step s

theorem update_cases {ε : Type} (s : SharedRouter) (change : Router → Except ε Unit × Router) :
    ((change s.load).1 = .ok () ∧
        s.update change = (.ok (), { s with current := (change s.load).2 })) ∨
      ∃ e, (change s.load).1 = .error e ∧ s.update change = (.error e, s) := by
  rw [update, load]
  rcases change s.current with ⟨e | done, r⟩
  · exact .inr ⟨e, rfl, rfl⟩
  · exact .inl ⟨rfl, rfl⟩

theorem register_eq_update (s : SharedRouter) (method : Method) (pattern : String)
    (handler : Handler) : s.register method pattern handler =
      s.update (Revision.register method pattern [] [handler] .finish).run := rfl

end SharedRouter

end RequestRouting
