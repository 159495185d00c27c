import RequestRouting.Proofs.Router.Allowed
import RequestRouting.Proofs.Router.Listing
import RequestRouting.RouteGroup

/-!
# Routers that answer alike

A router is seen through the replies to calls and through what it reports meanwhile. Routers that
differ in nothing but tries without routes reply and report alike, and go on to do so; such are the
routers before and after a registration that is refused.
-/

set_option autoImplicit false

namespace RequestRouting

inductive RouterCall where
  | configure (config : RuntimeConfig)
  | use (middleware : Handler)
  | register (method : Method) (pattern : String) (handler : Handler)
  | registerWith (method : Method) (pattern : String) (middleware handlers : List Handler)
  | registerIn (group : RouteGroup) (method : Method) (pattern : String) (handler : Handler)
  | resolve (method : Method) (path : String)
  | routes
  | count
  | pathPatterns

inductive RouterReply where
  | done
  | registered (result : Except PatternError Unit)
  | resolved (lookup : RouteLookup)
  | routes (entries : List RouteEntry)
  | count (length : Nat)
  | patterns (patterns : List String)

namespace Router

def call (r : Router) : RouterCall → RouterReply × Router
  | .configure config => (.done, r.configure config)
  | .use middleware => (.done, r.use middleware)
  | .register method pattern handler =>
    let result := r.register method pattern handler
    (.registered result.1, result.2)
  | .registerWith method pattern middleware handlers =>
    let result := r.registerWith method pattern middleware handlers
    (.registered result.1, result.2)
  | .registerIn group method pattern handler =>
    let result := group.register r method pattern handler
    (.registered result.1, result.2)
  | .resolve method path => (.resolved (r.resolve method path), r)
  | .routes => (.routes r.entries, r)
  | .count => (.count r.entries.length, r)
  | .pathPatterns => (.patterns r.pathPatterns, r)

def reported (r : Router) : RouterCall → List Event
  | .use middleware => r.useEvents middleware
  | .register method pattern handler => r.registerEvents method pattern [] [handler]
  | .registerWith method pattern middleware handlers =>
    r.registerEvents method pattern middleware handlers
  | .registerIn group method pattern handler => group.registerEvents r method pattern handler
  | .resolve method path => r.resolveEvents method path
  | _ => []

def after (r : Router) (calls : List RouterCall) : Router := calls.foldl (fun r c => (r.call c).2) r

def replies (r : Router) : List RouterCall → List (RouterReply × List Event)
  | [] => []
  | c :: rest => ((r.call c).1, r.reported c) :: (r.call c).2.replies rest

structure Alike (r s : Router) : Prop where
  left : r.Keyed
  right : s.Keyed
  tries : ∀ method, r.trie method = s.trie method
  entries : r.entries = s.entries
  middleware : r.middleware = s.middleware
  headFallback : r.headFallback = s.headFallback
  slowMatchThreshold : r.slowMatchThreshold = s.slowMatchThreshold
  nextSerial : r.nextSerial = s.nextSerial

section

variable {r s : Router}

theorem Keyed.registerWith (h : r.Keyed) (method : Method) (pattern : String)
    (middleware handlers : List Handler) :
    (r.registerWith method pattern middleware handlers).2.Keyed :=
  h.step (.register method pattern middleware handlers)

theorem Keyed.call (h : r.Keyed) (c : RouterCall) : (r.call c).2.Keyed := by
  cases c with
  | register method pattern handler => exact h.registerWith method pattern [] [handler]
  | registerWith method pattern middleware handlers =>
    exact h.registerWith method pattern middleware handlers
  | registerIn group method pattern handler =>
    rw [Router.call, RouteGroup.register]
    split
    · exact h.registerWith method _ group.middleware [handler]
    · exact h
  | _ => exact h

theorem Keyed.after (h : r.Keyed) (calls : List RouterCall) : (r.after calls).Keyed := by
  induction calls generalizing r with
  | nil => exact h
  | cons c rest ih => exact ih (h.call c)

theorem trie_putTrie (r : Router) (method m : Method) (t : PathTrie RouteEntry) :
    ((putTrie method t r.tries).lookup m).getD .empty = if m = method then t else r.trie m := by
  rw [lookup_putTrie, trie]
  by_cases hm : m = method
  · simp [hm]
  · simp [hm]

theorem alike_of_refused (h : r.Keyed) {method : Method} {pattern : String}
    {middleware handlers : List Handler} {e : PatternError}
    (hrefused : (r.registerWith method pattern middleware handlers).1 = .error e) :
    Alike (r.registerWith method pattern middleware handlers).2 r := by
  have hkeyed := h.registerWith method pattern middleware handlers
  rcases PathTrie.insert_cases (r.trie method) pattern
    (r.newEntry method pattern middleware handlers) with
    ⟨error, hinsert, -⟩ | ⟨_, -, -, -, -, hinsert⟩
  · rw [Router.registerWith, hinsert] at hkeyed ⊢
    refine ⟨hkeyed, h, fun m => ?_, rfl, rfl, rfl, rfl, rfl⟩
    rw [trie, trie_putTrie]
    by_cases hm : m = method
    · rw [if_pos hm, hm]
    · rw [if_neg hm]
  · rw [Router.registerWith, hinsert] at hrefused
    cases hrefused

namespace Alike

variable (h : Alike r s)

include h

theorem newEntry (method : Method) (pattern : String) (middleware handlers : List Handler) :
    r.newEntry method pattern middleware handlers =
      s.newEntry method pattern middleware handlers := by
  rw [Router.newEntry, Router.newEntry, h.nextSerial, h.middleware]

theorem registerWith (method : Method) (pattern : String) (middleware handlers : List Handler) :
    (r.registerWith method pattern middleware handlers).1 =
        (s.registerWith method pattern middleware handlers).1 ∧
      Alike (r.registerWith method pattern middleware handlers).2
        (s.registerWith method pattern middleware handlers).2 := by
  have hleft := h.left.registerWith method pattern middleware handlers
  have hright := h.right.registerWith method pattern middleware handlers
  have htries : ∀ t m, ((putTrie method t r.tries).lookup m).getD .empty =
      ((putTrie method t s.tries).lookup m).getD .empty := by
    intro t m
    rw [trie_putTrie, trie_putTrie, h.tries]
  rw [Router.registerWith, h.newEntry, h.tries method] at hleft ⊢
  rw [Router.registerWith] at hright ⊢
  generalize (s.trie method).insert pattern (s.newEntry method pattern middleware handlers) =
    inserted at hleft hright ⊢
  obtain ⟨result, t⟩ := inserted
  cases result with
  | error e =>
    exact ⟨rfl, hleft, hright, htries t, h.entries, h.middleware, h.headFallback,
      h.slowMatchThreshold, h.nextSerial⟩
  | ok replaced =>
    refine ⟨rfl, hleft, hright, htries t, ?_, h.middleware, h.headFallback,
      h.slowMatchThreshold, ?_⟩
    · simp only [h.entries]
    · simp only [h.nextSerial]

theorem search (method : Method) (path : String) : r.search method path = s.search method path := by
  rw [Router.search, Router.search, h.tries]

theorem mem_otherMethods (method m : Method) (path : String) :
    m ∈ r.otherMethods method path ↔ m ∈ s.otherMethods method path := by
  rw [h.left.mem_otherMethods, h.right.mem_otherMethods, Serves, Serves, h.tries]

theorem resolve (method : Method) (path : String) :
    r.resolve method path = s.resolve method path := by
  have hempty : (r.otherMethods method path).isEmpty = (s.otherMethods method path).isEmpty := by
    rw [Bool.eq_iff_iff, List.isEmpty_iff, List.isEmpty_iff, List.eq_nil_iff_forall_not_mem,
      List.eq_nil_iff_forall_not_mem]
    simp only [h.mem_otherMethods]
  have hallowed := AllowedMethods.ofMethods_congr s.headFallback
    fun m => h.mem_otherMethods method m path
  unfold Router.resolve
  simp only [h.search, h.headFallback, hempty, hallowed]

theorem registerEvents (method : Method) (pattern : String) (middleware handlers : List Handler) :
    r.registerEvents method pattern middleware handlers =
      s.registerEvents method pattern middleware handlers := by
  unfold Router.registerEvents
  simp only [h.newEntry, h.tries]

theorem reported (c : RouterCall) : r.reported c = s.reported c := by
  cases c with
  | use middleware => simp only [Router.reported, useEvents, h.entries]
  | register method pattern handler => exact h.registerEvents method pattern [] [handler]
  | registerWith method pattern middleware handlers =>
    exact h.registerEvents method pattern middleware handlers
  | registerIn group method pattern handler =>
    simp only [Router.reported, RouteGroup.registerEvents, h.registerEvents]
  | resolve method path => simp only [Router.reported, resolveEvents, h.resolve]
  | _ => rfl

theorem call (c : RouterCall) : (r.call c).1 = (s.call c).1 ∧ Alike (r.call c).2 (s.call c).2 := by
  cases c with
  | configure config =>
    exact ⟨rfl, h.left, h.right, h.tries, h.entries, h.middleware, rfl, rfl, h.nextSerial⟩
  | use middleware =>
    refine ⟨rfl, h.left, h.right, h.tries, h.entries, ?_, h.headFallback, h.slowMatchThreshold,
      h.nextSerial⟩
    simp only [Router.call, use, h.middleware]
  | register method pattern handler =>
    obtain ⟨hresult, hnext⟩ := h.registerWith method pattern [] [handler]
    exact ⟨congrArg RouterReply.registered hresult, hnext⟩
  | registerWith method pattern middleware handlers =>
    obtain ⟨hresult, hnext⟩ := h.registerWith method pattern middleware handlers
    exact ⟨congrArg RouterReply.registered hresult, hnext⟩
  | registerIn group method pattern handler =>
    rw [Router.call, Router.call, RouteGroup.register, RouteGroup.register]
    by_cases hslash : pattern.toList.head? = some '/'
    · rw [if_pos hslash, if_pos hslash]
      obtain ⟨hresult, hnext⟩ := h.registerWith method (RouteGroup.join group.base pattern)
        group.middleware [handler]
      exact ⟨congrArg RouterReply.registered hresult, hnext⟩
    · rw [if_neg hslash, if_neg hslash]
      exact ⟨rfl, h⟩
  | resolve method path => exact ⟨congrArg RouterReply.resolved (h.resolve method path), h⟩
  | routes => exact ⟨congrArg RouterReply.routes h.entries, h⟩
  | count =>
    refine ⟨?_, h⟩
    simp only [Router.call, h.entries]
  | pathPatterns =>
    refine ⟨?_, h⟩
    simp only [Router.call, pathPatterns, h.entries]

theorem replies (calls : List RouterCall) : r.replies calls = s.replies calls := by
  induction calls generalizing r s with
  | nil => rfl
  | cons c rest ih =>
    obtain ⟨hreply, hnext⟩ := h.call c
    rw [Router.replies, Router.replies, hreply, h.reported c, ih hnext]

end Alike

theorem alike_of_call_refused (h : r.Keyed) {c : RouterCall} {e : PatternError}
    (hrefused : (r.call c).1 = .registered (.error e)) : Alike (r.call c).2 r := by
  cases c with
  | register method pattern handler =>
    exact alike_of_refused h (RouterReply.registered.inj hrefused)
  | registerWith method pattern middleware handlers =>
    exact alike_of_refused h (RouterReply.registered.inj hrefused)
  | registerIn group method pattern handler =>
    rw [Router.call, RouteGroup.register] at hrefused ⊢
    by_cases hslash : pattern.toList.head? = some '/'
    · rw [if_pos hslash] at hrefused ⊢
      exact alike_of_refused h (RouterReply.registered.inj hrefused)
    · rw [if_neg hslash]
      exact ⟨h, h, fun _ => rfl, rfl, rfl, rfl, rfl, rfl⟩
  | _ => cases hrefused

end

/-- After any calls, a refused registration changes nothing about the replies to any others. -/
theorem refusal_unseen (before : List RouterCall) (refused : RouterCall) (e : PatternError)
    (hrefused : ((({} : Router).after before).call refused).1 = .registered (.error e))
    (later : List RouterCall) :
    ((({} : Router).after before).call refused).2.replies later =
      (({} : Router).after before).replies later :=
  (alike_of_call_refused (new_keyed.after before) hrefused).replies later

theorem refusal_unseen_of_new_method :
    let before : List RouterCall := [.register .get "/items" .tracing]
    let refused : RouterCall := .register .post "/items/\x7bid" .tracing
    let later : List RouterCall := [.resolve .post "/items", .resolve .head "/items",
      .register .post "/items" .tracing, .resolve .put "/items", .routes, .count]
    let r := ({} : Router).after before
    (r.call refused).1 = .registered (.error ⟨"/items/\x7bid", .malformedSegment "\x7bid"⟩) ∧
      (r.call refused).2.tries.map (·.1) = [.get, .post] ∧ r.tries.map (·.1) = [.get] ∧
      (r.call refused).2.replies later = r.replies later := by
  intro before refused later r
  have hrefused : (r.call refused).1 =
      .registered (.error ⟨"/items/\x7bid", .malformedSegment "\x7bid"⟩) := rfl
  exact ⟨hrefused, rfl, rfl, refusal_unseen before refused _ hrefused later⟩

end Router

end RequestRouting
