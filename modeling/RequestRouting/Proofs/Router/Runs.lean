import RequestRouting.Proofs.DistinctKeys
import RequestRouting.Router

/-!
# Runs of router operations

A router is built up by a sequence of settings, middleware and registrations, in any order. Its
tries are kept under pairwise different methods throughout.
-/

set_option autoImplicit false

namespace RequestRouting

inductive RouterStep where
  | configure (config : RuntimeConfig)
  | use (middleware : Handler)
  | register (method : Method) (pattern : String) (middleware handlers : List Handler)

namespace Router

def step (r : Router) : RouterStep → Router
  | .configure config => r.configure config
  | .use middleware => r.use middleware
  | .register method pattern middleware handlers =>
    (r.registerWith method pattern middleware handlers).2

def run (r : Router) : List RouterStep → Router
  | [] => r
  | s :: rest => (r.step s).run rest

def Keyed (r : Router) : Prop := (r.tries.map (·.1)).Nodup

theorem mem_putTrie {method m : Method} {t : PathTrie RouteEntry}
    {tries : List (Method × PathTrie RouteEntry)} :
    m ∈ (putTrie method t tries).map (·.1) ↔ m = method ∨ m ∈ tries.map (·.1) := by
  induction tries with
  | nil => simp [putTrie]
  | cons first rest ih =>
    rw [putTrie]
    split
    · rename_i heq
      simp [heq]
    · rw [List.map_cons, List.mem_cons, ih, List.map_cons, List.mem_cons]
      tauto

theorem putTrie_nodup {tries : List (Method × PathTrie RouteEntry)}
    (h : (tries.map (·.1)).Nodup) (method : Method) (t : PathTrie RouteEntry) :
    ((putTrie method t tries).map (·.1)).Nodup := by
  induction tries with
  | nil => simp [putTrie]
  | cons first rest ih =>
    rw [List.map_cons, List.nodup_cons] at h
    rw [putTrie]
    split
    · exact List.nodup_cons.2 h
    · rename_i hne
      refine List.nodup_cons.2 ⟨?_, ih h.2⟩
      rw [mem_putTrie, not_or]
      exact ⟨hne, h.1⟩

theorem Keyed.step {r : Router} (h : r.Keyed) (s : RouterStep) : (r.step s).Keyed := by
  cases s with
  | configure config => exact h
  | use middleware => exact h
  | register method pattern middleware handlers =>
    have htries : (r.step (.register method pattern middleware handlers)).tries =
        putTrie method ((r.trie method).insert pattern
          (r.newEntry method pattern middleware handlers)).2 r.tries := by
      rw [Router.step, registerWith]
      split <;> rename_i heq <;> rw [heq]
    unfold Keyed
    rw [htries]
    exact putTrie_nodup h _ _

theorem Keyed.run {r : Router} (h : r.Keyed) (steps : List RouterStep) : (r.run steps).Keyed := by
  induction steps generalizing r with
  | nil => exact h
  | cons s rest ih => exact ih (h.step s)

theorem new_keyed : ({} : Router).Keyed := List.nodup_nil

theorem Keyed.trie_eq {r : Router} (h : r.Keyed) {method : Method} {t : PathTrie RouteEntry}
    (hmem : (method, t) ∈ r.tries) : r.trie method = t := by
  rw [trie, lookup_eq_some_of_nodup h hmem, Option.getD_some]

end Router

end RequestRouting
