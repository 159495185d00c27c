import RequestRouting.Echo
import RequestRouting.Proofs.Pattern.Joining
import RequestRouting.Proofs.Router.Family

/-!
# The prefixes of nested groups

A route that is registered through a nested group has the parts of the prefixes that the group was
opened by, from the outermost on, and then those of its own pattern, unless a prefix without a slash
in front was put behind one that has parts.
-/

set_option autoImplicit false

namespace RequestRouting

namespace RouteGroup

/-- The group was opened by these prefixes, one within another, and given its middleware at any
time. -/
inductive OpenedBy : RouteGroup → List String → Prop where
  | outermost (base : String) : OpenedBy (.ofBase base) [base]
  | nested {g : RouteGroup} {bases : List String} (hparent : OpenedBy g bases) (base : String) :
      OpenedBy (g.nested base) (bases ++ [base])
  | use {g : RouteGroup} {bases : List String} (hgroup : OpenedBy g bases) (middleware : Handler) :
      OpenedBy (g.use middleware) bases

/-- The inner prefix starts a part of its own behind the outer one. -/
def Separate (outer inner : String) : Prop :=
  pathParts outer = [] ∨ ∀ c ∈ inner.toList.head?, c = '/'

inductive Trimmed : String → Prop where
  | empty : Trimmed ""
  | slash : Trimmed "/"
  | ends {base : String} {c : Char} (hlast : base.toList.getLast? = some c) (hc : c ≠ '/') :
      Trimmed base

theorem trimmed_trimEnd (base : String) : Trimmed (Text.trimEnd '/' base) := by
  cases hlast : (Text.trimEnd '/' base).toList.getLast? with
  | none =>
    rw [List.getLast?_eq_none_iff, String.toList_eq_nil_iff] at hlast
    rw [hlast]
    exact .empty
  | some c =>
    refine .ends hlast ?_
    rintro rfl
    exact Text.getLast?_trimEnd_ne '/' base hlast

theorem Trimmed.parts_eq_nil_iff {base : String} (h : Trimmed base) :
    pathParts base = [] ↔ base = "" ∨ base = "/" := by
  cases h with
  | empty => decide
  | slash => decide
  | @ends _ c hlast hc =>
    have hpos := length_pathParts_pos hlast hc
    rw [String.ofList_toList] at hpos
    constructor
    · intro hnil
      rw [hnil] at hpos
      cases hpos
    · rintro (rfl | rfl)
      · cases hlast
      · exact absurd (Option.some.inj hlast).symm hc

variable {g : RouteGroup} {bases : List String} {base inner : String}

theorem not_blank_of_head (hinner : ¬ ∀ c ∈ inner.toList.head?, c = '/') :
    ¬ (inner = "/" ∨ inner = "") := by
  rintro (rfl | rfl)
  · exact hinner (by simp)
  · exact hinner (by simp)

theorem parts_join_of_slash (base : String) (hinner : ∀ c ∈ inner.toList.head?, c = '/') :
    pathParts (join base inner) = pathParts base ++ pathParts inner := by
  rw [join]
  split
  · subst base
    split
    · rename_i hnone
      obtain rfl | rfl := hnone <;> decide
    · rfl
  · split
    · rename_i hnone
      have hnil : pathParts inner = [] := by
        obtain rfl | rfl := hnone <;> decide
      rw [hnil, List.append_nil]
    · rename_i hsome
      cases hhead : inner.toList.head? with
      | none =>
        rw [List.head?_eq_none_iff, String.toList_eq_nil_iff] at hhead
        exact absurd (.inr hhead) hsome
      | some c =>
        obtain rfl : c = '/' := hinner c hhead
        exact pathParts_append_of_slash hhead

theorem parts_join_of_no_parts (hbase : Trimmed base) (hnil : pathParts base = []) :
    pathParts (join base inner) = pathParts inner := by
  by_cases hinner : ∀ c ∈ inner.toList.head?, c = '/'
  · rw [parts_join_of_slash base hinner, hnil, List.nil_append]
  · have hsome := not_blank_of_head hinner
    rw [join, if_neg hsome, if_neg hsome]
    rcases hbase.parts_eq_nil_iff.1 hnil with rfl | rfl
    · rfl
    · have hslash := pathParts_cons_slash inner.toList
      rw [String.ofList_toList] at hslash
      rw [← hslash, if_neg (by decide), String.ofList_cons, String.ofList_toList]
      rfl

theorem length_parts_join (hbase : Trimmed base) (hparts : pathParts base ≠ [])
    (hinner : ¬ ∀ c ∈ inner.toList.head?, c = '/') :
    (pathParts (join base inner)).length + 1 =
      (pathParts base).length + (pathParts inner).length := by
  have hsome := not_blank_of_head hinner
  simp only [not_forall] at hinner
  obtain ⟨d, hd, hne⟩ := hinner
  cases hbase with
  | empty => exact absurd rfl hparts
  | slash => exact absurd (by decide) hparts
  | @ends _ c hlast hc =>
    have hjoined := length_pathParts_append hlast hc hd hne
    have hbase : base ≠ "" := by
      rintro rfl
      cases hlast
    rw [join, if_neg hbase, if_neg hsome]
    simpa only [String.ofList_append, String.ofList_toList] using hjoined

theorem head_trimEnd (inner : String) : (∀ c ∈ (Text.trimEnd '/' inner).toList.head?, c = '/') ↔
    ∀ c ∈ inner.toList.head?, c = '/' := by
  obtain ⟨n, hn⟩ := Text.trimEnd_append '/' inner
  rw [hn]
  cases (Text.trimEnd '/' inner).toList with
  | nil => cases n <;> simp [List.replicate_succ]
  | cons c rest => rfl

theorem trimmed_join (hbase : Trimmed base) (inner : String) :
    Trimmed (join base (Text.trimEnd '/' inner)) := by
  have hne := Text.getLast?_trimEnd_ne '/' inner
  have htrimmed := trimmed_trimEnd inner
  rw [join]
  generalize Text.trimEnd '/' inner = trimmed at hne htrimmed
  cases htrimmed with
  | slash => exact absurd rfl hne
  | empty =>
    have hnone : "" = "/" ∨ "" = "" := .inr rfl
    rw [if_pos hnone, if_pos hnone]
    split
    · exact .slash
    · exact hbase
  | @ends _ c hlast hc =>
    have hsome : ¬ (trimmed = "/" ∨ trimmed = "") := by
      rintro (rfl | rfl)
      · exact hne rfl
      · cases hlast
    rw [if_neg hsome, if_neg hsome]
    split
    · exact .ends hlast hc
    · exact .ends (by rw [String.toList_append, List.getLast?_append, hlast]; rfl) hc

/-- What is said of the base of a group, given the prefixes that it was opened by. -/
structure Composed (base : String) (bases : List String) : Prop where
  trimmed : Trimmed base
  nil_iff : pathParts base = [] ↔ ∀ outer ∈ bases, pathParts outer = []
  length_le : (pathParts base).length ≤ (bases.flatMap pathParts).length
  eq_iff : pathParts base = bases.flatMap pathParts ↔ bases.Pairwise Separate

theorem composed_trimEnd (base : String) : Composed (Text.trimEnd '/' base) [base] where
  trimmed := trimmed_trimEnd base
  nil_iff := by rw [pathParts_trimEnd, List.forall_mem_singleton]
  length_le := by rw [pathParts_trimEnd, List.flatMap_singleton]
  eq_iff := by
    rw [pathParts_trimEnd, List.flatMap_singleton]
    exact iff_of_true rfl (List.pairwise_singleton _ _)

theorem Composed.join_separate (h : Composed base bases) (hseparate : Separate base inner) :
    Composed (join base (Text.trimEnd '/' inner)) (bases ++ [inner]) := by
  have hparts : pathParts (RouteGroup.join base (Text.trimEnd '/' inner)) =
      pathParts base ++ pathParts inner := by
    rw [← pathParts_trimEnd inner]
    rcases hseparate with hnil | hslash
    · rw [parts_join_of_no_parts h.trimmed hnil, hnil, List.nil_append]
    · exact parts_join_of_slash base ((head_trimEnd inner).2 hslash)
  refine ⟨trimmed_join h.trimmed inner, ?_, ?_, ?_⟩
  · rw [hparts, List.append_eq_nil_iff, h.nil_iff, List.forall_mem_append,
      List.forall_mem_singleton]
  · rw [hparts, List.flatMap_append, List.flatMap_singleton, List.length_append,
      List.length_append]
    exact Nat.add_le_add_right h.length_le _
  · rw [hparts, List.flatMap_append, List.flatMap_singleton, List.append_cancel_right_eq,
      h.eq_iff, List.pairwise_append]
    constructor
    · intro hpairwise
      refine ⟨hpairwise, List.pairwise_singleton _ _, fun outer houter last hlast => ?_⟩
      rw [List.mem_singleton.1 hlast]
      exact hseparate.imp_left fun hnil => h.nil_iff.1 hnil outer houter
    · exact And.left

theorem Composed.join_merged (h : Composed base bases) (hmerged : ¬ Separate base inner) :
    Composed (join base (Text.trimEnd '/' inner)) (bases ++ [inner]) := by
  rw [Separate, not_or] at hmerged
  obtain ⟨hparts, hinner⟩ := hmerged
  have hhead := mt (head_trimEnd inner).1 hinner
  have hinnerParts : pathParts inner ≠ [] := by
    rw [← pathParts_trimEnd]
    exact fun hnil =>
      not_blank_of_head hhead ((trimmed_trimEnd inner).parts_eq_nil_iff.1 hnil).symm
  obtain ⟨outer, houter, hne⟩ : ∃ outer ∈ bases, pathParts outer ≠ [] := by
    simpa only [not_forall, exists_prop] using mt h.nil_iff.2 hparts
  have hlength := length_parts_join h.trimmed hparts hhead
  rw [pathParts_trimEnd] at hlength
  have hle := h.length_le
  have hbasePos := List.length_pos_iff.2 hparts
  have hinnerPos := List.length_pos_iff.2 hinnerParts
  refine ⟨trimmed_join h.trimmed inner, ?_, ?_, ?_⟩
  · refine iff_of_false (fun hnil => ?_) fun hall => ?_
    · rw [hnil, List.length_nil] at hlength
      omega
    · exact hne (hall outer (List.mem_append_left _ houter))
  · rw [List.flatMap_append, List.flatMap_singleton, List.length_append]
    omega
  · refine iff_of_false (fun heq => ?_) fun hpairwise => ?_
    · rw [heq, List.flatMap_append, List.flatMap_singleton, List.length_append] at hlength
      omega
    · exact ((List.pairwise_append.1 hpairwise).2.2 outer houter inner
        (List.mem_singleton_self inner)).elim hne hinner

theorem OpenedBy.composed (h : OpenedBy g bases) : Composed g.base bases := by
  induction h with
  | outermost base => exact composed_trimEnd base
  | @nested parent _ _ inner ih =>
    by_cases hseparate : Separate parent.base inner
    · exact ih.join_separate hseparate
    · exact ih.join_merged hseparate
  | use _ middleware ih => exact ih

/-- What is registered through the group has the parts of all the prefixes, and then its own. -/
theorem OpenedBy.parts_iff (h : OpenedBy g bases) {pattern : String}
    (hpattern : pattern.toList.head? = some '/') :
    pathParts (RouteGroup.join g.base pattern) = bases.flatMap pathParts ++ pathParts pattern ↔
      bases.Pairwise Separate := by
  have hslash : ∀ c ∈ pattern.toList.head?, c = '/' := by
    rw [hpattern]
    exact fun c hc => (Option.some.inj hc).symm
  rw [parts_join_of_slash g.base hslash, List.append_cancel_right_eq, h.composed.eq_iff]

end RouteGroup

theorem LoggedRouter.Keeps.listed {l : LoggedRouter} (h : l.Keeps) {log : List RouteEntry}
    {e : RouteEntry} (hlog : l.log = log ++ [e]) : e ∈ l.router.entries := by
  obtain ⟨history, hfollows, hroutes⟩ := h
  rw [hfollows.mem_entries_iff, hroutes, hlog]
  exact latestBy?_append_self RouteEntry.key log e

theorem RouterFamily.lists_registered (steps : List FamilyStep) {l : LoggedRouter}
    (hl : l ∈ RouterFamily.run [] steps) {g : RouteGroup} {method : Method} {pattern : String}
    {handler : Handler} (hok : (g.register l.router method pattern handler).1 = .ok ()) :
    ∃ e, (l.registerIn g method pattern handler).log = l.log ++ [e] ∧
      e ∈ (l.registerIn g method pattern handler).router.entries ∧ e.method = method ∧
      e.pattern = RouteGroup.join g.base pattern := by
  have hkeeps := RouterFamily.keeps_run (fun _ hl => absurd hl List.not_mem_nil) steps l hl
  have hlog : (l.registerIn g method pattern handler).log = l.log ++
      [l.router.newEntry method (RouteGroup.join g.base pattern) g.middleware [handler]] := by
    rw [LoggedRouter.registerIn, hok]
    rfl
  exact ⟨_, hlog, (hkeeps.registerIn g method pattern handler).listed hlog, rfl, rfl⟩

/-- Of every router that can be made, through every group: a route is below all the prefixes just if
each of them is separate from those around it. -/
theorem RouteGroup.registers_below (steps : List FamilyStep) {l : LoggedRouter}
    (hl : l ∈ RouterFamily.run [] steps) {g : RouteGroup} {bases : List String}
    (hg : g.OpenedBy bases) (method : Method) (pattern : String) (handler : Handler)
    (hok : (g.register l.router method pattern handler).1 = .ok ()) :
    ∃ e, (l.registerIn g method pattern handler).log = l.log ++ [e] ∧
      e ∈ (l.registerIn g method pattern handler).router.entries ∧ e.method = method ∧
      (pathParts e.pattern = bases.flatMap pathParts ++ pathParts pattern ↔
        bases.Pairwise Separate) := by
  have hpattern : pattern.toList.head? = some '/' := by
    by_contra hnone
    rw [RouteGroup.register, if_neg hnone] at hok
    cases hok
  obtain ⟨e, hlog, hlisted, hmethod, htext⟩ := RouterFamily.lists_registered steps hl hok
  refine ⟨e, hlog, hlisted, hmethod, ?_⟩
  rw [htext]
  exact hg.parts_iff hpattern

theorem RouteGroup.registers_below_slashes :
    OpenedBy ⟨"/api/v1", [.tracing]⟩ ["/api/", "/", "/v1//"] ∧
      ∃ e, (LoggedRouter.registerIn {} ⟨"/api/v1", [.tracing]⟩ .get "/users/:id"
          (Echo.handler "user")).log = [e] ∧
        e.pattern = "/api/v1/users/:id" ∧ pathParts e.pattern = ["api", "v1", "users", ":id"] ∧
        (pathParts e.pattern = ["/api/", "/", "/v1//"].flatMap pathParts ++ pathParts "/users/:id" ↔
          ["/api/", "/", "/v1//"].Pairwise Separate) := by
  have hg : OpenedBy ⟨"/api/v1", [.tracing]⟩ ["/api/", "/", "/v1//"] :=
    (((OpenedBy.outermost "/api/").nested "/").nested "/v1//").use .tracing
  have hl : ({} : LoggedRouter) ∈ RouterFamily.run [] [.create] := List.mem_cons_self
  obtain ⟨e, hlog, -, -, hparts⟩ := registers_below [.create] hl hg .get "/users/:id"
    (Echo.handler "user") rfl
  have hpattern : e.pattern = "/api/v1/users/:id" :=
    congrArg RouteEntry.pattern (List.singleton_inj.1 hlog).symm
  exact ⟨hg, e, hlog, hpattern, by rw [hpattern]; decide, hparts⟩

/-- A prefix without a slash runs into the part before it. -/
theorem RouteGroup.registers_beside :
    let result := ((ofBase "/api").nested "v1").register {} .get "/users" (Echo.handler "users")
    result.1 = .ok () ∧ result.2.entries.map (·.pattern) = ["/apiv1/users"] ∧
      pathParts "/apiv1/users" ≠ ["/api", "v1"].flatMap pathParts ++ pathParts "/users" :=
  ⟨rfl, rfl, by decide⟩

end RequestRouting
