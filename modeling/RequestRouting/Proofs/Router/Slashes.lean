import Mathlib.Data.List.Chain
import RequestRouting.Proofs.Router.Prefixes

/-!
# Slashes in the texts of routes

A group trims its prefix, and joins it with one slash to what comes behind. The texts of the routes
of nested groups have no doubled slash, and no prefix ends in a slash, unless the two outermost
groups were opened with no more than a slash each.
-/

set_option autoImplicit false

namespace RequestRouting

def Undoubled (text : String) : Prop := text.toList.IsChain fun c d => ¬ (c = '/' ∧ d = '/')

instance (text : String) : Decidable (Undoubled text) :=
  inferInstanceAs (Decidable (text.toList.IsChain _))

theorem undoubled_append {outer inner : String} : Undoubled (outer ++ inner) ↔
    Undoubled outer ∧ Undoubled inner ∧
      ¬ (outer.toList.getLast? = some '/' ∧ inner.toList.head? = some '/') := by
  rw [Undoubled, String.toList_append, List.isChain_append]
  refine and_congr_right fun _ => and_congr_right fun _ => ?_
  constructor
  · rintro hmeet ⟨hlast, hhead⟩
    exact hmeet '/' hlast '/' hhead ⟨rfl, rfl⟩
  · rintro hnot c hc d hd ⟨rfl, rfl⟩
    exact hnot ⟨hc, hd⟩

theorem not_undoubled_slash_append {text : String} (h : text.toList.head? = some '/') :
    ¬ Undoubled ("/" ++ text) := fun hundoubled =>
  (undoubled_append.1 hundoubled).2.2 ⟨rfl, h⟩

namespace RouteGroup

def Blank (base : String) : Prop := base = "" ∨ base = "/"

/-- A prefix that is empty, or starts with a slash and doubles none; there may be one at its end. -/
def Plain (base : String) : Prop :=
  base = "" ∨ base = "/" ∨ base.toList.head? = some '/' ∧ Undoubled base

def BeginsBlank : List String → Prop
  | outer :: inner :: _ => Blank outer ∧ Blank inner
  | _ => False

/-- Parts, each with a slash in front of it and none behind. -/
structure Smooth (text : String) : Prop where
  head : ∀ c ∈ text.toList.head?, c = '/'
  undoubled : Undoubled text
  last : text.toList.getLast? ≠ some '/'

variable {g : RouteGroup} {bases : List String} {base rest inner pattern : String}

theorem Plain.head (h : Plain base) : ∀ c ∈ base.toList.head?, c = '/' := by
  intro c hc
  rcases h with rfl | rfl | ⟨hhead, -⟩
  · cases hc
  · exact (Option.some.inj hc).symm
  · rw [hhead] at hc
    exact (Option.some.inj hc).symm

theorem Plain.undoubled (h : Plain base) : Undoubled base := by
  rcases h with rfl | rfl | ⟨-, hundoubled⟩
  · decide
  · decide
  · exact hundoubled

theorem Plain.smooth_trimEnd (h : Plain base) : Smooth (Text.trimEnd '/' base) where
  head := (head_trimEnd base).2 h.head
  undoubled := by
    obtain ⟨n, hn⟩ := Text.trimEnd_append '/' base
    have hundoubled := h.undoubled
    rw [Undoubled, hn] at hundoubled
    exact hundoubled.left_of_append
  last := Text.getLast?_trimEnd_ne '/' base

theorem Plain.trimEnd_eq_empty_iff (h : Plain base) : Text.trimEnd '/' base = "" ↔ Blank base := by
  constructor
  · intro hempty
    obtain ⟨n, hn⟩ := Text.trimEnd_append '/' base
    rw [hempty, String.toList_empty, List.nil_append] at hn
    have hundoubled := h.undoubled
    rw [Undoubled, hn] at hundoubled
    match n, hn, hundoubled with
    | 0, hn, _ => exact .inl (String.toList_eq_nil_iff.1 hn)
    | 1, hn, _ => exact .inr (String.toList_inj.1 hn)
    | n + 2, _, hundoubled => exact absurd ⟨rfl, rfl⟩ (List.isChain_cons_cons.1 hundoubled).1
  · rintro (rfl | rfl) <;> decide

theorem Smooth.append (h : Smooth rest) (hinner : Smooth inner) : Smooth (rest ++ inner) where
  head c hc := by
    rw [String.toList_append, List.head?_append, Option.mem_def, Option.or_eq_some_iff] at hc
    rcases hc with hc | ⟨-, hc⟩
    · exact h.head c hc
    · exact hinner.head c hc
  undoubled := undoubled_append.2 ⟨h.undoubled, hinner.undoubled, fun hmeet => h.last hmeet.1⟩
  last hlast := by
    rw [String.toList_append, List.getLast?_append, Option.or_eq_some_iff] at hlast
    rcases hlast with hlast | ⟨-, hlast⟩
    · exact hinner.last hlast
    · exact h.last hlast

theorem Smooth.head?_eq (h : Smooth rest) (hne : rest ≠ "") : rest.toList.head? = some '/' := by
  cases hhead : rest.toList.head? with
  | none =>
    rw [List.head?_eq_none_iff, String.toList_eq_nil_iff] at hhead
    exact absurd hhead hne
  | some c => rw [h.head c hhead]

theorem beginsBlank_snoc (hne : bases ≠ []) :
    BeginsBlank (bases ++ [inner]) ↔
      BeginsBlank bases ∨ ∀ base ∈ bases ++ [inner], Blank base := by
  match bases with
  | [] => exact absurd rfl hne
  | [outer] => simp [BeginsBlank]
  | outer :: next :: more =>
    simp only [List.cons_append, BeginsBlank, List.forall_mem_cons]
    exact (or_iff_left_of_imp fun hall => ⟨hall.1, hall.2.1⟩).symm

theorem join_of_ne (hinner : inner ≠ "/") (hne : base ++ inner ≠ "") :
    join base inner = base ++ inner := by
  rw [ne_eq, String.append_eq_empty_iff] at hne
  rw [join]
  by_cases hbase : base = "" <;> by_cases hempty : inner = "" <;> simp_all

theorem join_of_empty (h : base ++ inner = "") : join base inner = "/" := by
  obtain ⟨rfl, rfl⟩ := String.append_eq_empty_iff.1 h
  rfl

/-- The base of a group by its prefixes: what they have in them, behind a slash of its own if the
two outermost have nothing. -/
structure Spelled (bases : List String) (base rest : String) : Prop where
  smooth : Smooth rest
  empty_iff : rest = "" ↔ ∀ b ∈ bases, Blank b
  blank : BeginsBlank bases → base = "/" ++ rest
  other : ¬ BeginsBlank bases → base = rest

theorem Plain.spelled (h : Plain base) :
    Spelled [base] (Text.trimEnd '/' base) (Text.trimEnd '/' base) where
  smooth := h.smooth_trimEnd
  empty_iff := by rw [h.trimEnd_eq_empty_iff, List.forall_mem_singleton]
  blank hblank := hblank.elim
  other _ := rfl

theorem Spelled.nested (h : Spelled bases base rest) (hne : bases ≠ []) (hinner : Plain inner) :
    Spelled (bases ++ [inner]) (join base (Text.trimEnd '/' inner))
      (rest ++ Text.trimEnd '/' inner) := by
  have hsmooth := hinner.smooth_trimEnd
  have hempty : rest ++ Text.trimEnd '/' inner = "" ↔ ∀ b ∈ bases ++ [inner], Blank b := by
    rw [String.append_eq_empty_iff, h.empty_iff, hinner.trimEnd_eq_empty_iff,
      List.forall_mem_append, List.forall_mem_singleton]
  have hslash : Text.trimEnd '/' inner ≠ "/" := fun heq => hsmooth.last (by rw [heq]; rfl)
  refine ⟨h.smooth.append hsmooth, hempty, ?_, ?_⟩
  · intro hblank
    by_cases hbegins : BeginsBlank bases
    · rw [h.blank hbegins, join_of_ne hslash (by simp), String.append_assoc]
    · have hall := ((beginsBlank_snoc hne).1 hblank).resolve_left hbegins
      rw [h.other hbegins, join_of_empty (hempty.2 hall), hempty.2 hall, String.append_empty]
  · intro hother
    rw [beginsBlank_snoc hne, not_or] at hother
    rw [h.other hother.1, join_of_ne hslash (mt hempty.1 hother.2)]

theorem OpenedBy.ne_nil (h : OpenedBy g bases) : bases ≠ [] := by
  induction h with
  | outermost base => exact List.cons_ne_nil _ _
  | nested _ base _ => exact List.append_ne_nil_of_right_ne_nil _ (List.cons_ne_nil _ _)
  | use _ middleware ih => exact ih

theorem OpenedBy.spelled (h : OpenedBy g bases) (hbases : ∀ base ∈ bases, Plain base) :
    ∃ rest, Spelled bases g.base rest := by
  induction h with
  | outermost base => exact ⟨_, (hbases base (List.mem_singleton_self base)).spelled⟩
  | @nested parent outer hparent inner ih =>
    obtain ⟨houter, hinner⟩ := List.forall_mem_append.1 hbases
    obtain ⟨rest, hrest⟩ := ih houter
    exact ⟨_, hrest.nested hparent.ne_nil (hinner inner (List.mem_singleton_self inner))⟩
  | use _ middleware ih => exact ih hbases

theorem Spelled.ends_in_slash_iff (h : Spelled bases base rest) :
    base.toList.getLast? = some '/' ↔ BeginsBlank bases ∧ ∀ b ∈ bases, Blank b := by
  rw [← h.empty_iff]
  by_cases hbegins : BeginsBlank bases
  · rw [h.blank hbegins, and_iff_right hbegins, String.toList_append, List.getLast?_append]
    constructor
    · intro hlast
      by_contra hne
      obtain ⟨c, hc⟩ := Option.ne_none_iff_exists'.1 (mt List.getLast?_eq_none_iff.1
        (mt String.toList_eq_nil_iff.1 hne))
      rw [hc, Option.some_or] at hlast
      exact h.smooth.last (hc.trans hlast)
    · rintro rfl
      rfl
  · rw [h.other hbegins]
    exact iff_of_false h.smooth.last fun hblank => hbegins hblank.1

theorem Spelled.undoubled_join_iff (h : Spelled bases base rest)
    (hpattern : pattern.toList.head? = some '/') (hundoubled : Undoubled pattern) :
    Undoubled (join base pattern) ↔
      ¬ (BeginsBlank bases ∧ ∃ text ∈ bases ++ [pattern], ¬ Blank text) := by
  have hpatternBlank : Blank pattern ↔ pattern = "/" :=
    or_iff_right (by rintro rfl; cases hpattern)
  have hfollows : (∃ text ∈ bases ++ [pattern], ¬ Blank text) ↔ ¬ (rest = "" ∧ pattern = "/") := by
    rw [h.empty_iff, ← hpatternBlank, ← List.forall_mem_singleton (p := Blank) (a := pattern),
      ← List.forall_mem_append]
    simp only [not_forall, exists_prop]
  rw [hfollows]
  by_cases hbegins : BeginsBlank bases
  · rw [h.blank hbegins, and_iff_right hbegins, not_not]
    by_cases hslash : pattern = "/"
    · have hjoin : join ("/" ++ rest) pattern = "/" ++ rest := by simp [join, hslash]
      rw [hjoin, and_iff_left hslash]
      constructor
      · intro htext
        by_contra hne
        exact not_undoubled_slash_append (h.smooth.head?_eq hne) htext
      · rintro rfl
        decide
    · have hhead : (rest ++ pattern).toList.head? = some '/' := by
        rw [String.toList_append, List.head?_append, hpattern]
        cases hrest : rest.toList.head? with
        | none => rfl
        | some c => rw [h.smooth.head c hrest]; rfl
      rw [join_of_ne hslash (by simp), String.append_assoc]
      exact iff_of_false (not_undoubled_slash_append hhead) fun hboth => hslash hboth.2
  · rw [h.other hbegins]
    refine iff_of_true ?_ fun hboth => hbegins hboth.1
    by_cases hslash : pattern = "/"
    · have hjoin : join rest pattern = if rest = "" then "/" else rest := by simp [join, hslash]
      rw [hjoin]
      split
      · decide
      · exact h.smooth.undoubled
    · have hne : rest ++ pattern ≠ "" := by
        rintro hempty
        rw [(String.append_eq_empty_iff.1 hempty).2] at hpattern
        cases hpattern
      rw [join_of_ne hslash hne]
      exact undoubled_append.2 ⟨h.smooth.undoubled, hundoubled, fun hmeet => h.smooth.last hmeet.1⟩

/-- Of every router that can be made and all plain prefixes, one within another: the innermost
prefix ends in a slash just if all are blank, and a route has a doubled slash just if the two
outermost are and something follows. -/
theorem spelled_without_doubling (steps : List FamilyStep) {l : LoggedRouter}
    (hl : l ∈ RouterFamily.run [] steps) (hg : g.OpenedBy bases)
    (hbases : ∀ base ∈ bases, Plain base) :
    (g.base.toList.getLast? = some '/' ↔ BeginsBlank bases ∧ ∀ base ∈ bases, Blank base) ∧
      ∀ method pattern handler, pattern.toList.head? = some '/' → Undoubled pattern →
        (g.register l.router method pattern handler).1 = .ok () →
          ∃ e, (l.registerIn g method pattern handler).log = l.log ++ [e] ∧
            e ∈ (l.registerIn g method pattern handler).router.entries ∧ e.method = method ∧
            (Undoubled e.pattern ↔
              ¬ (BeginsBlank bases ∧ ∃ text ∈ bases ++ [pattern], ¬ Blank text)) := by
  obtain ⟨rest, hspelled⟩ := hg.spelled hbases
  refine ⟨hspelled.ends_in_slash_iff, fun method pattern handler hhead hundoubled hok => ?_⟩
  obtain ⟨e, hlog, hlisted, hmethod, hpattern⟩ := RouterFamily.lists_registered steps hl hok
  refine ⟨e, hlog, hlisted, hmethod, ?_⟩
  rw [hpattern]
  exact hspelled.undoubled_join_iff hhead hundoubled

theorem spelled_without_doubling_of_trailing :
    let bases := ["/", "/api/", "", "/v1/"]
    OpenedBy ⟨"/api/v1", [.tracing]⟩ bases ∧ (∀ base ∈ bases, Plain base) ∧
      ¬ BeginsBlank bases ∧ "/api/v1".toList.getLast? ≠ some '/' ∧
      ∃ e, (LoggedRouter.registerIn {} ⟨"/api/v1", [.tracing]⟩ .get "/users/:id/"
          (Echo.handler "user")).log = [e] ∧
        e.pattern = "/api/v1/users/:id/" ∧ Undoubled e.pattern := by
  intro bases
  have hg : OpenedBy ⟨"/api/v1", [.tracing]⟩ bases :=
    ((((OpenedBy.outermost "/").nested "/api/").nested "").nested "/v1/").use .tracing
  have hl : ({} : LoggedRouter) ∈ RouterFamily.run [] [.create] := List.mem_cons_self
  have hbases : ∀ base ∈ bases, Plain base := by
    simp only [bases, List.forall_mem_cons, Plain]
    decide
  have hother : ¬ BeginsBlank bases := by
    simp [bases, BeginsBlank, Blank]
  obtain ⟨hends, hroutes⟩ := spelled_without_doubling [.create] hl hg hbases
  obtain ⟨e, hlog, -, -, htext⟩ := hroutes .get "/users/:id/" (Echo.handler "user")
    (by decide) (by decide) rfl
  have hpattern : e.pattern = "/api/v1/users/:id/" :=
    congrArg RouteEntry.pattern (List.singleton_inj.1 hlog).symm
  exact ⟨hg, hbases, hother, fun hlast => hother (hends.1 hlast).1, e, hlog, hpattern,
    htext.2 fun hboth => hother hboth.1⟩

/-- A group within another, both opened with a slash: the inner one has a slash for its prefix, and
its routes have two. -/
theorem doubled_below_slashes :
    let g := (ofBase "/").nested "/"
    let result := g.register {} .get "/users" (Echo.handler "users")
    OpenedBy g ["/", "/"] ∧ Plain "/" ∧ g.base.toList.getLast? = some '/' ∧
      result.1 = .ok () ∧ result.2.entries.map (·.pattern) = ["//users"] ∧
      Undoubled "/users" ∧ ¬ Undoubled "//users" :=
  ⟨(OpenedBy.outermost "/").nested "/", .inr (.inl rfl), by decide, rfl, rfl, by decide, by decide⟩

end RouteGroup

end RequestRouting
