import RequestRouting.Proofs.RouteTable.Construction
import RequestRouting.Proofs.SharedRouter.Stability

/-!
# Tables row by row

A table is worked off in its order: middleware first, and then the rows. It brings to a router all
that it has in front of the first name or row that fails, and the failure says why.
-/

set_option autoImplicit false

namespace RequestRouting

def Pattern.RivalsAt (existing segment : String) (raws others : List String) : Prop :=
  ∃ lead, raws = lead ++ [existing] ∧ others = lead ++ [segment] ∧ IsCatchAll existing ∧
    IsCatchAll segment ∧ existing ≠ segment

theorem Pattern.RivalsAt.rivals {existing segment : String} {raws others : List String}
    (h : RivalsAt existing segment raws others) : Rivals raws others := by
  obtain ⟨lead, hraws, hothers, hexisting, hsegment, hne⟩ := h
  exact ⟨lead, existing, segment, hraws, hothers, hexisting, hsegment, hne⟩

/-- The first of the names that no handler has. -/
def HandlerRegistry.FirstUnknown (registry : HandlerRegistry) (names : List String)
    (name : String) : Prop :=
  ∃ before later, names = before ++ name :: later ∧
    (∀ known ∈ before, (registry.get? known).isSome = true) ∧ registry.get? name = none

/-- Why the router cannot register the row. -/
inductive RowFault.Arises (registry : HandlerRegistry) (r : Router) (s : RouteSpec) :
    RowFault → Prop where
  | method (hmethod : Method.isToken (Text.trim s.method) = false) :
      Arises registry r s (.method ⟨s.method⟩)
  | name {name : String} (hmethod : Method.isToken (Text.trim s.method) = true)
      (hname : registry.FirstUnknown s.names name) : Arises registry r s (.unknownHandler name)
  | unreadable {e : PatternError} (hmethod : Method.isToken (Text.trim s.method) = true)
      (hnames : ∀ name ∈ s.names, (registry.get? name).isSome = true)
      (hparse : Pattern.parse s.path = .error e) : Arises registry r s (.pattern e)
  | conflict {e : RouteEntry} {existing segment : String} (hlegible : s.Legible registry)
      (hentry : e ∈ r.entries) (hmethod : e.method.token = s.token)
      (hrivals : Pattern.RivalsAt existing segment (pathParts e.pattern) (pathParts s.path)) :
      Arises registry r s (.pattern ⟨s.path, .conflictingCatchAll segment existing⟩)

def RouteTable.ResolvedRow.call (row : ResolvedRow) : RouterCall :=
  .registerWith row.method row.path row.middleware [row.handler]

inductive Router.AcceptsRows (registry : HandlerRegistry) :
    Router → List RouteSpec → List RouterCall → Prop where
  | nil {r : Router} : AcceptsRows registry r [] []
  | cons {r : Router} {s : RouteSpec} {rest : List RouteSpec} {calls : List RouterCall}
      {row : RouteTable.ResolvedRow} (hfaultless : ∀ fault, ¬ RowFault.Arises registry r s fault)
      (hrow : RouteTable.resolveRow registry s = .ok row)
      (haccepted : (r.call row.call).1 = .registered (.ok ()))
      (hrest : AcceptsRows registry (r.call row.call).2 rest calls) :
      AcceptsRows registry r (s :: rest) (row.call :: calls)

/-- What a table makes of a router, and how it ends: with all done, at the first unknown name of
middleware, or at the first row for which a fault arises. -/
inductive Router.Extension (registry : HandlerRegistry) (r : Router) (t : RouteTable) :
    Except TableError Unit → Router → Prop where
  | complete {handlers : List Handler} {calls : List RouterCall}
      (hnames : t.middleware.map registry.get? = handlers.map some)
      (hrows : AcceptsRows registry (r.after (handlers.map .use)) t.routes calls) :
      Extension registry r t (.ok ()) (r.after (handlers.map .use ++ calls))
  | unknown {before later : List String} {name : String} {handlers : List Handler}
      (hsplit : t.middleware = before ++ name :: later)
      (hnames : before.map registry.get? = handlers.map some)
      (hunknown : registry.get? name = none) :
      Extension registry r t (.error (.middleware name))
        { r with middleware := r.middleware ++ handlers }
  | refused {handlers : List Handler} {before later : List RouteSpec} {s : RouteSpec}
      {calls : List RouterCall} {fault : RowFault} {last : Router}
      (hnames : t.middleware.map registry.get? = handlers.map some)
      (hsplit : t.routes = before ++ s :: later)
      (hrows : AcceptsRows registry (r.after (handlers.map .use)) before calls)
      (hfault : fault.Arises registry (r.after (handlers.map .use ++ calls)) s)
      (hseen : ∀ more, last.replies more =
        (r.after (handlers.map .use ++ calls)).replies more) :
      Extension registry r t (.error (.row before.length s.method s.path fault)) last

theorem Method.read_error {s : String} {e : Invalid} (h : read s = .error e) :
    e = ⟨s⟩ ∧ isToken (Text.trim s) = false := by
  constructor
  · unfold read at h
    split at h
    · cases h
    · exact (Except.error.inj h).symm
  · rw [← Bool.not_eq_true, ← exists_read_iff]
    rintro ⟨m, hm⟩
    rw [hm] at h
    cases h

namespace RouteTable

variable {registry : HandlerRegistry}

theorem resolveNames_error {names : List String} {name : String}
    (h : resolveNames registry names = .error name) : registry.FirstUnknown names name := by
  induction names with
  | nil => cases h
  | cons first rest ih =>
    rw [resolveNames] at h
    cases hfirst : registry.get? first with
    | none =>
      rw [hfirst] at h
      cases h
      exact ⟨[], rest, rfl, fun _ hmem => absurd hmem List.not_mem_nil, hfirst⟩
    | some handler =>
      rw [hfirst] at h
      cases hrest : resolveNames registry rest with
      | ok handlers =>
        rw [hrest] at h
        cases h
      | error other =>
        rw [hrest] at h
        cases h
        obtain ⟨before, later, hsplit, hbefore, hunknown⟩ := ih hrest
        refine ⟨first :: before, later, by rw [hsplit, List.cons_append], ?_, hunknown⟩
        exact List.forall_mem_cons.mpr ⟨by rw [hfirst]; rfl, hbefore⟩

theorem resolveRow_error {s : RouteSpec} {fault : RowFault}
    (h : resolveRow registry s = .error fault) (r : Router) : fault.Arises registry r s := by
  unfold resolveRow at h
  split at h
  · rename_i e hmethod
    cases h
    obtain ⟨rfl, htoken⟩ := Method.read_error hmethod
    exact .method htoken
  · rename_i method hmethod
    have htoken := Method.exists_read_iff.mp ⟨method, hmethod⟩
    split at h
    · rename_i name hnames
      cases h
      obtain ⟨before, later, hsplit, hknown⟩ := resolveNames_error hnames
      refine .name htoken ⟨before, later ++ [s.handler], ?_, hknown⟩
      rw [RouteSpec.names, hsplit, List.append_assoc, List.cons_append]
    · rename_i middleware hnames
      split at h
      · rename_i hhandler
        cases h
        refine .name htoken ⟨s.middleware, [], rfl, ?_, hhandler⟩
        exact exists_handlers_iff.mp ⟨middleware, resolveNames_ok_iff.mp hnames⟩
      · cases h

end RouteTable

namespace Router

variable {registry : HandlerRegistry} {r : Router} {history : History RouteEntry}
  {s : RouteSpec}

theorem after_append (r : Router) (first second : List RouterCall) :
    r.after (first ++ second) = (r.after first).after second := List.foldl_append

theorem after_use (r : Router) (handlers : List Handler) :
    r.after (handlers.map .use) = { r with middleware := r.middleware ++ handlers } := by
  induction handlers generalizing r with
  | nil => rw [List.append_nil, List.map_nil, after, List.foldl_nil]
  | cons h rest ih =>
    refine (ih (r.use h)).trans ?_
    rw [use, List.append_assoc, List.singleton_append]

theorem Follows.registerWith_fault (h : r.Follows history) {method : Method} {pattern : String}
    {middleware handlers : List Handler} {e : PatternError}
    (hrefused : (r.registerWith method pattern middleware handlers).1 = .error e) :
    Pattern.parse pattern = .error e ∨ (∃ parts, Pattern.parse pattern = .ok parts) ∧
      ∃ entry ∈ r.entries, entry.method = method ∧ ∃ existing segment,
        Pattern.RivalsAt existing segment (pathParts entry.pattern) (pathParts pattern) ∧
          e = ⟨pattern, .conflictingCatchAll segment existing⟩ := by
  rcases (h.tries method).insert_courses pattern
      (r.newEntry method pattern middleware handlers) with ⟨fault, hparse, -, hinsert⟩ |
    ⟨parts, last, existing, hparse, honly, hinsert⟩ | ⟨parts, previous, -, -, hinsert⟩
  · rw [Router.registerWith, hinsert] at hrefused
    cases hrefused
    exact .inl hparse
  · rw [Router.registerWith, hinsert] at hrefused
    obtain ⟨-, hraws, hwell, -⟩ := Pattern.parse_spec hparse
    obtain ⟨lead, rfl, hlast, hne, x, hx, p, hparts, hp, rfl⟩ :=
      (honly last existing).mpr ⟨rfl, rfl⟩
    obtain ⟨y, hlatest⟩ :=
      Option.isSome_iff_exists.mp (History.latest?_isSome_iff.mpr ⟨x, hx, rfl⟩)
    obtain ⟨hmem, hsame⟩ := History.latest?_eq_some hlatest
    obtain ⟨hlog, hmethod⟩ := History.mem_ofMethod.mp hmem
    have hexisting := Pattern.isCatchAll_raw (x.wellFormed.read p (by simp [hparts])) hp
    have hsegment := Pattern.isCatchAll_raw (hwell.read last (by simp)) hlast
    refine .inr ⟨⟨_, hparse⟩, y.value, h.value_mem_entries (hsame ▸ hlatest), hmethod, p.raw,
      last.raw, ⟨lead.map (·.raw), ?_, ?_, hexisting, hsegment, hne⟩,
      (Except.error.inj hrefused).symm⟩
    · rw [h.patterns y hlog, ← y.raws_eq, hsame, Registration.raws, hparts, List.map_append,
        List.map_singleton]
    · rw [← hraws, List.map_append, List.map_singleton]
  · rw [(registerWith_ok_iff ..).mpr ⟨previous, hinsert⟩] at hrefused
    cases hrefused

theorem Follows.not_arises (h : r.Follows history)
    (hok : (r.registerRow registry s).1 = .ok ()) (fault : RowFault) :
    ¬ fault.Arises registry r s := by
  obtain ⟨hlegible, hfree⟩ := (h.registerRow_ok_iff s).mp hok
  intro harises
  cases harises with
  | method hmethod =>
    rw [hlegible.method] at hmethod
    cases hmethod
  | name hmethod hname =>
    obtain ⟨before, later, hsplit, -, hunknown⟩ := hname
    have hknown := hlegible.names _ (hsplit ▸ List.mem_append_right before List.mem_cons_self)
    rw [hunknown] at hknown
    cases hknown
  | unreadable hmethod hnames hparse =>
    obtain ⟨parts, hparts⟩ := hlegible.path
    rw [hparts] at hparse
    cases hparse
  | conflict hlegible hentry hmethod hrivals =>
    have hlogged := (latestBy?_eq_some (h.mem_entries_iff.mp hentry)).1
    exact hfree _ hlogged ⟨hmethod, hrivals.rivals⟩

theorem Keyed.alike_self (h : r.Keyed) : Alike r r :=
  ⟨h, h, fun _ => rfl, rfl, rfl, rfl, rfl, rfl⟩

theorem Follows.registerRow_cases (h : r.Follows history) (registry : HandlerRegistry)
    (s : RouteSpec) :
    (∃ row, RouteTable.resolveRow registry s = .ok row ∧
      (∀ fault, ¬ RowFault.Arises registry r s fault) ∧
      (r.call row.call).1 = .registered (.ok ()) ∧
      r.registerRow registry s = (.ok (), (r.call row.call).2)) ∨
    ∃ fault last, RowFault.Arises registry r s fault ∧ Alike last r ∧
      r.registerRow registry s = (.error fault, last) := by
  cases hrow : RouteTable.resolveRow registry s with
  | error fault =>
    exact .inr ⟨fault, r, RouteTable.resolveRow_error hrow r, h.keyed.alike_self,
      registerRow_of_error hrow⟩
  | ok row =>
    have hregister := registerRow_of_ok (r := r) hrow
    cases hresult : (r.registerWith row.method row.path row.middleware [row.handler]).1 with
    | ok done =>
      rw [hresult] at hregister
      exact .inl ⟨row, rfl, h.not_arises (congrArg Prod.fst hregister),
        congrArg RouterReply.registered hresult, hregister⟩
    | error e =>
      rw [hresult] at hregister
      refine .inr ⟨.pattern e, _, ?_, alike_of_refused h.keyed hresult, hregister⟩
      obtain ⟨hmethod, hnames⟩ := (RouteTable.exists_resolveRow_iff registry s).mp ⟨row, hrow⟩
      obtain ⟨htoken, hpath, -, -⟩ := RouteTable.resolveRow_ok_iff.mp hrow
      rcases h.registerWith_fault hresult with hparse |
        ⟨hparse, entry, hentry, hsame, existing, segment, hrivals, rfl⟩
      · exact .unreadable hmethod hnames (hpath ▸ hparse)
      · rw [hpath] at hparse hrivals ⊢
        exact .conflict ⟨hmethod, hnames, hparse⟩ hentry (hsame ▸ htoken) hrivals

theorem Follows.registerRows_cases (h : r.Follows history) (registry : HandlerRegistry)
    (index : Nat) (rows : List RouteSpec) :
    (∃ calls, AcceptsRows registry r rows calls ∧
      Router.registerRows registry index rows r = (.ok (), r.after calls)) ∨
    ∃ before s later calls fault last, rows = before ++ s :: later ∧
      AcceptsRows registry r before calls ∧ RowFault.Arises registry (r.after calls) s fault ∧
        Alike last (r.after calls) ∧ Router.registerRows registry index rows r =
          (.error (.row (index + before.length) s.method s.path fault), last) := by
  induction rows generalizing r history index with
  | nil => exact .inl ⟨[], .nil, rfl⟩
  | cons s rest ih =>
    rw [registerRows_cons]
    rcases h.registerRow_cases registry s with ⟨row, hrow, hfaultless, haccepted, hregistered⟩ |
      ⟨fault, last, harises, halike, hregistered⟩
    · obtain ⟨history', hnext, -⟩ :=
        h.registerWith row.method row.path row.middleware [row.handler]
      rw [hregistered]
      rcases ih hnext (index + 1) with ⟨calls, hrows, hdone⟩ |
        ⟨before, s', later, calls, fault, last, hsplit, hrows, harises, halike, hdone⟩
      · exact .inl ⟨row.call :: calls, .cons hfaultless hrow haccepted hrows, hdone⟩
      · refine .inr ⟨s :: before, s', later, row.call :: calls, fault, last,
          by rw [hsplit, List.cons_append], .cons hfaultless hrow haccepted hrows, harises, halike,
          hdone.trans ?_⟩
        rw [List.length_cons, Nat.add_assoc, Nat.add_comm 1]
    · rw [hregistered]
      exact .inr ⟨[], s, rest, [], fault, last, rfl, .nil, harises, halike, rfl⟩

theorem useNames_cases (registry : HandlerRegistry) (names : List String) (r : Router) :
    (∃ handlers : List Handler, names.map registry.get? = handlers.map some ∧
      useNames registry names r = (.ok (), r.after (handlers.map RouterCall.use))) ∨
    ∃ (before : List String) (name : String) (later : List String) (handlers : List Handler),
      names = before ++ name :: later ∧
      before.map registry.get? = handlers.map some ∧ registry.get? name = none ∧
        useNames registry names r = (.error (.middleware name), r.after (handlers.map .use)) := by
  induction names generalizing r with
  | nil => exact .inl ⟨[], rfl, rfl⟩
  | cons first rest ih =>
    rw [useNames]
    cases hfirst : registry.get? first with
    | none => exact .inr ⟨[], first, rest, [], rfl, rfl, hfirst, rfl⟩
    | some handler =>
      rcases ih (r.use handler) with ⟨handlers, hnames, hdone⟩ |
        ⟨before, name, later, handlers, hsplit, hnames, hunknown, hdone⟩
      · refine .inl ⟨handler :: handlers, ?_, hdone⟩
        rw [List.map_cons, List.map_cons, hfirst, hnames]
      · refine .inr ⟨first :: before, name, later, handler :: handlers,
          by rw [hsplit, List.cons_append], ?_, hunknown, hdone⟩
        rw [List.map_cons, List.map_cons, hfirst, hnames]

theorem Follows.extension (h : r.Follows history) (t : RouteTable) (registry : HandlerRegistry) :
    Extension registry r t (r.extend t registry).1 (r.extend t registry).2 := by
  rw [Router.extend]
  rcases useNames_cases registry t.middleware r with ⟨handlers, hnames, hdone⟩ |
    ⟨before, name, later, handlers, hsplit, hnames, hunknown, hdone⟩
  · rw [hdone]
    have hinstalled : (r.after (handlers.map .use)).Follows history := by
      rw [after_use]
      exact ⟨h.keyed, h.patterns, h.tries, h.entries, h.serials, h.serial_lt⟩
    dsimp only
    rcases hinstalled.registerRows_cases registry 0 t.routes with ⟨calls, hrows, hall⟩ |
      ⟨before, s, later, calls, fault, last, hsplit, hrows, harises, halike, hall⟩
    · rw [hall, ← after_append]
      exact .complete hnames hrows
    · rw [hall, Nat.zero_add]
      rw [← after_append] at harises halike
      exact .refused hnames hsplit hrows harises halike.replies
  · rw [hdone, after_use]
    exact .unknown hsplit hnames hunknown

/-- Whatever the router and the table. In a shared router a table that fails is not seen at all. -/
theorem Built.extends_by_rows {r : Router} (hbuilt : r.Built) (t : RouteTable)
    (registry : HandlerRegistry) :
    Extension registry r t (r.extend t registry).1 (r.extend t registry).2 ∧
      ∀ s : SharedRouter, s.load = r →
        (s.update fun r => r.extend t registry).1 = (r.extend t registry).1 ∧
          ∀ e, (r.extend t registry).1 = .error e →
            (s.update fun r => r.extend t registry).2 = s := by
  obtain ⟨history, hfollows⟩ := hbuilt.follows
  refine ⟨hfollows.extension t registry, fun s hload => ?_⟩
  subst hload
  rcases s.update_cases fun r => r.extend t registry with ⟨hok, hnext⟩ | ⟨e, herror, hnext⟩
  · rw [hnext]
    refine ⟨hok.symm, fun e herror => ?_⟩
    rw [hok] at herror
    cases herror
  · rw [hnext]
    exact ⟨herror.symm, fun _ _ => rfl⟩

theorem Built.extends_by_rows_up_to_second :
    let r := ({} : Router).run [.register .get "/files/*path" [] [.tracing]]
    let registry : HandlerRegistry := ⟨[], some .tracing⟩
    let t : RouteTable := ⟨["trace"], [⟨" get", "/a", "first", []⟩,
      ⟨"put", "/items/\x7b", "second", ["guard"]⟩, ⟨"", "/files/*rest", "third", []⟩]⟩
    let s := SharedRouter.new r
    let result := r.extend t registry
    r.Built ∧ result.1 = .error (.row 1 "put" "/items/\x7b"
        (.pattern ⟨"/items/\x7b", .malformedSegment "\x7b"⟩)) ∧
      result.2.tries.map (·.1) = [.get, .put] ∧
      result.2.entries.map (·.pattern) = ["/files/*path", "/a"] ∧
      Extension registry r t result.1 result.2 ∧
      (s.update fun r => r.extend t registry).2 = s := by
  intro r registry t s result
  have hbuilt : r.Built := ⟨_, rfl⟩
  have herror : result.1 = .error (.row 1 "put" "/items/\x7b"
      (.pattern ⟨"/items/\x7b", .malformedSegment "\x7b"⟩)) := rfl
  obtain ⟨hextension, hshared⟩ := hbuilt.extends_by_rows t registry
  exact ⟨hbuilt, herror, rfl, rfl, hextension, (hshared s rfl).2 _ herror⟩

end Router

end RequestRouting
