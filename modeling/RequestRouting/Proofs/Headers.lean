import RequestRouting.Proofs.LatestByKey
import RequestRouting.Response

/-!
# Headers that are set one after the other

Setting a header takes away all headers with its name, and puts it at the end. After any number of
calls the headers that no call was for are as they were, in front of the latest call for each name.
-/

set_option autoImplicit false

namespace RequestRouting

namespace Headers

def key (h : String × String) : String := Text.lower h.1

def has (headers : Headers) (name : String) : Bool := headers.any fun h => Text.sameName h.1 name

def setAll (headers calls : Headers) : Headers :=
  calls.foldl (fun sofar call => sofar.set call.1 call.2) headers

variable {calls : Headers} {name spelling : String}

theorem filter_set (headers : Headers) (name value : String) :
    (headers.set name value).filter (fun h => Text.sameName h.1 name) = [(name, value)] := by
  have hothers : (headers.filter fun h => !Text.sameName h.1 name).filter
      (fun h => Text.sameName h.1 name) = [] := by
    rw [List.filter_filter, List.filter_eq_nil_iff]
    intro h _
    cases Text.sameName h.1 name <;> simp
  rw [set, List.filter_append, hothers, List.nil_append]
  simp [Text.sameName_refl]

theorem get?_eq_head? (headers : Headers) (name : String) : headers.get? name =
    (headers.filter fun h => Text.sameName h.1 name).head?.map (·.2) := by
  rw [get?, List.head?_filter]

theorem get?_of_sameName (headers : Headers) (h : Text.sameName spelling name = true) :
    headers.get? spelling = headers.get? name := by
  rw [Text.sameName_iff] at h
  rw [get?, get?]
  simp only [Text.sameName, h]

theorem has_of_sameName (h : Text.sameName spelling name = true) :
    calls.has spelling = calls.has name := by
  rw [Text.sameName_iff] at h
  rw [has, has]
  simp only [Text.sameName, h]

theorem has_append_singleton (calls : Headers) (call : String × String) (name : String) :
    has (calls ++ [call]) name = (calls.has name || Text.sameName call.1 name) := by
  simp [has]

theorem setAll_append_singleton (headers calls : Headers) (call : String × String) :
    headers.setAll (calls ++ [call]) = (headers.setAll calls).set call.1 call.2 :=
  List.foldl_concat ..

theorem setAll_eq (headers calls : Headers) :
    headers.setAll calls = headers.filter (fun h => !calls.has h.1) ++ recentBy key calls := by
  induction calls using List.reverseRecOn with
  | nil => simp [setAll, has, recentBy]
  | append_singleton calls call ih =>
    have hkept : (headers.filter fun h => !has calls h.1).filter
        (fun h => !Text.sameName h.1 call.1) =
          headers.filter fun h => !has (calls ++ [call]) h.1 := by
      rw [List.filter_filter]
      refine List.filter_congr fun h _ => ?_
      rw [has_append_singleton, Text.sameName_comm call.1, Bool.not_or, Bool.and_comm]
    rw [setAll_append_singleton, ih, set, List.filter_append, hkept, recentBy_append_singleton,
      List.append_assoc]
    rfl

theorem filter_setAll_of_has (headers : Headers) (h : calls.has name = true) :
    (headers.setAll calls).filter (fun h => Text.sameName h.1 name) =
      (latestBy? key calls (Text.lower name)).toList := by
  have hkept : (headers.filter fun h => !calls.has h.1).filter
      (fun h => Text.sameName h.1 name) = [] := by
    rw [List.filter_filter, List.filter_eq_nil_iff]
    intro other _
    by_cases hsame : Text.sameName other.1 name = true
    · simp [has_of_sameName hsame, h]
    · simp [hsame]
  rw [setAll_eq, List.filter_append, hkept, List.nil_append]
  exact filter_recentBy key calls (Text.lower name)

theorem filter_setAll_of_not_has (headers : Headers) (h : calls.has name = false) :
    (headers.setAll calls).filter (fun h => Text.sameName h.1 name) =
      headers.filter fun h => Text.sameName h.1 name := by
  have hset : (recentBy key calls).filter (fun h => Text.sameName h.1 name) = [] := by
    refine List.filter_eq_nil_iff.2 fun call hcall => ?_
    exact List.any_eq_false.1 h call ((recentBy_sublist key calls).subset hcall)
  rw [setAll_eq, List.filter_append, hset, List.append_nil, List.filter_filter]
  refine List.filter_congr fun other _ => ?_
  by_cases hsame : Text.sameName other.1 name = true
  · simp [has_of_sameName hsame, h]
  · simp [hsame]

theorem latestBy?_of_has (h : calls.has name = true) :
    ∃ call, latestBy? key calls (Text.lower name) = some call := by
  obtain ⟨call, hcall, hsame⟩ := List.any_eq_true.1 h
  refine Option.isSome_iff_exists.1 (latestBy?_isSome_iff.2 ?_)
  exact Text.sameName_iff.1 hsame ▸ List.mem_map_of_mem hcall

end Headers

namespace Response

def setHeaders (r : Response) (calls : Headers) : Response :=
  calls.foldl (fun sofar call => sofar.setHeader call.1 call.2) r

theorem setHeaders_eq (r : Response) (calls : Headers) :
    r.setHeaders calls = { r with headers := r.headers.setAll calls } := by
  induction calls generalizing r with
  | nil => rfl
  | cons call later ih => exact ih (r.setHeader call.1 call.2)

/-- Whatever headers there were before, several with the same name included. -/
theorem latest_headers_stand (r : Response) (calls : Headers) :
    let after := r.setHeaders calls
    after.headers =
      r.headers.filter (fun h => !calls.has h.1) ++ recentBy Headers.key calls ∧
    (∀ name, calls.has name = true → ∃ call,
      latestBy? Headers.key calls (Text.lower name) = some call ∧
      after.headers.filter (fun h => Text.sameName h.1 name) = [call] ∧
      ∀ spelling, Text.sameName spelling name = true →
        after.getHeader? spelling = some call.2) ∧
    (∀ name, calls.has name = false →
      after.headers.filter (fun h => Text.sameName h.1 name) =
        r.headers.filter (fun h => Text.sameName h.1 name) ∧
      after.getHeader? name = r.getHeader? name) ∧
    after.status = r.status ∧ after.body = r.body := by
  intro after
  have hafter : after = { r with headers := r.headers.setAll calls } := r.setHeaders_eq calls
  rw [hafter]
  refine ⟨Headers.setAll_eq _ _, fun name hset => ?_, fun name hunset => ?_, rfl, rfl⟩
  · obtain ⟨call, hlatest⟩ := Headers.latestBy?_of_has hset
    have honce : (r.headers.setAll calls).filter (fun h => Text.sameName h.1 name) = [call] := by
      rw [Headers.filter_setAll_of_has r.headers hset, hlatest, Option.toList_some]
    refine ⟨call, hlatest, honce, fun spelling hsame => ?_⟩
    rw [getHeader?, Headers.get?_of_sameName _ hsame, Headers.get?_eq_head?, honce]
    rfl
  · have hkept := Headers.filter_setAll_of_not_has r.headers hunset
    refine ⟨hkept, ?_⟩
    rw [getHeader?, Headers.get?_eq_head?, hkept, ← Headers.get?_eq_head?]
    rfl

example : (setHeaders ⟨200, [("A", "1"), ("Via", "2"), ("a", "3"), ("via", "4")], .null⟩
    [("b", "5"), ("VIA", "6"), ("B", "7"), ("c", "8"), ("b", "9")]).headers =
      [("A", "1"), ("a", "3"), ("VIA", "6"), ("c", "8"), ("b", "9")] := by decide

end Response

end RequestRouting
