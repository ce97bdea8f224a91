import ChangeRelay.Config.ResourceList
import Mathlib.Data.List.Forall2
import Mathlib.Data.List.Induction

/-!
# What comes of a resource list

A resource list is read segment by segment, and the first segment that names no
resource is its fault.  If every segment names one, the faults that are left
concern the list as a whole: it may be blank, or name both resources that serve
Event objects.
-/

namespace ChangeRelay.Config

/-- A segment of a list names this resource. -/
def Names (segment : String) (resource : Resource) : Prop :=
  resourceNamed? (foldName segment) = some resource

/-- What comes of a resource list. -/
inductive ListOutcome (text : String) : Except ConfigFault (List Resource) → Prop where
  | stranger {before later : List String} {segment : String}
      (split : namedSegments text = before ++ segment :: later)
      (known : ∀ earlier ∈ before, ∃ resource, Names earlier resource)
      (unknown : ∀ resource, ¬ Names segment resource) :
      ListOutcome text (.error (.unknownResource (foldName segment)))
  | nothing (blank : namedSegments text = []) : ListOutcome text (.error .noResources)
  | conflict {named : List Resource} (names : List.Forall₂ Names (namedSegments text) named)
      (core : .events ∈ named) (other : .eventsV1 ∈ named) :
      ListOutcome text (.error .conflictingEvents)
  | accepted {named : List Resource} (names : List.Forall₂ Names (namedSegments text) named)
      (something : named ≠ []) (compatible : ¬ (.events ∈ named ∧ .eventsV1 ∈ named)) :
      ListOutcome text (.ok named.eraseDups)

/-! ## Segments one by one -/

theorem readResource_of_names {segment : String} {resource : Resource}
    (names : Names segment resource) : readResource segment = .ok resource := by
  rw [readResource, names]

theorem readResource_of_unknown {segment : String}
    (unknown : ∀ resource, ¬ Names segment resource) :
    readResource segment = .error (.unknownResource (foldName segment)) := by
  rw [readResource, Option.eq_none_iff_forall_ne_some.mpr unknown]

theorem mapM_readResource_of_names {segments : List String} {named : List Resource}
    (names : List.Forall₂ Names segments named) : segments.mapM readResource = .ok named := by
  induction names with
  | nil => rfl
  | cons here _ ih =>
      rw [List.mapM_cons, readResource_of_names here, ih]
      rfl

theorem mapM_readResource_of_unknown {before later : List String} {segment : String}
    (known : ∀ earlier ∈ before, ∃ resource, Names earlier resource)
    (unknown : ∀ resource, ¬ Names segment resource) :
    (before ++ segment :: later).mapM readResource =
      .error (.unknownResource (foldName segment)) := by
  induction before with
  | nil =>
      rw [List.nil_append, List.mapM_cons, readResource_of_unknown unknown]
      rfl
  | cons earlier before ih =>
      obtain ⟨resource, names⟩ := known earlier List.mem_cons_self
      rw [List.cons_append, List.mapM_cons, readResource_of_names names,
        ih fun other member => known other (List.mem_cons_of_mem earlier member)]
      rfl

/-- Either every segment names a resource, or there is a first one that does not. -/
theorem exists_names_or_exists_unknown (segments : List String) :
    (∃ named, List.Forall₂ Names segments named) ∨
      ∃ before segment later, segments = before ++ segment :: later ∧
        (∀ earlier ∈ before, ∃ resource, Names earlier resource) ∧
        ∀ resource, ¬ Names segment resource := by
  induction segments with
  | nil => exact .inl ⟨[], .nil⟩
  | cons first rest ih =>
      by_cases names : ∃ resource, Names first resource
      · obtain ⟨resource, here⟩ := names
        rcases ih with ⟨named, others⟩ | ⟨before, segment, later, rfl, known, unknown⟩
        · exact .inl ⟨resource :: named, .cons here others⟩
        · refine .inr ⟨first :: before, segment, later, rfl, ?_, unknown⟩
          intro earlier member
          rcases List.mem_cons.mp member with rfl | member
          · exact ⟨resource, here⟩
          · exact known earlier member
      · exact .inr ⟨[], first, rest, rfl, nofun, not_exists.mp names⟩

/-! ## The list as a whole -/

theorem firstOccurrences_concat (resources : List Resource) (last : Resource) :
    firstOccurrences (resources ++ [last]) =
      if last ∈ firstOccurrences resources then firstOccurrences resources
      else firstOccurrences resources ++ [last] := by
  rw [firstOccurrences, List.foldl_append]
  rfl

theorem firstOccurrences_eq_eraseDups (resources : List Resource) :
    firstOccurrences resources = resources.eraseDups := by
  induction resources using List.reverseRecOn with
  | nil => rfl
  | append_singleton resources last ih =>
      rw [firstOccurrences_concat, ih, List.eraseDups_append]
      by_cases again : last ∈ resources
      · simp [again, List.removeAll]
      · simp [again, List.removeAll, List.eraseDups_cons]

theorem readResources_of_names {text : String} {named : List Resource}
    (names : List.Forall₂ Names (namedSegments text) named) :
    readResources text =
      if named = [] then .error .noResources
      else if .events ∈ named ∧ .eventsV1 ∈ named then .error .conflictingEvents
      else .ok named.eraseDups := by
  have blank : named.eraseDups.isEmpty = true ↔ named = [] := by
    cases named with
    | nil => simp
    | cons first rest => simp [List.eraseDups_cons]
  rw [readResources, mapM_readResource_of_names names]
  change (if (firstOccurrences named).isEmpty = true then _ else _) = _
  simp only [firstOccurrences_eq_eraseDups, blank, List.mem_eraseDups]
  rfl

theorem readResources_of_unknown {text : String} {before later : List String} {segment : String}
    (split : namedSegments text = before ++ segment :: later)
    (known : ∀ earlier ∈ before, ∃ resource, Names earlier resource)
    (unknown : ∀ resource, ¬ Names segment resource) :
    readResources text = .error (.unknownResource (foldName segment)) := by
  rw [readResources, split, mapM_readResource_of_unknown known unknown]
  rfl

/-- Reading a resource list comes to exactly what the list says. -/
theorem readResources_eq_iff (text : String) (outcome : Except ConfigFault (List Resource)) :
    readResources text = outcome ↔ ListOutcome text outcome := by
  constructor
  · rintro rfl
    rcases exists_names_or_exists_unknown (namedSegments text) with
      ⟨named, names⟩ | ⟨before, segment, later, split, known, unknown⟩
    · rw [readResources_of_names names]
      split
      next blank =>
        subst blank
        exact .nothing (List.forall₂_nil_right_iff.mp names)
      next something =>
        split
        next both => exact .conflict names both.1 both.2
        next compatible => exact .accepted names something compatible
    · rw [readResources_of_unknown split known unknown]
      exact .stranger split known unknown
  · intro comes
    cases comes with
    | stranger split known unknown => exact readResources_of_unknown split known unknown
    | nothing blank =>
        have names : List.Forall₂ Names (namedSegments text) [] := blank ▸ .nil
        rw [readResources_of_names names, if_pos rfl]
    | conflict names core other =>
        rw [readResources_of_names names, if_neg (List.ne_nil_of_mem core), if_pos ⟨core, other⟩]
    | accepted names something compatible =>
        rw [readResources_of_names names, if_neg something, if_neg compatible]

end ChangeRelay.Config
