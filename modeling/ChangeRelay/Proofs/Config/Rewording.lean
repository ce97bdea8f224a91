import ChangeRelay.Proofs.Config.Loading
import ChangeRelay.Proofs.Text.Parts
import Mathlib.Data.List.Nodup
import Mathlib.Logic.Relation

/-!
# Resource lists are read exactly

A resource list comes to the resources that its segments name, each of them once and
where it is named first, or to one fault: the first segment that names nothing goes
before the faults of the list as a whole.

What is accepted depends on the names only.  So a list can be reworded: blank
segments, white space, letter case, singulars and repetitions change nothing.
-/

namespace ChangeRelay.Config

/-! ## Names -/

/-- A resource is named by its name, and by its name without a final s. -/
theorem resourceNamed?_eq_some_iff {name : String} {resource : Resource} :
    resourceNamed? name = some resource ↔ name = resource.name ∨ name ++ "s" = resource.name := by
  constructor
  · intro named
    unfold resourceNamed? at named
    split at named <;> cases named <;> decide
  · rintro (rfl | singular)
    · cases resource <;> rfl
    · have stem : name = String.ofList resource.name.toList.dropLast := by
        rw [← singular, String.toList_append]
        simp
      subst stem
      cases resource with
      | eventsV1 => exact absurd singular (by decide)
      | _ => rfl

theorem names_iff {segment : String} {resource : Resource} :
    Names segment resource ↔
      Text.lower (Text.trim segment) = resource.name ∨
        Text.lower (Text.trim segment) ++ "s" = resource.name :=
  resourceNamed?_eq_some_iff

theorem isBlankText_iff {segment : String} :
    isBlankText segment = true ↔ Text.AllBlank segment :=
  List.all_eq_true

/-- The resource that a segment names, if it names one. -/
def resourceOf? (segment : String) : Option Resource :=
  resourceNamed? (foldName segment)

theorem resourceOf?_of_blank {segment : String} (blank : Text.AllBlank segment) :
    resourceOf? segment = none := by
  rw [resourceOf?, foldName, Text.trim_eq_empty_iff.mpr blank]
  rfl

theorem Names.not_blank {segment : String} {resource : Resource}
    (names : Names segment resource) : ¬ Text.AllBlank segment := by
  intro blank
  cases (resourceOf?_of_blank blank).symm.trans names

/-! ## The order of first occurrences -/

/-- A list holds what another list holds, each member once and in the order in which
the members first occur there. -/
structure FirstOccurrencesOf (named kept : List Resource) : Prop where
  distinct : kept.Nodup
  mem_iff : ∀ resource, resource ∈ kept ↔ resource ∈ named
  ordered : kept.Pairwise fun earlier later => named.idxOf earlier < named.idxOf later

/-- One more resource is kept exactly if it did not occur before; the positions of the
others stay what they were. -/
theorem FirstOccurrencesOf.concat {named kept : List Resource}
    (first : FirstOccurrencesOf named kept) (last : Resource) :
    FirstOccurrencesOf (named ++ [last]) (if last ∈ kept then kept else kept ++ [last]) := by
  have positions : kept.Pairwise fun earlier later =>
      (named ++ [last]).idxOf earlier < (named ++ [last]).idxOf later := by
    refine first.ordered.imp_of_mem ?_
    intro earlier later earlierKept laterKept before
    rw [List.idxOf_append_of_mem ((first.mem_iff _).mp earlierKept),
      List.idxOf_append_of_mem ((first.mem_iff _).mp laterKept)]
    exact before
  split
  next again =>
    refine ⟨first.distinct, fun resource => ?_, positions⟩
    rw [first.mem_iff, List.mem_append, List.mem_singleton]
    constructor
    · exact .inl
    · rintro (member | rfl)
      · exact member
      · exact (first.mem_iff _).mp again
  next new =>
    refine ⟨List.nodup_append.mpr ⟨first.distinct, List.nodup_singleton last, ?_⟩,
      fun resource => ?_, List.pairwise_append.mpr ⟨positions, List.pairwise_singleton _ _, ?_⟩⟩
    · intro resource member other isLast same
      rw [List.mem_singleton.mp isLast] at same
      exact new (same ▸ member)
    · rw [List.mem_append, List.mem_append, first.mem_iff]
    · intro earlier earlierKept later isLast
      have earlierNamed := (first.mem_iff _).mp earlierKept
      have notNamed : last ∉ named := fun member => new ((first.mem_iff _).mpr member)
      rw [List.mem_singleton.mp isLast, List.idxOf_append_of_mem earlierNamed,
        List.idxOf_append_of_notMem notNamed]
      exact Nat.lt_add_right _ (List.idxOf_lt_length_of_mem earlierNamed)

theorem firstOccurrences_spec (named : List Resource) :
    FirstOccurrencesOf named (firstOccurrences named) := by
  induction named using List.reverseRecOn with
  | nil => exact ⟨List.nodup_nil, fun _ => Iff.rfl, .nil⟩
  | append_singleton named last ih =>
      rw [firstOccurrences_concat]
      exact ih.concat last

/-! ## What a list comes to -/

/-- The outcome of reading a resource list, for every kind of list. -/
structure ReadExactly (text : String) (outcome : Except ConfigFault (List Resource)) : Prop where
  /-- The first segment that names nothing is the fault, whatever else is wrong. -/
  stranger : ∀ before segment later, namedSegments text = before ++ segment :: later →
    (∀ earlier ∈ before, ∃ resource, Names earlier resource) →
    (∀ resource, ¬ Names segment resource) →
      outcome = .error (.unknownResource (foldName segment))
  nothing : namedSegments text = [] → outcome = .error .noResources
  conflict : (∀ segment ∈ namedSegments text, ∃ resource, Names segment resource) →
    (∃ segment ∈ namedSegments text, Names segment .events) →
    (∃ segment ∈ namedSegments text, Names segment .eventsV1) →
      outcome = .error .conflictingEvents
  accepted : (∀ segment ∈ namedSegments text, ∃ resource, Names segment resource) →
    namedSegments text ≠ [] →
    ¬ ((∃ segment ∈ namedSegments text, Names segment .events) ∧
      ∃ segment ∈ namedSegments text, Names segment .eventsV1) →
      ∃ named kept, List.Forall₂ Names (namedSegments text) named ∧
        FirstOccurrencesOf named kept ∧ outcome = .ok kept

/-- The resources that segments name, one after another. -/
def readings (segments : List String) : List Resource :=
  segments.filterMap resourceOf?

theorem forall₂_names_iff {segments : List String} {named : List Resource} :
    List.Forall₂ Names segments named ↔
      (∀ segment ∈ segments, ∃ resource, Names segment resource) ∧ readings segments = named := by
  induction segments generalizing named with
  | nil =>
      rw [List.forall₂_nil_left_iff]
      constructor
      · rintro rfl
        exact ⟨nofun, rfl⟩
      · rintro ⟨-, rfl⟩
        rfl
  | cons first rest ih =>
      rw [List.forall₂_cons_left_iff, List.forall_mem_cons]
      constructor
      · rintro ⟨resource, others, names, later, rfl⟩
        rcases ih.mp later with ⟨known, rfl⟩
        exact ⟨⟨⟨resource, names⟩, known⟩, List.filterMap_cons_some names⟩
      · rintro ⟨⟨⟨resource, names⟩, known⟩, rfl⟩
        exact ⟨resource, readings rest, names, ih.mpr ⟨known, rfl⟩, List.filterMap_cons_some names⟩

theorem mem_readings_iff {segments : List String} {resource : Resource} :
    resource ∈ readings segments ↔ ∃ segment ∈ segments, Names segment resource :=
  List.mem_filterMap

/-- Blank segments name nothing, so they need not be left out first. -/
theorem readings_namedSegments (text : String) :
    readings (namedSegments text) = readings (Text.split ',' text) := by
  unfold readings namedSegments
  induction Text.split ',' text with
  | nil => rfl
  | cons segment rest ih =>
      by_cases blank : isBlankText segment = true
      · have nameless := resourceOf?_of_blank (isBlankText_iff.mp blank)
        rw [List.filter_cons_of_neg (by simp [blank]), ih, List.filterMap_cons_none nameless]
      · rw [List.filter_cons_of_pos (by simp [blank]), List.filterMap_cons, List.filterMap_cons, ih]

theorem readExactly_readResources (text : String) : ReadExactly text (readResources text) where
  stranger _ _ _ split known unknown := readResources_of_unknown split known unknown
  nothing blank := (readResources_eq_iff text _).mpr (.nothing blank)
  conflict known core other :=
    (readResources_eq_iff text _).mpr (.conflict (forall₂_names_iff.mpr ⟨known, rfl⟩)
      (mem_readings_iff.mpr core) (mem_readings_iff.mpr other))
  accepted known some compatible := by
    have names := forall₂_names_iff.mpr ⟨known, rfl⟩
    refine ⟨_, _, names, firstOccurrences_spec _, ?_⟩
    rw [firstOccurrences_eq_eraseDups]
    refine (readResources_eq_iff text _).mpr (.accepted names ?_ ?_)
    · intro empty
      rw [empty, List.forall₂_nil_right_iff] at names
      exact some names
    · rw [mem_readings_iff, mem_readings_iff]
      exact compatible

/-! ## Rewording a list -/

/-- Every segment is blank or names a resource. -/
def AllKnown (segments : List String) : Prop :=
  ∀ segment ∈ segments, Text.AllBlank segment ∨ ∃ resource, Names segment resource

theorem allKnown_split_iff {text : String} :
    AllKnown (Text.split ',' text) ↔
      ∀ segment ∈ namedSegments text, ∃ resource, Names segment resource := by
  constructor
  · intro known segment member
    rcases List.mem_filter.mp member with ⟨among, notBlank⟩
    rcases known segment among with blank | names
    · rw [isBlankText_iff.mpr blank] at notBlank
      cases notBlank
    · exact names
  · intro known segment among
    by_cases blank : isBlankText segment = true
    · exact .inl (isBlankText_iff.mp blank)
    · exact .inr (known segment (List.mem_filter.mpr ⟨among, by simp [blank]⟩))

/-- What is accepted depends only on the resources that the segments name. -/
theorem readResources_eq_ok_iff {text : String} {resources : List Resource} :
    readResources text = .ok resources ↔
      AllKnown (Text.split ',' text) ∧ (readings (Text.split ',' text)).eraseDups = resources ∧
        resources ≠ [] ∧ ¬ (.events ∈ resources ∧ .eventsV1 ∈ resources) := by
  rw [readResources_eq_iff, allKnown_split_iff, ← readings_namedSegments]
  constructor
  · intro outcome
    cases outcome with
    | accepted names something compatible =>
        rcases forall₂_names_iff.mp names with ⟨known, rfl⟩
        refine ⟨known, rfl, ?_, ?_⟩
        · rcases List.exists_mem_of_ne_nil _ something with ⟨resource, member⟩
          exact List.ne_nil_of_mem (List.mem_eraseDups.mpr member)
        · rw [List.mem_eraseDups, List.mem_eraseDups]
          exact compatible
  · rintro ⟨known, rfl, something, compatible⟩
    rw [List.mem_eraseDups, List.mem_eraseDups] at compatible
    refine .accepted (forall₂_names_iff.mpr ⟨known, rfl⟩) ?_ compatible
    intro empty
    rw [empty] at something
    exact something rfl

/-- One more way to write a segment. -/
inductive Respelled : String → String → Prop where
  | padded {front segment back : String} (blankFront : Text.AllBlank front)
      (blankBack : Text.AllBlank back) : Respelled segment (front ++ segment ++ back)
  | recased {segment other : String}
      (same : Text.lower (Text.trim segment) = Text.lower (Text.trim other)) :
      Respelled segment other
  /-- A singular in place of the plural. -/
  | singular {segment other : String} {resource : Resource}
      (plural : foldName segment = resource.name) (short : foldName other ++ "s" = resource.name) :
      Respelled segment other

/-- One change to the segments of a list that leaves alone what they name. -/
inductive Rewording : List String → List String → Prop where
  | blank {before later : List String} {segment : String} (blank : Text.AllBlank segment) :
      Rewording (before ++ later) (before ++ segment :: later)
  | respelled {before later : List String} {segment other : String}
      (respelled : Respelled segment other) :
      Rewording (before ++ segment :: later) (before ++ other :: later)
  /-- What was named before is named again. -/
  | repeated {before later : List String} {first again : String} {resource : Resource}
      (member : first ∈ before) (names : Names first resource) (namesAgain : Names again resource) :
      Rewording (before ++ later) (before ++ again :: later)

theorem lower_eq_empty_iff {text : String} : Text.lower text = "" ↔ text = "" := by
  rw [Text.lower, ← String.toList_inj, ← String.toList_inj, String.toList_ofList]
  cases text.toList with
  | nil => simp [Text.LowerCase.lowerChars]
  | cons c rest =>
      simp only [Text.LowerCase.lowerChars, Text.LowerCase.lowerChar]
      split
      · simp
      · split <;> simp

/-- A segment that is written in another way is blank or names a resource as before. -/
theorem Respelled.same {segment other : String} (respelled : Respelled segment other) :
    (Text.AllBlank segment ↔ Text.AllBlank other) ∧ resourceOf? segment = resourceOf? other := by
  cases respelled with
  | padded blankFront blankBack =>
      have trimmed : Text.trim (_ ++ segment ++ _) = Text.trim segment :=
        Text.trim_append blankFront blankBack
      rw [← Text.trim_eq_empty_iff, ← Text.trim_eq_empty_iff, resourceOf?, resourceOf?, foldName,
        foldName, trimmed]
      exact ⟨Iff.rfl, rfl⟩
  | recased same =>
      rw [← Text.trim_eq_empty_iff, ← Text.trim_eq_empty_iff, ← lower_eq_empty_iff, same,
        lower_eq_empty_iff, resourceOf?, resourceOf?, foldName, foldName, same]
      exact ⟨Iff.rfl, rfl⟩
  | @singular _ _ resource plural short =>
      have names : Names segment resource := resourceNamed?_eq_some_iff.mpr (.inl plural)
      have otherNames : Names other resource := resourceNamed?_eq_some_iff.mpr (.inr short)
      refine ⟨iff_of_false names.not_blank otherNames.not_blank, names.trans otherNames.symm⟩

theorem allKnown_append_cons_iff {before later : List String} {segment : String} :
    AllKnown (before ++ segment :: later) ↔
      AllKnown (before ++ later) ∧
        (Text.AllBlank segment ∨ ∃ resource, Names segment resource) := by
  unfold AllKnown
  rw [List.forall_mem_append, List.forall_mem_append, List.forall_mem_cons, and_assoc,
    and_comm (a := Text.AllBlank segment ∨ _)]

theorem readings_append_cons (before later : List String) (segment : String) :
    readings (before ++ segment :: later) =
      readings before ++ (resourceOf? segment).toList ++ readings later := by
  unfold readings
  rw [List.filterMap_append, List.filterMap_cons, List.append_assoc]
  cases resourceOf? segment <;> rfl

theorem readings_append (before later : List String) :
    readings (before ++ later) = readings before ++ readings later :=
  List.filterMap_append

/-- A resource that occurred before does not occur first. -/
theorem eraseDups_append_cons {before later : List Resource} {resource : Resource}
    (member : resource ∈ before) :
    (before ++ resource :: later).eraseDups = (before ++ later).eraseDups := by
  rw [List.eraseDups_append, List.eraseDups_append]
  simp [List.removeAll, member]

theorem Rewording.same {segments others : List String} (rewording : Rewording segments others) :
    (AllKnown segments ↔ AllKnown others) ∧
      (readings segments).eraseDups = (readings others).eraseDups := by
  cases rewording with
  | blank blank =>
      rw [allKnown_append_cons_iff, readings_append_cons, resourceOf?_of_blank blank,
        readings_append]
      exact ⟨⟨fun known => ⟨known, .inl blank⟩, And.left⟩, by simp⟩
  | respelled respelled =>
      rcases respelled.same with ⟨sameBlank, sameResource⟩
      rw [allKnown_append_cons_iff, allKnown_append_cons_iff, readings_append_cons,
        readings_append_cons, sameBlank, sameResource]
      refine ⟨?_, rfl⟩
      simp only [Names, ← resourceOf?.eq_def, sameResource]
  | repeated member names namesAgain =>
      have occurs := mem_readings_iff.mpr ⟨_, member, names⟩
      have again : resourceOf? _ = some _ := namesAgain
      rw [allKnown_append_cons_iff, readings_append_cons, again, readings_append,
        Option.toList_some, List.append_assoc, List.singleton_append,
        eraseDups_append_cons occurs]
      exact ⟨⟨fun known => ⟨known, .inr ⟨_, namesAgain⟩⟩, And.left⟩, rfl⟩

theorem same_of_reworded {segments others : List String}
    (reworded : Relation.ReflTransGen Rewording segments others) :
    (AllKnown segments ↔ AllKnown others) ∧
      (readings segments).eraseDups = (readings others).eraseDups := by
  induction reworded with
  | refl => exact ⟨Iff.rfl, rfl⟩
  | tail _ step ih => exact ⟨ih.1.trans step.same.1, ih.2.trans step.same.2⟩

/-- A list that is reworded is read as before. -/
theorem readResources_eq_ok_iff_of_reworded {text other : String} {resources : List Resource}
    (reworded : Relation.ReflTransGen Rewording (Text.split ',' text) (Text.split ',' other)) :
    readResources text = .ok resources ↔ readResources other = .ok resources := by
  rcases same_of_reworded reworded with ⟨sameKnown, sameReadings⟩
  rw [readResources_eq_ok_iff, readResources_eq_ok_iff, sameKnown, sameReadings]

/-! ## Main statement -/

theorem namedSegments_eq (text : String) :
    namedSegments text = (Text.split ',' text).filter (Text.trim · ≠ "") := by
  refine List.filter_congr fun segment _ => ?_
  rw [Bool.eq_iff_iff]
  simp [isBlankText_iff, Text.trim_eq_empty_iff, ← Bool.not_eq_true]

/-- Reading a resource list, and loading a configuration with it, comes to exactly what
its segments name, and rewording it changes nothing. -/
theorem resource_list_reads_exactly (text : String) :
    String.intercalate "," (Text.split ',' text) = text ∧
      namedSegments text = (Text.split ',' text).filter (Text.trim · ≠ "") ∧
      (∀ segment resource, Names segment resource ↔
        Text.lower (Text.trim segment) = resource.name ∨
          Text.lower (Text.trim segment) ++ "s" = resource.name) ∧
      ReadExactly text (readResources text) ∧
      (∀ other resources,
        Relation.ReflTransGen Rewording (Text.split ',' text) (Text.split ',' other) →
          (readResources text = .ok resources ↔ readResources other = .ok resources)) ∧
      ∀ lookup, Sets lookup .resources text →
        (∀ fault, readResources text = .error fault → load lookup = .error fault) ∧
        ∀ config, load lookup = .ok config → readResources text = .ok config.resources := by
  refine ⟨Text.intercalate_split ',' text, namedSegments_eq text, fun _ _ => names_iff,
    readExactly_readResources text, fun _ _ => readResources_eq_ok_iff_of_reworded,
    fun lookup sets => ⟨?_, ?_⟩⟩
  · intro fault failed
    have reads : Reads .resources text (.error fault) :=
      .resources ((readResources_eq_iff text _).mp failed)
    exact load_of_firstFault (.here sets reads)
  · intro config loaded
    exact read_eq_iff.mpr (reads_field loaded sets)

/-- A list with a capital, white space, a singular, a blank segment and a repetition. -/
theorem resource_list_reads_exactly_sampleSettings :
    readResources "pods,jobs" = .ok [.pods, .jobs] ∧
      ReadExactly " Pods, job,,pods" (.ok [.pods, .jobs]) ∧
      load sampleSettings = .ok sampleConfig ∧
      readResources " Pods, job,,pods" = .ok sampleConfig.resources := by
  have plain : readResources "pods,jobs" = .ok [.pods, .jobs] := by decide +kernel
  have capital : Rewording ([] ++ "pods" :: ["jobs"]) ([] ++ " Pods" :: ["jobs"]) :=
    .respelled (.recased (by decide +kernel))
  have short : Rewording ([" Pods"] ++ "jobs" :: []) ([" Pods"] ++ " job" :: []) :=
    .respelled (@Respelled.singular _ _ .jobs (by decide +kernel) (by decide +kernel))
  have blank : Rewording ([" Pods", " job"] ++ []) ([" Pods", " job"] ++ "" :: []) :=
    .blank (Text.trim_eq_empty_iff.mp (by decide))
  have first : Names " Pods" .pods := names_iff.mpr (.inl (by decide +kernel))
  have second : Names "pods" .pods := names_iff.mpr (.inl (by decide +kernel))
  have again : Rewording ([" Pods", " job", ""] ++ []) ([" Pods", " job", ""] ++ "pods" :: []) :=
    .repeated List.mem_cons_self first second
  have cut : Text.split ',' "pods,jobs" = ["pods", "jobs"] := by decide +kernel
  have otherCut : Text.split ',' " Pods, job,,pods" = [" Pods", " job", "", "pods"] := by
    decide +kernel
  have reworded : Relation.ReflTransGen Rewording (Text.split ',' "pods,jobs")
      (Text.split ',' " Pods, job,,pods") := by
    rw [cut, otherCut]
    exact (((Relation.ReflTransGen.single capital).tail short).tail blank).tail again
  have loaded : load sampleSettings = .ok sampleConfig := by decide +kernel
  have sets : Sets sampleSettings .resources " Pods, job,,pods" := ⟨rfl, by decide⟩
  rcases resource_list_reads_exactly "pods,jobs" with ⟨-, -, -, -, reword, -⟩
  rcases resource_list_reads_exactly " Pods, job,,pods" with ⟨-, -, -, exactly, -, loading⟩
  have other := (reword _ _ reworded).mp plain
  rw [other] at exactly
  exact ⟨plain, exactly, loaded, (loading _ sets).2 _ loaded⟩

end ChangeRelay.Config
