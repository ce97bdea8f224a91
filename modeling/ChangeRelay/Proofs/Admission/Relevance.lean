import ChangeRelay.Proofs.Admission.Passage
import Mathlib.Data.List.Perm.Subperm

/-!
# What an update is decided by

The rule for updates compares the specs and then looks for signs in the current status: a
few texts, and in lists of entries a few fields of each entry.  Two updates that show the
same specs and the same signs are decided alike, whatever else differs between them.  The
signs of the entries count as a collection, so neither their order nor the list in which
an entry stands matters, and more of them can only make an update more significant.

What the rule may see is written down here as paths of fields.  The significance of a
status is monotone in what is seen at these paths, and all else follows from that.
-/

namespace ChangeRelay

open Schema

/-! ## Lists at the end of a path -/

/-- The items of the list at the end of a path of fields; none if there is no list. -/
def Schema.Datum.itemsAt (path : List String) (datum : Datum) : List Datum :=
  ((datum.path? path).map Datum.items).getD []

theorem Schema.Datum.mem_itemsAt_iff (path : List String) (item datum : Datum) :
    item ∈ datum.itemsAt path ↔
      ∃ items, datum.path? path = some (.list items) ∧ item ∈ items := by
  rw [itemsAt]
  cases datum.path? path with
  | none => simp
  | some value => cases value <;> simp [items]

namespace Admission

namespace Workload

/-! ## What the rule may see -/

/-- The texts that count in a status. -/
def textFields : Workload → List String
  | job => []
  | pod => ["phase", "reason", "message"]

/-- The lists of entries that count in a status. -/
def entryFields : Workload → List String
  | job => ["conditions"]
  | pod => ["initContainerStatuses", "containerStatuses"]

/-- What counts in an entry. -/
def entryPaths : Workload → List (List String)
  | job => [["type"], ["status"]]
  | pod => [["restartCount"], ["state", "waiting", "reason"], ["state", "terminated", "reason"],
      ["lastState", "terminated", "reason"]]

/-- The texts that the status of an object shows. -/
def textSigns (workload : Workload) (object : Object workload.resource) : List (Option Datum) :=
  workload.textFields.map fun field => object.datum.path? ["status", field]

/-- What an entry shows. -/
def signsOf (workload : Workload) (entry : Datum) : List (Option Datum) :=
  workload.entryPaths.map fun path => entry.path? path

/-- The entries in the status of an object, those of all lists together. -/
def entries (workload : Workload) (object : Object workload.resource) : List Datum :=
  workload.entryFields.flatMap fun field => object.datum.itemsAt ["status", field]

/-- What each of the entries in the status of an object shows. -/
def entrySigns (workload : Workload) (object : Object workload.resource) :
    List (List (Option Datum)) :=
  (workload.entries object).map workload.signsOf

/-- An update of an object from one state to another. -/
def update (workload : Workload) (current previous : Object workload.resource) : Change :=
  ⟨workload.kind, .updated, .ofObject current, some (.ofObject previous)⟩

/-! ## Significance is monotone -/

theorem mem_entries_iff (workload : Workload) (object : Object workload.resource)
    (entry : Datum) :
    entry ∈ workload.entries object ↔
      ∃ field ∈ workload.entryFields, ∃ items,
        object.datum.path? ["status", field] = some (.list items) ∧ entry ∈ items := by
  simp only [entries, List.mem_flatMap, Datum.mem_itemsAt_iff]

/-- Signs that include those of an object show, somewhere, what each of its entries shows. -/
theorem exists_entry_of_subset (workload : Workload) {object other : Object workload.resource}
    (included : workload.entrySigns object ⊆ workload.entrySigns other) {entry : Datum}
    (member : entry ∈ workload.entries object) :
    ∃ same ∈ workload.entries other,
      ∀ path ∈ workload.entryPaths, same.path? path = entry.path? path := by
  obtain ⟨same, found, shows⟩ := List.mem_map.mp (included (List.mem_map_of_mem member))
  rw [signsOf, signsOf, List.map_inj_left] at shows
  exact ⟨same, found, shows⟩

theorem path?_status_eq (workload : Workload) {object other : Object workload.resource}
    (texts : workload.textSigns object = workload.textSigns other) {field : String}
    (counts : field ∈ workload.textFields) :
    other.datum.path? ["status", field] = object.datum.path? ["status", field] :=
  (List.map_inj_left.mp texts field counts).symm

theorem jobFailed_of_subset {job other : Object .jobs}
    (included : Workload.job.entrySigns job ⊆ Workload.job.entrySigns other)
    (failed : JobFailed job) : JobFailed other := by
  obtain ⟨conditions, listed, condition, member, type, status⟩ := failed
  have isEntry : condition ∈ Workload.job.entries job :=
    (mem_entries_iff .job job condition).mpr
      ⟨"conditions", List.mem_singleton_self _, conditions, listed, member⟩
  obtain ⟨same, found, agrees⟩ := exists_entry_of_subset .job included isEntry
  obtain ⟨field, counts, others, otherListed, otherMember⟩ :=
    (mem_entries_iff .job other same).mp found
  obtain rfl := List.mem_singleton.mp counts
  exact ⟨others, otherListed, same, otherMember, (agrees _ (by decide)).trans type,
    (agrees _ (by decide)).trans status⟩

theorem podShows_of_subset {pod other : Object .pods}
    (texts : Workload.pod.textSigns pod = Workload.pod.textSigns other)
    (included : Workload.pod.entrySigns pod ⊆ Workload.pod.entrySigns other) {signal : Signal}
    (shows : PodShows pod signal) : PodShows other signal := by
  have seen {container : Datum} (has : HasContainer pod container) :
      ∃ same, HasContainer other same ∧
        ∀ path ∈ Workload.pod.entryPaths, same.path? path = container.path? path := by
    obtain ⟨same, found, agrees⟩ :=
      exists_entry_of_subset .pod included ((mem_entries_iff .pod pod container).mpr has)
    exact ⟨same, (mem_entries_iff .pod other same).mp found, agrees⟩
  have told {field : String} (counts : field ∈ Workload.pod.textFields) :=
    path?_status_eq .pod texts counts
  cases shows with
  | restarted has restarts positive =>
      obtain ⟨same, hasSame, agrees⟩ := seen has
      exact .restarted hasSame ((agrees _ (by decide)).trans restarts) positive
  | imagePullBackOff has waits =>
      obtain ⟨same, hasSame, agrees⟩ := seen has
      exact .imagePullBackOff hasSame ((agrees _ (by decide)).trans waits)
  | evictedForReason phase reason =>
      exact .evictedForReason ((told (by decide)).trans phase) ((told (by decide)).trans reason)
  | evictedByMessage message mentions =>
      exact .evictedByMessage ((told (by decide)).trans message) mentions
  | oomKilled has ended =>
      obtain ⟨same, hasSame, agrees⟩ := seen has
      exact .oomKilled hasSame ((agrees _ (by decide)).trans ended)
  | oomKilledBefore has ended =>
      obtain ⟨same, hasSame, agrees⟩ := seen has
      exact .oomKilledBefore hasSame ((agrees _ (by decide)).trans ended)

variable {workload : Workload}

/-- A state that shows at least what a significant one shows is significant itself. -/
theorem significant_of_subset {object other : Object workload.resource}
    (texts : workload.textSigns object = workload.textSigns other)
    (included : workload.entrySigns object ⊆ workload.entrySigns other)
    (significant : workload.Significant object) : workload.Significant other := by
  cases workload with
  | job => exact jobFailed_of_subset included significant
  | pod =>
      obtain ⟨signal, shows⟩ := significant
      exact ⟨signal, podShows_of_subset texts included shows⟩

end Workload

/-! ## Decisions about updates -/

variable {filter : Filter} {workload : Workload}

theorem sends_update_iff (enabled : filter.enabled = true)
    (current previous : Object workload.resource) :
    filter.sends (workload.update current previous) = true ↔
      workload.specOf current ≠ workload.specOf previous ∨ workload.Significant current := by
  rw [sends_of_workload enabled rfl]
  constructor
  · rintro (impossible | impossible | ⟨-, passes⟩)
    · cases impossible
    · cases impossible
    · exact (updatePasses_changeOf_iff current previous).mp passes
  · intro matters
    exact .inr (.inr ⟨rfl, (updatePasses_changeOf_iff current previous).mpr matters⟩)

/-- Showing more keeps an update from being dropped, as long as the specs are the same. -/
theorem sends_update_of_subset {current previous other otherPrevious : Object workload.resource}
    (specs : workload.specOf current = workload.specOf other)
    (previousSpecs : workload.specOf previous = workload.specOf otherPrevious)
    (texts : workload.textSigns current = workload.textSigns other)
    (included : workload.entrySigns current ⊆ workload.entrySigns other)
    (sent : filter.sends (workload.update current previous) = true) :
    filter.sends (workload.update other otherPrevious) = true := by
  cases enabled : filter.enabled with
  | false => simp [Filter.sends, Filter.examine, enabled, Finding.sends]
  | true =>
      rw [sends_update_iff enabled] at sent ⊢
      rw [← specs, ← previousSpecs]
      exact sent.imp_right (Workload.significant_of_subset texts included)

/-- Two updates with the same specs and the same texts in the current status are decided
alike if the entries of the current status show the same, in whatever order and in
whichever list they stand.  If the other one has more entries, it is sent when the first
one is.  Nothing else of the objects makes a difference. -/
theorem irrelevant_detail_decides_nothing (filter : Filter) (workload : Workload)
    (current previous other otherPrevious : Object workload.resource)
    (specs : workload.specOf current = workload.specOf other)
    (previousSpecs : workload.specOf previous = workload.specOf otherPrevious)
    (texts : workload.textSigns current = workload.textSigns other) :
    ((workload.entrySigns current).Perm (workload.entrySigns other) →
      filter.sends (workload.update current previous) =
        filter.sends (workload.update other otherPrevious)) ∧
    ((workload.entrySigns current).Subperm (workload.entrySigns other) →
      filter.sends (workload.update current previous) = true →
        filter.sends (workload.update other otherPrevious) = true) := by
  constructor
  · intro rearranged
    rw [Bool.eq_iff_iff]
    constructor
    · exact sends_update_of_subset specs previousSpecs texts rearranged.subset
    · exact sends_update_of_subset specs.symm previousSpecs.symm texts.symm rearranged.symm.subset
  · intro added
    exact sends_update_of_subset specs previousSpecs texts added.subset

/-! ## A Pod that cannot pull an image -/

/-- The status of a container that waits for this reason. -/
def waitingContainer (name reason : String) : Json :=
  .obj [("image", .str name), ("imageID", .str ""), ("name", .str name), ("ready", .bool false),
    ("restartCount", .num (.int 0)),
    ("state", .obj [("waiting", .obj [("reason", .str reason)])])]

/-- A Pod that waits for the image of its first container. -/
def pullingPod : Object .pods :=
  (Object.read? .pods (.obj [("metadata", .obj [("name", .str "web")]),
    ("status", .obj [("phase", .str "Pending"), ("containerStatuses", .arr [
      waitingContainer "proxy" "ImagePullBackOff",
      waitingContainer "app" "ContainerCreating"])])])).get rfl

/-- A Pod under another name and on a host, whose containers show the same.  The one that
is being created stands among the init containers, and so before the other. -/
def movedPod : Object .pods :=
  (Object.read? .pods (.obj [("metadata", .obj [("name", .str "web-0")]),
    ("status", .obj [("hostIP", .str "10.0.0.7"), ("phase", .str "Pending"),
      ("containerStatuses", .arr [waitingContainer "sidecar" "ImagePullBackOff"]),
      ("initContainerStatuses", .arr [waitingContainer "setup" "ContainerCreating"])])])).get rfl

/-- A Pod with one container more. -/
def crowdedPod : Object .pods :=
  (Object.read? .pods (.obj [("metadata", .obj [("name", .str "web-1")]),
    ("status", .obj [("phase", .str "Pending"), ("containerStatuses", .arr [
      waitingContainer "log" "PodInitializing", waitingContainer "sidecar" "ImagePullBackOff"]),
      ("initContainerStatuses", .arr [
        waitingContainer "setup" "ContainerCreating"])])])).get rfl

/-- A Pod that is being created. -/
def startingPod : Object .pods :=
  (Object.read? .pods (.obj [("metadata", .obj [("name", .str "web-2")]),
    ("status", .obj [("phase", .str "Pending"), ("containerStatuses", .arr [
      waitingContainer "app" "ContainerCreating"])])])).get rfl

/-- Another Pod that is being created, under another name and on a host. -/
def placedPod : Object .pods :=
  (Object.read? .pods (.obj [("metadata", .obj [("name", .str "web-3")]),
    ("status", .obj [("hostIP", .str "10.0.0.7"), ("phase", .str "Pending"),
      ("initContainerStatuses", .arr [waitingContainer "setup" "ContainerCreating"])])])).get rfl

/-- All these Pods have the same spec.  The updates of the first three are sent for the same
image, and those of the other two are both dropped. -/
theorem irrelevant_detail_decides_nothing_movedPod :
    let decide := (Filter.mk true).sends
    (Workload.pod.entrySigns pullingPod).Perm (Workload.pod.entrySigns movedPod) ∧
      decide (Workload.pod.update pullingPod crowdedPod) =
        decide (Workload.pod.update movedPod pullingPod) ∧
      (Workload.pod.entrySigns pullingPod).Subperm (Workload.pod.entrySigns crowdedPod) ∧
      decide (Workload.pod.update crowdedPod movedPod) = true ∧
      (Workload.pod.entrySigns startingPod).Perm (Workload.pod.entrySigns placedPod) ∧
      decide (Workload.pod.update startingPod pullingPod) = false ∧
      decide (Workload.pod.update placedPod crowdedPod) = false := by
  intro decide
  have rearranged : (Workload.pod.entrySigns pullingPod).Perm (Workload.pod.entrySigns movedPod) :=
    .swap _ _ _
  have added : (Workload.pod.entrySigns pullingPod).Subperm (Workload.pod.entrySigns crowdedPod) :=
    ⟨Workload.pod.entrySigns movedPod, rearranged.symm, .cons_cons _ (.cons _ (.refl _))⟩
  have alike : (Workload.pod.entrySigns startingPod).Perm (Workload.pod.entrySigns placedPod) :=
    .refl _
  have same := (irrelevant_detail_decides_nothing (Filter.mk true) .pod pullingPod crowdedPod
    movedPod pullingPod rfl rfl rfl).1 rearranged
  have kept := (irrelevant_detail_decides_nothing (Filter.mk true) .pod pullingPod crowdedPod
    crowdedPod movedPod rfl rfl rfl).2 added
  have sameDrop := (irrelevant_detail_decides_nothing (Filter.mk true) .pod startingPod pullingPod
    placedPod crowdedPod rfl rfl rfl).1 alike
  have dropped : decide (Workload.pod.update startingPod pullingPod) = false := rfl
  exact ⟨rearranged, same, added, kept rfl, alike, dropped, sameDrop.symm.trans dropped⟩

end Admission

end ChangeRelay
