import ChangeRelay.Proofs.Admission.Relevance

/-!
# What is logged explains the decision

A finding determines both whether a change is sent and what is logged.  Here the two are
compared from outside: an entry that says that something is filtered out stands exactly
with a drop, and the entry about an update says what was significant about it, the spec
before the status and the first sign of trouble before the others.
-/

namespace ChangeRelay.Admission

open Schema

/-! ## Entries -/

/-- An entry says that a change is filtered out. -/
def TellsDrop (entry : Log.Entry) : Prop :=
  "Filtering out ".toList <+: entry.message.toList

/-- The entry about an update that is sent because the spec changed. -/
def specEntry (workload : Workload) (name : String) : Log.Entry :=
  Log.debug (workload.kind ++ " spec changed, sending update event") [(workload.field, name)]

/-- The entry about an update of a Pod that is sent because of a sign of trouble. -/
def signEntry (name sign : String) : Log.Entry :=
  Log.debug "Pod status is significant, sending update event" [("pod", name), ("signal", sign)]

/-- The first sign of trouble that the status of a Pod shows, by its name in the log. -/
inductive FirstSign (pod : Object .pods) : String → Prop where
  | restarted (shown : PodShows pod .restarted) : FirstSign pod "container restarts"
  | imagePullBackOff (shown : PodShows pod .imagePullBackOff)
      (noRestart : ¬ PodShows pod .restarted) : FirstSign pod "ImagePullBackOff"
  | evicted (shown : PodShows pod .evicted) (noRestart : ¬ PodShows pod .restarted)
      (noBackOff : ¬ PodShows pod .imagePullBackOff) : FirstSign pod "eviction"
  | oomKilled (shown : PodShows pod .oomKilled) (noRestart : ¬ PodShows pod .restarted)
      (noBackOff : ¬ PodShows pod .imagePullBackOff) (noEviction : ¬ PodShows pod .evicted) :
      FirstSign pod "OOMKilled container"

/-- The signal that the rule finds first is the first one that the Pod shows. -/
theorem firstSign_of_signal?_eq_some {pod : Object .pods} {signal : Signal}
    (found : (PodReport.of? pod).bind PodReport.signal? = some signal) :
    FirstSign pod signal.name := by
  obtain ⟨report, reported, first⟩ := Option.bind_eq_some_iff.mp found
  obtain ⟨status, held, rfl⟩ := Option.map_eq_some_iff.mp reported
  have shows (other : Signal) := shows_ofStatus_iff held other
  have hides (other : Signal) (unseen : (PodReport.ofStatus status).shows other = false) :
      ¬ PodShows pod other := by
    rw [← shows, unseen]
    exact Bool.false_ne_true
  simp only [PodReport.signal?, Signal.all, List.find?_cons] at first
  split at first
  next restarted =>
    cases first
    exact .restarted ((shows _).mp restarted)
  next noRestart =>
    split at first
    next backOff =>
      cases first
      exact .imagePullBackOff ((shows _).mp backOff) (hides _ noRestart)
    next noBackOff =>
      split at first
      next evicted =>
        cases first
        exact .evicted ((shows _).mp evicted) (hides _ noRestart) (hides _ noBackOff)
      next noEviction =>
        split at first
        next oomKilled =>
          cases first
          exact .oomKilled ((shows _).mp oomKilled) (hides _ noRestart) (hides _ noBackOff)
            (hides _ noEviction)
        next => cases first

/-! ## Findings and their entries -/

namespace Finding

variable {finding : Finding}

/-- An entry says that the change is filtered out exactly if the change is dropped. -/
theorem tellsDrop_iff {entry : Log.Entry} (logged : entry ∈ finding.log) :
    TellsDrop entry ↔ finding.sends = false := by
  cases finding with
  | unfiltered | unruled | eventWarning | lifecycle | unknownReason | unpaired => cases logged
  | eventNotCreated | eventRoutine | routine | eventUncast | eventEvicted | jobFailed
  | podTroubled =>
      cases List.mem_singleton.mp logged
      simp [TellsDrop, Log.debug, Log.warn, sends]
  | uncast workload | specChanged workload =>
      cases List.mem_singleton.mp logged
      cases workload <;> simp [TellsDrop, Log.debug, Log.warn, Workload.kind, sends]

theorem length_log_le_one (finding : Finding) : finding.log.length ≤ 1 := by
  rw [log]
  cases finding.entry? <;> simp

/-- A drop is logged, except for one about a reason that is not known. -/
theorem exists_log_of_dropped (dropped : finding.sends = false)
    (known : finding ≠ .unknownReason) : ∃ entry, finding.log = [entry] ∧ TellsDrop entry := by
  obtain ⟨entry, logged⟩ : ∃ entry, finding.log = [entry] := by
    cases finding with
    | eventNotCreated | eventRoutine | routine => exact ⟨_, rfl⟩
    | unknownReason => exact absurd rfl known
    | unfiltered | unruled | eventUncast | eventEvicted | eventWarning | lifecycle | uncast
    | unpaired | specChanged | jobFailed | podTroubled => cases dropped
  have member : entry ∈ finding.log := by rw [logged]; exact List.mem_singleton_self entry
  exact ⟨entry, logged, (tellsDrop_iff member).mpr dropped⟩

/-- Only a finding about a Pod in trouble names a signal. -/
theorem eq_podTroubled_of_signal {entry : Log.Entry} (logged : entry ∈ finding.log) {sign : String}
    (names : ("signal", sign) ∈ entry.fields) :
    ∃ name signal, finding = .podTroubled name signal ∧ sign = signal.name := by
  cases finding with
  | podTroubled name signal =>
      cases List.mem_singleton.mp logged
      simp [Log.debug] at names
      exact ⟨name, signal, rfl, names⟩
  | unfiltered | unruled | eventWarning | lifecycle | unknownReason | unpaired => cases logged
  | eventNotCreated | eventRoutine | eventUncast | eventEvicted | jobFailed =>
      cases List.mem_singleton.mp logged
      simp [Log.debug, Log.warn] at names
  | routine workload | uncast workload | specChanged workload =>
      cases List.mem_singleton.mp logged
      cases workload <;> simp [Log.debug, Log.warn, Workload.field] at names

end Finding

/-! ## What leads to a finding -/

/-- Something happened to a Job or a Pod that is none of the three known things. -/
def UnknownReason (change : Change) : Prop :=
  change.kind ∈ ["Job", "Pod"] ∧ change.reason ∉ [.created, .updated, .deleted]

/-- A finding that only the rule for Jobs and Pods makes. -/
def Finding.AboutWorkload : Finding → Prop
  | .unfiltered | .unruled | .eventNotCreated _ | .eventUncast _ | .eventEvicted _
  | .eventRoutine _ | .eventWarning => False
  | _ => True

theorem not_aboutWorkload_examineEvent (change : Change) :
    ¬ (examineEvent change).AboutWorkload := by
  rw [examineEvent]
  split
  · exact id
  · split
    · exact id
    · split
      · exact id
      · split <;> exact id

/-- A finding about a workload is the one that the rule of its kind makes. -/
theorem exists_workload_of_examine {filter : Filter} {change : Change}
    (about : (filter.examine change).AboutWorkload) :
    ∃ workload : Workload, change.kind = workload.kind ∧
      filter.examine change = examineWorkload workload.examineUpdate change := by
  rcases examine_cases filter change with rule | rule | ⟨-, rule⟩ | ofWorkload
  · rw [rule] at about
    exact about.elim
  · rw [rule] at about
    exact about.elim
  · rw [rule] at about
    exact absurd about (not_aboutWorkload_examineEvent change)
  · exact ofWorkload

theorem Workload.examineStatus_ne_unknownReason (workload : Workload) (name : String)
    (object : Object workload.resource) :
    workload.examineStatus name object ≠ .unknownReason := by
  cases workload with
  | job | pod =>
      rw [examineStatus]
      split <;> exact Finding.noConfusion

theorem Workload.examineUpdate_ne_unknownReason (workload : Workload) (change : Change) :
    workload.examineUpdate change ≠ .unknownReason := by
  rcases workload.examineUpdate_cases change with found | found | ⟨current, previous, -, -, found⟩
  · rw [found]
    exact Finding.noConfusion
  · rw [found]
    exact Finding.noConfusion
  · rw [found]
    split
    · exact Finding.noConfusion
    · exact workload.examineStatus_ne_unknownReason change.name current

section Examine

variable {filter : Filter} {change : Change}

theorem unknownReason_of_examine (found : filter.examine change = .unknownReason) :
    UnknownReason change := by
  have about : (filter.examine change).AboutWorkload := by rw [found]; trivial
  obtain ⟨workload, kind, rule⟩ := exists_workload_of_examine about
  refine ⟨(mem_workloadKinds_iff _).mpr ⟨workload, kind⟩, ?_⟩
  rw [rule, examineWorkload] at found
  cases reason : change.reason with
  | created | deleted =>
      rw [reason] at found
      cases found
  | updated =>
      rw [reason] at found
      exact absurd found (workload.examineUpdate_ne_unknownReason change)
  | other label => simp

/-- Nothing is logged about an unknown reason, whether the filter is on or off. -/
theorem log_of_unknownReason (filter : Filter) (unknown : UnknownReason change) :
    (filter.examine change).log = [] := by
  obtain ⟨ofWorkload, unlisted⟩ := unknown
  obtain ⟨workload, kind⟩ := (mem_workloadKinds_iff _).mp ofWorkload
  cases enabled : filter.enabled with
  | false =>
      rw [examine_of_disabled enabled]
      rfl
  | true =>
      rw [examine_of_workload enabled kind, examineWorkload]
      cases reason : change.reason with
      | created | updated | deleted =>
          rw [reason] at unlisted
          exact absurd (by decide) unlisted
      | other label => rfl

theorem log_of_disabled (disabled : filter.enabled = false) (change : Change) :
    (filter.examine change).log = [] := by
  rw [examine_of_disabled disabled]
  rfl

theorem log_of_unruled (filter : Filter) (unruled : change.kind ∉ ["Event", "Job", "Pod"]) :
    (filter.examine change).log = [] := by
  cases enabled : filter.enabled with
  | false => exact log_of_disabled enabled change
  | true =>
      rw [examine_of_unruled enabled unruled]
      rfl

/-- The rule for updates finds a Pod in trouble only if the spec is as it was. -/
theorem eq_of_examineUpdate_eq_podTroubled {workload : Workload} {name : String} {signal : Signal}
    (found : workload.examineUpdate change = .podTroubled name signal) :
    workload = .pod ∧ ∃ current previous : Object .pods,
      change.current = .pod current ∧ change.previous = some (.pod previous) ∧
      Workload.pod.specOf current = Workload.pod.specOf previous ∧
      (PodReport.of? current).bind PodReport.signal? = some signal := by
  rcases workload.examineUpdate_cases change with
    rule | rule | ⟨current, previous, typed, paired, rule⟩
  · rw [rule] at found
    cases found
  · rw [rule] at found
    cases found
  · rw [rule] at found
    split at found
    next => cases found
    next same =>
      cases workload with
      | job =>
          rw [Workload.examineStatus] at found
          split at found <;> cases found
      | pod =>
          rw [Workload.examineStatus] at found
          split at found
          next shown =>
            cases found
            exact ⟨rfl, current, previous, typed, paired, Classical.not_not.mp same, shown⟩
          next => cases found

theorem eq_update_of_podTroubled {name : String} {signal : Signal}
    (found : filter.examine change = .podTroubled name signal) :
    ∃ current previous, change = Workload.pod.update current previous ∧
      Workload.pod.specOf current = Workload.pod.specOf previous ∧
      (PodReport.of? current).bind PodReport.signal? = some signal := by
  have about : (filter.examine change).AboutWorkload := by rw [found]; trivial
  obtain ⟨workload, kind, rule⟩ := exists_workload_of_examine about
  rw [rule, examineWorkload] at found
  cases reason : change.reason with
  | created | deleted | other label =>
      rw [reason] at found
      cases found
  | updated =>
      rw [reason] at found
      obtain ⟨rfl, current, previous, typed, paired, same, shown⟩ :=
        eq_of_examineUpdate_eq_podTroubled found
      refine ⟨current, previous, ?_, same, shown⟩
      rcases change with ⟨_, _, _, _⟩
      cases kind
      cases reason
      cases typed
      cases paired
      rfl

end Examine

/-! ## Updates of which both states are typed -/

section Update

variable {filter : Filter} (enabled : filter.enabled = true)

include enabled

theorem examine_update (workload : Workload) (current previous : Object workload.resource) :
    filter.examine (workload.update current previous) =
      if workload.specOf current ≠ workload.specOf previous then
        .specChanged workload (workload.update current previous).name
      else workload.examineStatus (workload.update current previous).name current := by
  have typed : (workload.update current previous).current.typed? workload.resource = some current :=
    (Snapshot.typed?_eq_some_iff workload _ current).mpr rfl
  have paired : (workload.update current previous).previous.bind
      (Snapshot.typed? workload.resource) = some previous :=
    (Snapshot.typed?_eq_some_iff workload _ previous).mpr rfl
  rw [examine_of_workload enabled rfl]
  exact Workload.examineUpdate_of_paired typed paired

/-- A changed spec is what the entry is about, whatever the status shows. -/
theorem log_update_of_spec {workload : Workload} {current previous : Object workload.resource}
    (differ : workload.specOf current ≠ workload.specOf previous) :
    filter.sends (workload.update current previous) = true ∧
      (filter.examine (workload.update current previous)).log =
        [specEntry workload (workload.update current previous).name] := by
  rw [Filter.sends, examine_update enabled workload, if_pos differ]
  exact ⟨rfl, rfl⟩

/-- The entry about a Pod in trouble names the first sign of it. -/
theorem log_update_of_status {current previous : Object .pods}
    (same : Workload.pod.specOf current = Workload.pod.specOf previous)
    (sent : filter.sends (Workload.pod.update current previous) = true) :
    ∃ sign, FirstSign current sign ∧
      (filter.examine (Workload.pod.update current previous)).log =
        [signEntry (Workload.pod.update current previous).name sign] := by
  have rule := examine_update enabled .pod current previous
  rw [if_neg (Classical.not_not.mpr same)] at rule
  cases shown : (PodReport.of? current).bind PodReport.signal? with
  | none =>
      simp only [Workload.examineStatus, shown] at rule
      rw [Filter.sends, rule] at sent
      cases sent
  | some signal =>
      simp only [Workload.examineStatus, shown] at rule
      refine ⟨signal.name, firstSign_of_signal?_eq_some shown, ?_⟩
      rw [rule]
      rfl

end Update

/-! ## All decisions -/

/-- What is logged about a change explains whether it is sent. -/
structure Explained (filter : Filter) (change : Change) : Prop where
  /-- No level is below that of the entries here, so this counts everything that is logged. -/
  atMostOne : (filter.examine change).log.length ≤ 1
  silent : filter.enabled = false ∨ change.kind ∉ ["Event", "Job", "Pod"] →
    (filter.examine change).log = []
  /-- An entry tells of a drop if and only if there is one. -/
  agrees : ∀ entry ∈ (filter.examine change).log,
    TellsDrop entry ↔ filter.sends change = false
  dropped : filter.sends change = false → ¬ UnknownReason change →
    ∃ entry, (filter.examine change).log = [entry] ∧ TellsDrop entry
  unknown : UnknownReason change → (filter.examine change).log = []
  /-- A signal is named only about a Pod with the spec that it had before. -/
  signal : ∀ entry ∈ (filter.examine change).log, ∀ sign, ("signal", sign) ∈ entry.fields →
    ∃ current previous, change = Workload.pod.update current previous ∧
      Workload.pod.specOf current = Workload.pod.specOf previous ∧ FirstSign current sign

theorem explained (filter : Filter) (change : Change) : Explained filter change where
  atMostOne := Finding.length_log_le_one _
  silent quiet := by
    rcases quiet with disabled | unruled
    · exact log_of_disabled disabled change
    · exact log_of_unruled filter unruled
  agrees entry logged := Finding.tellsDrop_iff logged
  dropped drop known :=
    Finding.exists_log_of_dropped drop fun found => known (unknownReason_of_examine found)
  unknown := log_of_unknownReason filter
  signal entry logged sign names := by
    obtain ⟨name, signal, found, rfl⟩ := Finding.eq_podTroubled_of_signal logged names
    obtain ⟨current, previous, same, specs, shown⟩ := eq_update_of_podTroubled found
    exact ⟨current, previous, same, specs, firstSign_of_signal?_eq_some shown⟩

/-- Whatever the filter decides, the entry about it agrees with the decision.  An update
that is sent for its spec is logged so whatever the status shows, and an update of a Pod
that is sent for its status is logged with the first sign of trouble. -/
theorem decisions_are_explained :
    (∀ (filter : Filter) (change : Change), Explained filter change) ∧
    (∀ (filter : Filter) (workload : Workload) (current previous : Object workload.resource),
      filter.enabled = true → workload.specOf current ≠ workload.specOf previous →
        filter.sends (workload.update current previous) = true ∧
          (filter.examine (workload.update current previous)).log =
            [specEntry workload (workload.update current previous).name]) ∧
    ∀ (filter : Filter) (current previous : Object .pods),
      filter.enabled = true → Workload.pod.specOf current = Workload.pod.specOf previous →
        filter.sends (Workload.pod.update current previous) = true →
          ∃ sign, FirstSign current sign ∧
            (filter.examine (Workload.pod.update current previous)).log =
              [signEntry (Workload.pod.update current previous).name sign] := by
  refine ⟨explained, ?_, ?_⟩
  · intro filter workload current previous enabled differ
    exact log_update_of_spec enabled differ
  · intro filter current previous enabled same sent
    exact log_update_of_status enabled same sent

/-! ## A Pod with more than one sign of trouble -/

/-- A Pod that was evicted, and a container of which had run out of memory. -/
def evictedPod : Object .pods :=
  (Object.read? .pods (.obj [("metadata", .obj [("name", .str "web")]),
    ("status", .obj [("phase", .str "Failed"), ("reason", .str "Evicted"),
      ("containerStatuses", .arr [.obj [("image", .str "nginx"), ("imageID", .str ""),
        ("lastState", .obj [("terminated", .obj [("exitCode", .num (.int 137)),
          ("reason", .str "OOMKilled")])]),
        ("name", .str "nginx"), ("ready", .bool false), ("restartCount", .num (.int 0))]])])])).get
    rfl

/-- A Pod that is bound to a node. -/
def boundPod : Object .pods :=
  (Object.read? .pods (.obj [("metadata", .obj [("name", .str "web")]),
    ("spec", .obj [("containers", .arr []), ("nodeName", .str "node-1")])])).get rfl

/-- The eviction is named before the lack of memory, and neither is when the spec changed. -/
theorem decisions_are_explained_evictedPod :
    let examine := (Filter.mk true).examine
    PodShows evictedPod .evicted ∧ PodShows evictedPod .oomKilled ∧
      Workload.pod.specOf evictedPod ≠ Workload.pod.specOf boundPod ∧
      (examine (Workload.pod.update evictedPod boundPod)).log = [specEntry .pod "web"] ∧
      FirstSign evictedPod "eviction" ∧
      (examine (Workload.pod.update evictedPod pullingPod)).log = [signEntry "web" "eviction"] := by
  intro examine
  have outOfMemory : PodShows evictedPod .oomKilled :=
    .oomKilledBefore ⟨"containerStatuses", by decide, _, rfl, List.mem_singleton_self _⟩ rfl
  have differ : Workload.pod.specOf evictedPod ≠ Workload.pod.specOf boundPod := by decide
  obtain ⟨-, ofSpec, ofStatus⟩ := decisions_are_explained
  obtain ⟨-, specLogged⟩ := ofSpec (Filter.mk true) .pod evictedPod boundPod rfl differ
  obtain ⟨sign, first, signLogged⟩ := ofStatus (Filter.mk true) evictedPod pullingPod rfl rfl rfl
  have named : [signEntry "web" "eviction"] = [signEntry "web" sign] := signLogged
  obtain rfl : "eviction" = sign := by simpa [signEntry, Log.debug] using named
  exact ⟨.evictedForReason rfl rfl, outOfMemory, differ, specLogged, first, signLogged⟩

end ChangeRelay.Admission
