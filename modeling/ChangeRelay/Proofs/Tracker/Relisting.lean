import ChangeRelay.Proofs.Tracker.History

/-!
# Listings are atomic

While a listing is gathered, a tracker shows nothing of it: what it reports and
how many objects it knows depend only on the live changes.  When the listing
ends it replaces everything, so that nothing from before it, and nothing that
happened during it outside of the listing, is left.
-/

namespace ChangeRelay

variable {resource : Resource}

/-- Whether a notification is a live change of an object, and not a part of a
listing. -/
def Notification.isLive : Notification resource → Bool
  | .applied _ | .deleted _ => true
  | .listBegins | .listed _ | .listEnds => false

namespace Tracker

/-- The tracker after some more notifications. -/
def advance (tracker : Tracker resource) (course : List (Notification resource)) :
    Tracker resource :=
  course.foldl next tracker

@[simp]
theorem advance_nil (tracker : Tracker resource) : tracker.advance [] = tracker :=
  rfl

@[simp]
theorem advance_cons (tracker : Tracker resource) (step : Notification resource)
    (course : List (Notification resource)) :
    tracker.advance (step :: course) = (tracker.next step).advance course :=
  rfl

@[simp]
theorem advance_append (tracker : Tracker resource) (first second : List (Notification resource)) :
    tracker.advance (first ++ second) = (tracker.advance first).advance second :=
  List.foldl_append

theorem after_append (history course : List (Notification resource)) :
    after (history ++ course) = (after history).advance course :=
  List.foldl_append

/-- The changes that a tracker reports in the course of some notifications. -/
def reports (tracker : Tracker resource) : List (Notification resource) → List Change
  | [] => []
  | step :: course => (tracker.report? step).toList ++ (tracker.next step).reports course

/-- What is reported in a course is the report of one of its notifications. -/
theorem exists_report?_of_mem_reports {tracker : Tracker resource}
    {course : List (Notification resource)} {change : Change}
    (reported : change ∈ tracker.reports course) :
    ∃ (state : Tracker resource) (step : Notification resource),
      state.report? step = some change := by
  induction course generalizing tracker with
  | nil => cases reported
  | cons step course ih =>
      rcases List.mem_append.mp reported with here | later
      · exact ⟨tracker, step, Option.mem_toList.mp here⟩
      · exact ih later

/-! ## While a listing is gathered -/

theorem report?_of_not_isLive {step : Notification resource} (silent : step.isLive = false)
    (tracker : Tracker resource) : tracker.report? step = none := by
  cases step with
  | listBegins | listed object | listEnds => rfl
  | applied object | deleted object => cases silent

theorem known_next_of_not_isLive {step : Notification resource} (silent : step.isLive = false)
    (unfinished : step ≠ .listEnds) (tracker : Tracker resource) :
    (tracker.next step).known = tracker.known := by
  cases step with
  | listBegins | listed object => rfl
  | listEnds => exact absurd rfl unfinished
  | applied object | deleted object => cases silent

/-- A live change acts on the known objects only. -/
theorem known_next_of_isLive {step : Notification resource} (live : step.isLive = true)
    {left right : Tracker resource} (same : left.known = right.known) :
    (left.next step).known = (right.next step).known := by
  cases step with
  | listBegins | listed object | listEnds => cases live
  | applied object | deleted object => simp only [next, same]

theorem report?_congr {left right : Tracker resource} (same : left.known = right.known)
    (step : Notification resource) : left.report? step = right.report? step := by
  cases step with
  | listBegins | listed object | listEnds | deleted object => rfl
  | applied object => simp only [report?, known?, same]

/-- As long as no listing ends, the known objects and the reports are those of
the live changes alone. -/
theorem advance_filter_isLive {left right : Tracker resource} (same : left.known = right.known)
    {course : List (Notification resource)} (unfinished : .listEnds ∉ course) :
    (left.advance course).known = (right.advance (course.filter (·.isLive))).known ∧
      left.reports course = right.reports (course.filter (·.isLive)) := by
  induction course generalizing left right with
  | nil => exact ⟨same, rfl⟩
  | cons step course ih =>
      rw [List.mem_cons, not_or] at unfinished
      obtain ⟨notEnd, unfinished⟩ := unfinished
      cases live : step.isLive with
      | true =>
          obtain ⟨known, reported⟩ := ih (known_next_of_isLive live same) unfinished
          rw [List.filter_cons_of_pos live]
          constructor
          · exact known
          · rw [reports, reports, report?_congr same, reported]
      | false =>
          have unchanged : (left.next step).known = right.known := by
            rw [known_next_of_not_isLive live (Ne.symm notEnd), same]
          obtain ⟨known, reported⟩ := ih unchanged unfinished
          rw [List.filter_cons_of_neg (by simp [live])]
          constructor
          · exact known
          · rw [reports, report?_of_not_isLive live]
            exact reported

/-! ## When a listing ends -/

/-- What is gathered depends neither on the known objects nor on live
changes. -/
theorem listing_advance_filter {left right : Tracker resource}
    (same : left.listing = right.listing) (course : List (Notification resource)) :
    (left.advance course).listing =
      (right.advance (course.filter fun step => !step.isLive)).listing := by
  induction course generalizing left right with
  | nil => exact same
  | cons step course ih =>
      cases step with
      | listBegins | listed object | listEnds =>
          rw [List.filter_cons_of_pos rfl, advance_cons, advance_cons]
          apply ih
          simp only [next, same]
      | applied object | deleted object =>
          rw [List.filter_cons_of_neg (by simp [Notification.isLive]), advance_cons]
          exact ih same

theorem isSome_listing_advance {tracker : Tracker resource} (gathers : tracker.listing.isSome)
    {course : List (Notification resource)} (unfinished : .listEnds ∉ course) :
    (tracker.advance course).listing.isSome := by
  induction course generalizing tracker with
  | nil => exact gathers
  | cons step course ih =>
      rw [List.mem_cons, not_or] at unfinished
      obtain ⟨notEnd, unfinished⟩ := unfinished
      apply ih _ unfinished
      cases step with
      | listBegins | listed object => rfl
      | listEnds => exact absurd rfl notEnd
      | applied object | deleted object => exact gathers

/-- When a listing that is gathered ends, the tracker is what was gathered. -/
theorem next_listEnds_congr {left right : Tracker resource}
    (same : left.listing = right.listing) (gathers : left.listing.isSome) :
    left.next .listEnds = right.next .listEnds := by
  obtain ⟨listed, found⟩ := Option.isSome_iff_exists.mp gathers
  simp only [next, ← same, found, Option.getD_some]

/-- A listing from its beginning to its end, with what happens in between. -/
def relisting (between : List (Notification resource)) : List (Notification resource) :=
  .listBegins :: (between ++ [.listEnds])

/-- After a listing a tracker is what the listing alone makes of any tracker. -/
theorem advance_relisting {between : List (Notification resource)}
    (unfinished : .listEnds ∉ between) (left right : Tracker resource) :
    left.advance (relisting between) =
      right.advance (relisting (between.filter fun step => !step.isLive)) := by
  simp only [relisting, advance_cons, advance_append, advance_nil]
  have begun : (left.next .listBegins).listing = (right.next .listBegins).listing := rfl
  apply next_listEnds_congr
  · exact listing_advance_filter begun between
  · exact isSome_listing_advance rfl unfinished

/-- A listing is atomic.  As long as it has not ended, the reports and the
number of known objects are those of the live changes alone.  When it has ended,
the tracker is the same after any history, and also without the live changes
that came in between; so are all reports and numbers from then on. -/
theorem listing_is_atomic (between : List (Notification resource))
    (unfinished : .listEnds ∉ between) :
    (∀ tracker : Tracker resource,
      tracker.reports between = tracker.reports (between.filter (·.isLive)) ∧
        ∀ done, done <+: between →
          (tracker.advance done).size = (tracker.advance (done.filter (·.isLive))).size) ∧
      ∀ first second later : List (Notification resource),
        after (first ++ relisting between) = after (second ++ relisting between) ∧
        after (first ++ relisting between) =
          after (relisting (between.filter fun step => !step.isLive)) ∧
        (after (first ++ relisting between)).reports later =
          (after (second ++ relisting between)).reports later ∧
        ∀ done, done <+: later →
          (after (first ++ relisting between ++ done)).size =
            (after (second ++ relisting between ++ done)).size := by
  constructor
  · intro tracker
    refine ⟨(advance_filter_isLive rfl unfinished).2, fun done front => ?_⟩
    have stillUnfinished : .listEnds ∉ done := fun member => unfinished (front.subset member)
    exact congrArg Store.size (advance_filter_isLive rfl stillUnfinished).1
  · intro first second later
    have forgets : ∀ history, after (history ++ relisting between) =
        after (relisting (between.filter fun step => !step.isLive)) := fun history => by
      rw [after_append]
      exact advance_relisting unfinished _ _
    have same : after (first ++ relisting between) = after (second ++ relisting between) :=
      (forgets first).trans (forgets second).symm
    refine ⟨same, forgets first, by rw [same], fun done _ => ?_⟩
    rw [after_append _ done, after_append _ done, same]

/-! ## A listing that begins anew -/

/-- A Node, by its name. -/
def firstNode : Object .nodes :=
  (Object.read? .nodes (.obj [("metadata", .obj [("name", .str "a")])])).get rfl

/-- Another Node. -/
def secondNode : Object .nodes :=
  (Object.read? .nodes (.obj [("metadata", .obj [("name", .str "b")])])).get rfl

/-- A listing begins anew after a Node was listed and another one changed. -/
def restartedListing : List (Notification .nodes) :=
  [.listed firstNode, .applied secondNode, .listBegins, .listed secondNode, .deleted secondNode]

/-- Of the listing that begins anew only the last part is left, also after a
history in which a Node was known: the Node that was listed last, and no other. -/
theorem listing_is_atomic_restartedListing :
    .listEnds ∉ restartedListing ∧
      empty.reports restartedListing = empty.reports (restartedListing.filter (·.isLive)) ∧
      after ([.applied firstNode] ++ relisting restartedListing) =
        after ([] ++ relisting restartedListing) ∧
      after ([.applied firstNode] ++ relisting restartedListing) =
        ⟨Store.empty.insert secondNode.key secondNode, none⟩ ∧
      (after ([.applied firstNode] ++ relisting restartedListing)).size = 1 ∧
      secondNode.key ≠ firstNode.key := by
  have unfinished : .listEnds ∉ restartedListing := by simp [restartedListing]
  obtain ⟨unseen, total⟩ := listing_is_atomic restartedListing unfinished
  obtain ⟨same, alone, -⟩ := total [.applied firstNode] [] []
  -- Without the live changes one Node is left to be listed after the last beginning.
  have left : after (relisting (restartedListing.filter fun step => !step.isLive)) =
      ⟨Store.empty.insert secondNode.key secondNode, none⟩ := rfl
  exact ⟨unfinished, (unseen empty).1, same, alone.trans left,
    congrArg size (alone.trans left), by decide +kernel⟩

end Tracker

end ChangeRelay
