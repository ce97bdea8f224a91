import ChangeRelay.Proofs.Tracker.History

/-!
# Trackers know what their history says

The laws of this module follow one notification at a time.  A gathered listing
is there exactly while a listing is open, and it holds what was listed last.  A
notification that decides about a key makes the tracker know what it leaves,
and any other notification changes nothing that the tracker knows about the key.
-/

namespace ChangeRelay

variable {resource : Resource}

open History

/-! ## Reports -/

namespace Tracker

theorem report?_applied_unknown {tracker : Tracker resource} {object : Object resource}
    (unknown : tracker.known? object.key = none) :
    tracker.report? (.applied object) = some (changeOf .created object none) := by
  simp [report?, unknown]

theorem report?_applied_known {tracker : Tracker resource} {object previous : Object resource}
    (known : tracker.known? object.key = some previous) :
    tracker.report? (.applied object) = some (changeOf .updated object (some previous)) := by
  simp [report?, known]

theorem report?_deleted (tracker : Tracker resource) (object : Object resource) :
    tracker.report? (.deleted object) = some (changeOf .deleted object none) :=
  rfl

end Tracker

namespace History

/-! ## Listings that grow -/

theorem listingOpen_concat_iff (history : List (Notification resource))
    (step : Notification resource) :
    ListingOpen (history ++ [step]) ↔ step.Gathers ∨ (step ≠ .listEnds ∧ ListingOpen history) :=
  since_concat_iff _ _ history step

theorem lastListed_concat_iff (key : String) (object : Object resource)
    (history : List (Notification resource)) (step : Notification resource) :
    LastListed key object (history ++ [step]) ↔
      (step = .listed object ∧ object.key = key) ∨
        (¬ step.Discards key ∧ LastListed key object history) :=
  since_concat_iff _ _ history step

/-- A listing is gathered exactly while one is open. -/
theorem isSome_listing_iff (history : List (Notification resource)) :
    (Tracker.after history).listing.isSome ↔ ListingOpen history := by
  induction history using List.reverseRecOn with
  | nil =>
      have noneOpen : ¬ ListingOpen ([] : List (Notification resource)) := not_since_nil _ _
      simp [Tracker.empty, noneOpen]
  | append_singleton history step ih =>
      rw [Tracker.after_concat, listingOpen_concat_iff]
      cases step with
      | listBegins | listed object | listEnds => simp [Tracker.next, Notification.Gathers]
      | applied object | deleted object => simpa [Tracker.next, Notification.Gathers] using ih

/-- The gathered listing holds the object that was listed last under each key. -/
theorem get?_listing_eq_some_iff (history : List (Notification resource)) (key : String)
    (object : Object resource) :
    ((Tracker.after history).listing.getD .empty).get? key = some object ↔
      LastListed key object history := by
  induction history using List.reverseRecOn with
  | nil =>
      have noneListed : ¬ LastListed key object [] := not_since_nil _ _
      simp [Tracker.empty, noneListed]
  | append_singleton history step ih =>
      rw [Tracker.after_concat, lastListed_concat_iff]
      cases step with
      | listBegins | listEnds => simp [Tracker.next, Notification.Discards]
      | applied other | deleted other => simpa [Tracker.next, Notification.Discards] using ih
      | listed other =>
          simp only [Tracker.next, Option.getD_some, Notification.Discards,
            Notification.listed.injEq]
          by_cases same : other.key = key
          · subst same
            rw [Store.get?_insert_self]
            constructor
            · intro replaced
              cases replaced
              exact .inl ⟨rfl, rfl⟩
            · rintro (⟨rfl, _⟩ | ⟨different, _⟩)
              · rfl
              · exact absurd rfl different
          · rw [Store.get?_insert_of_ne (Ne.symm same), ih]
            constructor
            · intro last
              exact .inr ⟨same, last⟩
            · rintro (⟨rfl, equal⟩ | ⟨_, last⟩)
              · exact absurd equal same
              · exact last

/-! ## One notification -/

theorem Leaves.decides {key : String} {found? : Option (Object resource)}
    {before : List (Notification resource)} {step : Notification resource}
    (leaves : Leaves key found? before step) : Decides key before step := by
  cases leaves with
  | applied same => exact .inl same
  | deleted same => exact .inl same
  | listed completes _ => exact .inr completes
  | unlisted completes _ => exact .inr completes

/-- After a listing is completed, the tracker knows what it listed last. -/
theorem known?_next_eq_iff_of_completes {key : String} {history : List (Notification resource)}
    {step : Notification resource} (completes : CompletesListing history step)
    (found? : Option (Object resource)) :
    ((Tracker.after history).next step).known? key = found? ↔ Leaves key found? history step := by
  obtain ⟨rfl, isOpen⟩ := completes
  obtain ⟨listed, gathered⟩ :=
    Option.isSome_iff_exists.mp ((isSome_listing_iff history).mpr isOpen)
  have holds := get?_listing_eq_some_iff history key
  simp only [gathered, Option.getD_some] at holds
  simp only [Tracker.known?, Tracker.next, gathered, Option.getD_some]
  cases found? with
  | some object =>
      rw [holds object]
      constructor
      · exact .listed ⟨rfl, isOpen⟩
      · intro leaves
        cases leaves with
        | listed _ last => exact last
  | none =>
      rw [Option.eq_none_iff_forall_ne_some]
      simp only [ne_eq, holds]
      constructor
      · exact .unlisted ⟨rfl, isOpen⟩
      · intro leaves
        cases leaves with
        | unlisted _ never => exact never

/-- After a notification that decides about a key, the tracker knows exactly
what the notification leaves. -/
theorem known?_next_eq_iff_leaves {key : String} {history : List (Notification resource)}
    {step : Notification resource} (decides : Decides key history step)
    (found? : Option (Object resource)) :
    ((Tracker.after history).next step).known? key = found? ↔ Leaves key found? history step := by
  rcases decides with concerns | completes
  · cases step with
    | listBegins | listed object | listEnds => exact concerns.elim
    | applied object =>
        cases concerns
        simp only [Tracker.known?, Tracker.next, Store.get?_insert_self]
        constructor
        · rintro rfl
          exact .applied rfl
        · intro leaves
          cases leaves with
          | applied _ => rfl
          | listed completes _ | unlisted completes _ => cases completes.1
    | deleted object =>
        cases concerns
        simp only [Tracker.known?, Tracker.next, Store.get?_erase_self]
        constructor
        · rintro rfl
          exact .deleted rfl
        · intro leaves
          cases leaves with
          | deleted _ => rfl
          | listed completes _ | unlisted completes _ => cases completes.1
  · exact known?_next_eq_iff_of_completes completes found?

/-- A notification that does not decide about a key changes nothing that the
tracker knows about it. -/
theorem known?_next_of_not_decides {key : String} {history : List (Notification resource)}
    {step : Notification resource} (undecided : ¬ Decides key history step) :
    ((Tracker.after history).next step).known? key = (Tracker.after history).known? key := by
  cases step with
  | listBegins | listed object => rfl
  | listEnds =>
      -- It ends no open listing, so there is nothing that would replace the known objects.
      have nothingGathered : (Tracker.after history).listing = none := by
        rw [← Option.not_isSome_iff_eq_none, isSome_listing_iff]
        exact fun isOpen => undecided (.inr ⟨rfl, isOpen⟩)
      simp [Tracker.next, Tracker.known?, nothingGathered]
  | applied object =>
      have different : key ≠ object.key := fun equal => undecided (.inl equal.symm)
      exact Store.get?_insert_of_ne different _ _
  | deleted object =>
      have different : key ≠ object.key := fun equal => undecided (.inl equal.symm)
      exact Store.get?_erase_of_ne different _

/-! ## Whole histories -/

theorem recalls_concat_iff (key : String) (found? : Option (Object resource))
    (history : List (Notification resource)) (step : Notification resource) :
    Recalls key found? (history ++ [step]) ↔
      Leaves key found? history step ∨
        (¬ Decides key history step ∧ Recalls key found? history) := by
  simp only [Recalls, since_concat_iff, never_concat_iff]
  tauto

/-- The tracker after a history knows what the history says. -/
theorem known?_after_eq_iff_recalls (history : List (Notification resource)) (key : String)
    (found? : Option (Object resource)) :
    (Tracker.after history).known? key = found? ↔ Recalls key found? history := by
  induction history using List.reverseRecOn with
  | nil =>
      have nothing : (Tracker.after ([] : List (Notification resource))).known? key = none := rfl
      rw [nothing, Recalls]
      simp [eq_comm]
  | append_singleton history step ih =>
      rw [Tracker.after_concat, recalls_concat_iff]
      by_cases decides : Decides key history step
      · rw [known?_next_eq_iff_leaves decides]
        simp [decides]
      · have leavesNothing : ¬ Leaves key found? history step := fun leaves =>
          decides leaves.decides
        rw [known?_next_of_not_decides decides, ih]
        simp [decides, leavesNothing]

/-- The report of a tracker is the change that a notification amounts to after
the history. -/
theorem report?_after_eq_iff_reports (history : List (Notification resource))
    (step : Notification resource) (change? : Option Change) :
    (Tracker.after history).report? step = change? ↔ Reports history step change? := by
  cases step with
  | listBegins | listed object | listEnds =>
      constructor
      · rintro rfl
        constructor
      · rintro ⟨⟩
        rfl
  | deleted object =>
      constructor
      · rintro rfl
        exact .deleted
      · rintro ⟨⟩
        rfl
  | applied object =>
      have known := known?_after_eq_iff_recalls history object.key
      cases found : (Tracker.after history).known? object.key with
      | some previous =>
          rw [Tracker.report?_applied_known found]
          constructor
          · rintro rfl
            exact .updated ((known _).mp found)
          · intro reports
            cases reports with
            | updated recalled =>
                have same := found.symm.trans ((known _).mpr recalled)
                cases same
                rfl
            | created unknown =>
                have same := found.symm.trans ((known _).mpr unknown)
                cases same
      | none =>
          rw [Tracker.report?_applied_unknown found]
          constructor
          · rintro rfl
            exact .created ((known _).mp found)
          · intro reports
            cases reports with
            | updated recalled =>
                have same := found.symm.trans ((known _).mpr recalled)
                cases same
            | created unknown => rfl

/-- A tracker follows its history: after any notifications in any order it knows
about each key what the history says, and its report of the next notification is
the change that this one amounts to after the history. -/
theorem tracker_follows_history (history : List (Notification resource)) :
    (∀ key found?,
      (Tracker.after history).known? key = found? ↔ Recalls key found? history) ∧
    ∀ step change?,
      (Tracker.after history).report? step = change? ↔ Reports history step change? :=
  ⟨known?_after_eq_iff_recalls history, report?_after_eq_iff_reports history⟩

end History

end ChangeRelay
