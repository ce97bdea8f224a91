import ChangeRelay.Proofs.Snapshot.Identity
import ChangeRelay.Proofs.Tracker.Recall

/-!
# Where a change comes from

A tracker holds every object under the key of this object, among the known objects
and in the listing that it gathers.  So the object that is found under a key and
reported as the state before an update is an earlier state of the same object.
All that a change says follows from the object that the notification is about.
-/

namespace ChangeRelay

variable {resource : Resource}

/-! ## Objects are held under their keys -/

namespace Store

variable {α : Type} {keyOf : α → String}

/-- Every value is held under its own key. -/
def KeyedBy (keyOf : α → String) (store : Store α) : Prop :=
  ∀ key value, store.get? key = some value → keyOf value = key

theorem keyedBy_empty : (empty : Store α).KeyedBy keyOf :=
  fun _ _ found => nomatch found

theorem KeyedBy.insert {store : Store α} (keyed : store.KeyedBy keyOf) (value : α) :
    (store.insert (keyOf value) value).KeyedBy keyOf := by
  intro key other found
  by_cases same : key = keyOf value
  · subst same
    rw [get?_insert_self] at found
    rw [Option.some.inj found]
  · rw [get?_insert_of_ne same] at found
    exact keyed key other found

theorem KeyedBy.erase {store : Store α} (keyed : store.KeyedBy keyOf) (erased : String) :
    (store.erase erased).KeyedBy keyOf := by
  intro key other found
  by_cases same : key = erased
  · subst same
    rw [get?_erase_self] at found
    cases found
  · rw [get?_erase_of_ne same] at found
    exact keyed key other found

end Store

namespace Tracker

/-- Every object that is known or gathered is held under its key. -/
structure Keyed (tracker : Tracker resource) : Prop where
  known : tracker.known.KeyedBy Object.key
  gathered : ∀ listed, tracker.listing = some listed → listed.KeyedBy Object.key

theorem Keyed.listing_getD {tracker : Tracker resource} (keyed : tracker.Keyed)
    {fallback : Store (Object resource)} (otherwise : fallback.KeyedBy Object.key) :
    (tracker.listing.getD fallback).KeyedBy Object.key := by
  cases gathered : tracker.listing with
  | none => exact otherwise
  | some listed => exact keyed.gathered listed gathered

theorem keyed_empty : (empty : Tracker resource).Keyed :=
  ⟨Store.keyedBy_empty, fun _ gathered => nomatch gathered⟩

/-- Every notification keeps the objects under their keys. -/
theorem Keyed.next {tracker : Tracker resource} (keyed : tracker.Keyed)
    (step : Notification resource) : (tracker.next step).Keyed := by
  cases step with
  | listBegins =>
      refine ⟨keyed.known, ?_⟩
      rintro _ ⟨⟩
      exact Store.keyedBy_empty
  | listed object =>
      refine ⟨keyed.known, ?_⟩
      rintro _ ⟨⟩
      exact (keyed.listing_getD Store.keyedBy_empty).insert object
  | listEnds => exact ⟨keyed.listing_getD keyed.known, fun _ gathered => nomatch gathered⟩
  | applied object => exact ⟨keyed.known.insert object, keyed.gathered⟩
  | deleted object => exact ⟨keyed.known.erase object.key, keyed.gathered⟩

/-- Trackers hold every object under its key, whatever happened before. -/
theorem keyed_after (history : List (Notification resource)) : (after history).Keyed := by
  induction history using List.reverseRecOn with
  | nil => exact keyed_empty
  | append_singleton history step ih =>
      rw [after_concat]
      exact ih.next step

end Tracker

/-! ## Well-formed changes -/

/-- A change says of an object what is so: its kind and its identity, one of three
reasons, and for an update alone an earlier state of the same object. -/
structure Change.WellFormed (object : Object resource) (change : Change) : Prop where
  current : change.current = .ofObject object
  kind : change.kind = resource.kind
  currentKind : change.current.kind? = some change.kind
  name : change.name = object.name?.getD ""
  namespaceName : change.namespaceName = object.namespace?.getD ""
  reason : ∀ label, change.reason ≠ .other label
  paired : change.previous.isSome ↔ change.reason = .updated
  previous : ∀ snapshot, change.previous = some snapshot →
    ∃ earlier : Object resource, snapshot = .ofObject earlier ∧ earlier.key = object.key
  previousKey : ∀ snapshot, change.previous = some snapshot → snapshot.key = change.current.key
  previousType : ∀ snapshot, change.previous = some snapshot →
    snapshot.resource? = change.current.resource?

namespace Tracker

/-- A change that is made of an object, for a reason that goes with what was found
under its key, is well formed. -/
theorem wellFormed_changeOf {reason : Reason} {object : Object resource}
    {previous? : Option (Object resource)} (named : ∀ label, reason ≠ .other label)
    (paired : previous?.isSome ↔ reason = .updated)
    (sameKey : ∀ previous, previous? = some previous → previous.key = object.key) :
    (changeOf reason object previous?).WellFormed object where
  current := rfl
  kind := rfl
  currentKind := Snapshot.kind?_ofObject object
  name := congrArg (Option.getD · "") (Snapshot.name?_ofObject object)
  namespaceName := congrArg (Option.getD · "") (Snapshot.namespace?_ofObject object)
  reason := named
  paired := by rwa [changeOf, Option.isSome_map]
  previous := by
    intro snapshot found
    obtain ⟨earlier, held, rfl⟩ := Option.map_eq_some_iff.mp found
    exact ⟨earlier, rfl, sameKey earlier held⟩
  previousKey := by
    intro snapshot found
    obtain ⟨earlier, held, rfl⟩ := Option.map_eq_some_iff.mp found
    rw [changeOf, Snapshot.key_ofObject, Snapshot.key_ofObject, sameKey earlier held]
  previousType := by
    intro snapshot found
    obtain ⟨earlier, _, rfl⟩ := Option.map_eq_some_iff.mp found
    exact Snapshot.resource?_ofObject earlier object

/-- The changes that a tracker reports are well formed. -/
theorem Keyed.wellFormed {tracker : Tracker resource} (keyed : tracker.Keyed)
    {step : Notification resource} {change : Change}
    (reported : tracker.report? step = some change) :
    ∃ object, (step = .applied object ∨ step = .deleted object) ∧ change.WellFormed object := by
  cases step with
  | listBegins | listed object | listEnds => cases reported
  | applied object =>
      refine ⟨object, .inl rfl, ?_⟩
      cases known : tracker.known? object.key with
      | none =>
          rw [report?_applied_unknown known] at reported
          cases reported
          exact wellFormed_changeOf nofun (by simp) nofun
      | some previous =>
          rw [report?_applied_known known] at reported
          cases reported
          refine wellFormed_changeOf nofun (by simp) ?_
          rintro _ ⟨⟩
          exact keyed.known _ _ known
  | deleted object =>
      cases reported
      exact ⟨object, .inr rfl, wellFormed_changeOf nofun (by simp) nofun⟩

end Tracker

end ChangeRelay
