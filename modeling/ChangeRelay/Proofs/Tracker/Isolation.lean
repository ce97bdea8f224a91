import ChangeRelay.Proofs.Tracker.Recall
import ChangeRelay.Proofs.Tracker.Relisting

/-!
# Objects do not disturb each other

What a tracker holds for a key depends on the notifications about that key and on
the beginnings and ends of listings.  The notifications about all other objects
can be left out, and the changes that are reported for the key stay the same.

This is so in orderly histories, where every object is listed after its listing
has begun.  An object that is listed without a beginning opens a listing by
itself, and the end of that listing replaces what is known for every key.
-/

namespace ChangeRelay

variable {resource : Resource}

/-! ## What matters to a key -/

namespace Notification

instance decidableConcerns (key : String) :
    (step : Notification resource) → Decidable (step.Concerns key)
  | .applied object | .deleted object => inferInstanceAs (Decidable (object.key = key))
  | .listBegins | .listed _ | .listEnds => inferInstanceAs (Decidable False)

/-- A notification is about an object with this key, or about a listing as a
whole. -/
def MattersTo (key : String) : Notification resource → Prop
  | .listBegins | .listEnds => True
  | .listed object | .applied object | .deleted object => object.key = key

instance decidableMattersTo (key : String) :
    (step : Notification resource) → Decidable (step.MattersTo key)
  | .listBegins | .listEnds => inferInstanceAs (Decidable True)
  | .listed object | .applied object | .deleted object =>
      inferInstanceAs (Decidable (object.key = key))

theorem Concerns.mattersTo {key : String} {step : Notification resource}
    (concerns : step.Concerns key) : step.MattersTo key := by
  cases step with
  | listBegins | listed object | listEnds => exact concerns.elim
  | applied object | deleted object => exact concerns

end Notification

namespace History

/-- A history without the objects that have another key. -/
def about (key : String) (history : List (Notification resource)) :
    List (Notification resource) :=
  history.filter (·.MattersTo key)

/-- A listing was begun, and it has not ended since. -/
def ListingBegun (history : List (Notification resource)) : Prop :=
  Since (fun _ step => step = .listBegins) (fun _ step => step = .listEnds) history

/-- Every object is listed after its listing has begun. -/
def Orderly (history : List (Notification resource)) : Prop :=
  ∀ before object later, history = before ++ .listed object :: later → ListingBegun before

section Concat

variable {key : String} {history : List (Notification resource)} {step : Notification resource}

theorem about_concat (matters : step.MattersTo key) :
    about key (history ++ [step]) = about key history ++ [step] := by
  simp [about, matters]

theorem about_concat_of_not (foreign : ¬ step.MattersTo key) :
    about key (history ++ [step]) = about key history := by
  simp [about, foreign]

end Concat

section Orderly

variable {history later : List (Notification resource)}

theorem ListingBegun.listingOpen (begun : ListingBegun history) : ListingOpen history := by
  obtain ⟨before, _, since, split, rfl, lasting⟩ := begun
  exact ⟨before, .listBegins, since, split, trivial, lasting⟩

theorem ListingBegun.append (begun : ListingBegun later) (history : List (Notification resource)) :
    ListingBegun (history ++ later) := by
  obtain ⟨before, step, since, rfl, begins, lasting⟩ := begun
  exact ⟨history ++ before, step, since, by simp, begins, lasting⟩

/-- The front of an orderly history is orderly. -/
theorem Orderly.front (orderly : Orderly (history ++ later)) : Orderly history := by
  rintro before object between rfl
  exact orderly before object (between ++ later) (by simp)

theorem Orderly.begun {object : Object resource}
    (orderly : Orderly (history ++ [.listed object])) : ListingBegun history :=
  orderly history object [] rfl

/-- Orderly histories one after the other are orderly. -/
theorem Orderly.append (first : Orderly history) (second : Orderly later) :
    Orderly (history ++ later) := by
  intro before object rest split
  rcases List.append_eq_append_iff.mp split with ⟨front, rfl, same⟩ | ⟨front, rfl, same⟩
  · exact (second front object rest same).append history
  · cases front with
    | nil => simpa using (second [] object rest same.symm).append before
    | cons step front =>
        obtain ⟨rfl, _⟩ := List.cons.inj same
        exact first before object front rfl

theorem orderly_of_unlisted (unlisted : ∀ object, .listed object ∉ history) : Orderly history := by
  rintro before object rest rfl
  exact absurd (by simp) (unlisted object)

/-- A listing is orderly as long as it has not ended. -/
theorem orderly_listing (unfinished : .listEnds ∉ history) : Orderly (.listBegins :: history) := by
  intro before object rest split
  cases before with
  | nil => cases split
  | cons step before =>
      obtain ⟨rfl, rfl⟩ := List.cons.inj split
      refine ⟨[], .listBegins, before, rfl, rfl, ?_⟩
      rintro front _ since rfl rfl
      exact unfinished (by simp)

end Orderly

end History

/-! ## What a tracker holds for a key -/

namespace Store

variable {α : Type}

theorem get?_insert_congr {left right : Store α} {key : String}
    (same : left.get? key = right.get? key) (other : String) (value : α) :
    (left.insert other value).get? key = (right.insert other value).get? key := by
  by_cases equal : key = other
  · subst equal
    rw [get?_insert_self, get?_insert_self]
  · rw [get?_insert_of_ne equal, get?_insert_of_ne equal, same]

theorem get?_erase_congr {left right : Store α} {key : String}
    (same : left.get? key = right.get? key) (other : String) :
    (left.erase other).get? key = (right.erase other).get? key := by
  by_cases equal : key = other
  · subst equal
    rw [get?_erase_self, get?_erase_self]
  · rw [get?_erase_of_ne equal, get?_erase_of_ne equal, same]

theorem get?_getD (store? : Option (Store α)) (fallback : Store α) (key : String) :
    (store?.getD fallback).get? key = (store?.map (·.get? key)).getD (fallback.get? key) := by
  cases store? <;> rfl

end Store

namespace Tracker

/-- Two trackers know the same object for a key, and they gather the same for it,
if they gather a listing at all. -/
structure AgreeOn (key : String) (left right : Tracker resource) : Prop where
  known : left.known? key = right.known? key
  listing : left.listing.map (·.get? key) = right.listing.map (·.get? key)

variable {key : String} {left right : Tracker resource}

theorem AgreeOn.trans {middle : Tracker resource} (first : AgreeOn key left middle)
    (second : AgreeOn key middle right) : AgreeOn key left right :=
  ⟨first.known.trans second.known, first.listing.trans second.listing⟩

/-- Trackers that agree on a key still do after the same notification. -/
theorem AgreeOn.next (agree : AgreeOn key left right) (step : Notification resource) :
    AgreeOn key (left.next step) (right.next step) := by
  have gathered (fallback : Store (Object resource)) :
      (left.listing.getD fallback).get? key = (right.listing.getD fallback).get? key := by
    rw [Store.get?_getD, Store.get?_getD, agree.listing]
  cases step with
  | listBegins => exact ⟨agree.known, rfl⟩
  | listed object =>
      exact ⟨agree.known, congrArg some (Store.get?_insert_congr (gathered _) _ _)⟩
  | listEnds =>
      refine ⟨?_, rfl⟩
      simp only [known?, Tracker.next]
      rw [Store.get?_getD, Store.get?_getD, agree.listing]
      exact congrArg _ agree.known
  | applied object => exact ⟨Store.get?_insert_congr agree.known _ _, agree.listing⟩
  | deleted object => exact ⟨Store.get?_erase_congr agree.known _, agree.listing⟩

/-- A notification about another object changes nothing that a tracker holds for
the key.  An object may only be listed while a listing is gathered. -/
theorem agreeOn_next {tracker : Tracker resource} {step : Notification resource}
    (foreign : ¬ step.MattersTo key)
    (gathers : ∀ object, step = .listed object → tracker.listing.isSome) :
    AgreeOn key (tracker.next step) tracker := by
  cases step with
  | listBegins | listEnds => exact absurd trivial foreign
  | listed object =>
      obtain ⟨listed, found⟩ := Option.isSome_iff_exists.mp (gathers object rfl)
      refine ⟨rfl, ?_⟩
      simp only [next, found, Option.getD_some, Option.map_some]
      exact congrArg some (Store.get?_insert_of_ne (Ne.symm foreign) _ _)
  | applied object => exact ⟨Store.get?_insert_of_ne (Ne.symm foreign) _ _, rfl⟩
  | deleted object => exact ⟨Store.get?_erase_of_ne (Ne.symm foreign) _, rfl⟩

/-- Trackers that agree on a key report the same changes for it. -/
theorem AgreeOn.report?_eq (agree : AgreeOn key left right) {step : Notification resource}
    (concerns : step.Concerns key) : left.report? step = right.report? step := by
  cases step with
  | listBegins | listed object | listEnds => exact concerns.elim
  | applied object =>
      cases concerns
      simp only [report?, agree.known]
  | deleted object => rfl

/-! ## Leaving out the other objects -/

open History

/-- After an orderly history a tracker holds for a key what it holds without the
other objects. -/
theorem agreeOn_after_about (key : String) {history : List (Notification resource)}
    (orderly : Orderly history) : AgreeOn key (after history) (after (about key history)) := by
  induction history using List.reverseRecOn with
  | nil => exact ⟨rfl, rfl⟩
  | append_singleton history step ih =>
      have agree := ih orderly.front
      by_cases matters : step.MattersTo key
      · rw [about_concat matters, after_concat, after_concat]
        exact agree.next step
      · rw [about_concat_of_not matters, after_concat]
        refine (agreeOn_next matters fun object listed => ?_).trans agree
        subst listed
        exact (isSome_listing_iff history).mpr orderly.begun.listingOpen

/-- The changes that a tracker reports in the course of some notifications for the
objects with a key. -/
def reportsOf (key : String) (tracker : Tracker resource) :
    List (Notification resource) → List Change
  | [] => []
  | step :: course =>
      (if step.Concerns key then (tracker.report? step).toList else []) ++
        (tracker.next step).reportsOf key course

theorem reportsOf_concat (key : String) (tracker : Tracker resource)
    (course : List (Notification resource)) (step : Notification resource) :
    tracker.reportsOf key (course ++ [step]) =
      tracker.reportsOf key course ++
        if step.Concerns key then ((tracker.advance course).report? step).toList else [] := by
  induction course generalizing tracker with
  | nil => simp [reportsOf]
  | cons first course ih => simp [reportsOf, ih]

theorem reports_append (tracker : Tracker resource) (course later : List (Notification resource)) :
    tracker.reports (course ++ later) =
      tracker.reports course ++ (tracker.advance course).reports later := by
  induction course generalizing tracker with
  | nil => rfl
  | cons first course ih => simp [reports, ih]

theorem reports_concat (tracker : Tracker resource) (course : List (Notification resource))
    (step : Notification resource) :
    tracker.reports (course ++ [step]) =
      tracker.reports course ++ ((tracker.advance course).report? step).toList := by
  simp [reports_append, reports]

theorem reports_append_toList (tracker : Tracker resource) (course : List (Notification resource))
    (step? : Option (Notification resource)) :
    tracker.reports (course ++ step?.toList) =
      tracker.reports course ++ (step?.bind (tracker.advance course).report?).toList := by
  cases step? with
  | none => simp
  | some step => exact tracker.reports_concat course step

/-- The changes for a key are among those that are reported, in the same order. -/
theorem reportsOf_sublist_reports (key : String) (tracker : Tracker resource)
    (course : List (Notification resource)) :
    (tracker.reportsOf key course).Sublist (tracker.reports course) := by
  induction course generalizing tracker with
  | nil => exact .slnil
  | cons step course ih =>
      rw [reportsOf, reports]
      by_cases concerns : step.Concerns key
      · rw [if_pos concerns]
        exact (ih _).append_left _
      · rw [if_neg concerns, List.nil_append]
        exact (ih _).trans (List.sublist_append_right _ _)

/-- A notification that matters to a key without concerning it reports nothing. -/
theorem report?_of_not_concerns {tracker : Tracker resource} {step : Notification resource}
    (matters : step.MattersTo key) (silent : ¬ step.Concerns key) :
    tracker.report? step = none := by
  cases step with
  | listBegins | listed object | listEnds => rfl
  | applied object | deleted object => exact absurd matters silent

/-- The changes that are reported for a key are the changes that are reported
without the other objects. -/
theorem reportsOf_eq_reports_about (key : String) {history : List (Notification resource)}
    (orderly : Orderly history) :
    empty.reportsOf key history = empty.reports (about key history) := by
  induction history using List.reverseRecOn with
  | nil => rfl
  | append_singleton history step ih =>
      have agree := agreeOn_after_about key orderly.front
      rw [reportsOf_concat, ih orderly.front]
      by_cases matters : step.MattersTo key
      · rw [about_concat matters, reports_concat]
        by_cases concerns : step.Concerns key
        · rw [if_pos concerns]
          exact congrArg (_ ++ Option.toList ·) (agree.report?_eq concerns)
        · rw [if_neg concerns, report?_of_not_concerns matters concerns]
          rfl
      · have silent : ¬ step.Concerns key := fun concerns => matters concerns.mattersTo
        rw [about_concat_of_not matters, if_neg silent, List.append_nil]

/-- Objects do not disturb each other.  In an orderly history the report of every
notification that concerns a key is the one without the other objects, and so are
the changes for the key one after another.  Orderly histories in which the same
notifications matter to the key report the same changes for it. -/
theorem objects_do_not_interfere (key : String) (history : List (Notification resource))
    (orderly : Orderly history) :
    (∀ before step later, history = before ++ step :: later → step.Concerns key →
      (after before).report? step = (after (about key before)).report? step) ∧
      empty.reportsOf key history = empty.reports (about key history) ∧
      ∀ other, Orderly other → about key other = about key history →
        empty.reportsOf key other = empty.reportsOf key history := by
  refine ⟨?_, reportsOf_eq_reports_about key orderly, fun other alsoOrderly same => ?_⟩
  · rintro before step later rfl concerns
    exact (agreeOn_after_about key orderly.front).report?_eq concerns
  · rw [reportsOf_eq_reports_about key alsoOrderly, reportsOf_eq_reports_about key orderly, same]

/-! ## Two Nodes -/

/-- Two Nodes are listed while one of them changes, and both change later on. -/
def interleavedNodes : List (Notification .nodes) :=
  [.listBegins, .listed firstNode, .applied secondNode, .listed secondNode, .listEnds,
    .deleted secondNode, .applied firstNode]

/-- The first Node is updated, with or without the second one. -/
theorem objects_do_not_interfere_interleavedNodes :
    Orderly interleavedNodes ∧
      empty.reportsOf firstNode.key interleavedNodes =
        empty.reports [.listBegins, .listed firstNode, .listEnds, .applied firstNode] ∧
      (empty.reportsOf firstNode.key interleavedNodes).map Change.reason = [.updated] := by
  have listing :
      Orderly [.listBegins, .listed firstNode, .applied secondNode, .listed secondNode] :=
    orderly_listing (by simp)
  have live : Orderly [.listEnds, .deleted secondNode, .applied firstNode] :=
    orderly_of_unlisted (by simp)
  have orderly : Orderly interleavedNodes := listing.append live
  exact ⟨orderly, (objects_do_not_interfere firstNode.key interleavedNodes orderly).2.1, by decide⟩

/-- A Node that is listed without a beginning makes the tracker forget the other
one. -/
example :
    let disorderly := [.applied firstNode, .listed secondNode, .listEnds]
    (after disorderly).report? (.applied firstNode) ≠
      (after (about firstNode.key disorderly)).report? (.applied firstNode) := by
  decide

end Tracker

end ChangeRelay
