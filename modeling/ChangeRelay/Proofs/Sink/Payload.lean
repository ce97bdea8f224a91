import ChangeRelay.Json.Writer
import ChangeRelay.Proofs.Network.Requests
import ChangeRelay.Proofs.Snapshot.Agreement
import ChangeRelay.Sink.Webhook
import Mathlib.Data.List.Forall2

/-!
# What a webhook posts

A batch is posted as one list, with one entry for each of its changes.  An entry is written apart
from the JSON form of its change, and it says besides which object the change is about.  So two
things are shown of it: without the additions it is the JSON form of the change, and what it adds
can be read off the object that it carries.
-/

namespace ChangeRelay

/-- An object without the members of some keys. -/
def Json.without (keys : List String) : Json → Json
  | .obj members => .obj (members.filter fun member => member.1 ∉ keys)
  | value => value

namespace Sink.Webhook

open Network Relay

/-! ## Entries -/

/-- An entry tells of a change: it is the JSON form of the change, together with the name and the
namespace that the object in the entry shows, empty when it shows none. -/
structure Tells (change : Change) (entry : Json) : Prop where
  kind : entry.get? "kind" = some (.str change.kind)
  reason : entry.get? "reason" = some (.str change.reason.label)
  object : entry.get? "object" = some change.current.toJson
  /-- There is an old object exactly if there is a state before, even one that is `null`. -/
  oldObject : entry.get? "old_object" = change.previous.map Snapshot.toJson
  serialized : entry.without ["name", "namespace"] = change.toJson
  name : entry.get? "name" =
    some (.str ((entry.textAt? ["object", "metadata", "name"]).getD ""))
  namespaceName : entry.get? "namespace" =
    some (.str ((entry.textAt? ["object", "metadata", "namespace"]).getD ""))

/-- The members of an entry, in the order of their keys. -/
theorem entry_eq (change : Change) :
    entry change = .obj
      ([("kind", .str change.kind), ("name", .str change.name),
          ("namespace", .str change.namespaceName), ("object", change.current.toJson)]
        ++ (change.previous.map fun previous => ("old_object", previous.toJson)).toList
        ++ [("reason", .str change.reason.label)]) := by
  -- The keys are literals, so that `String.reduceLT` settles where each of them goes.
  cases previous : change.previous <;>
    simp only [entry, previous, Json.object, Json.insertMember, Option.map_none, Option.map_some,
      Option.toList_none, Option.toList_some, List.cons_append, List.nil_append, List.append_nil,
      List.foldl_cons, List.foldl_nil, String.reduceLT, String.reduceEq, if_true, if_false]

theorem get?_object_entry (change : Change) :
    (entry change).get? "object" = some change.current.toJson := by
  simp [entry_eq, Json.get?, Json.lookup]

theorem textAt?_object_entry (change : Change) (path : List String) :
    (entry change).textAt? ("object" :: path) = change.current.toJson.textAt? path := by
  rw [Json.textAt?_cons, get?_object_entry]
  rfl

theorem entry_tells (change : Change) : Tells change (entry change) where
  kind := by simp [entry_eq, Json.get?, Json.lookup]
  reason := by
    cases previous : change.previous <;> simp [entry_eq, previous, Json.get?, Json.lookup]
  object := get?_object_entry change
  oldObject := by
    cases previous : change.previous <;> simp [entry_eq, previous, Json.get?, Json.lookup]
  serialized := by
    cases previous : change.previous <;> simp [entry_eq, previous, Json.without, Change.toJson]
  name := by
    rw [textAt?_object_entry, change.current.textAt?_name_toJson]
    simp [entry_eq, Json.get?, Json.lookup, Change.name]
  namespaceName := by
    rw [textAt?_object_entry, change.current.textAt?_namespace_toJson]
    simp [entry_eq, Json.get?, Json.lookup, Change.namespaceName]

/-! ## Batches -/

/-- Whether batches can be posted at all. -/
def CanPost (webhook : Webhook) : Prop :=
  ∃ written carried, Http.Usable webhook.url webhook.headers written carried

variable (transport : Http.Transport) (webhook : Webhook)

theorem requests_deliver (batch : List Change) (request : Http.Request) :
    (deliver transport webhook batch request).requests = [request] := by
  unfold deliver
  split
  · dsimp only
    split <;> rfl
  · rfl

/-- A batch with changes is posted in one request if batches can be posted, and otherwise there
is no request. -/
theorem requests_emit (batch : List Change) :
    (batch ≠ [] ∧ ∃ written carried, Http.Usable webhook.url webhook.headers written carried ∧
      (webhook.emit transport batch).requests =
        [transport.prepare .post written (Http.bodyHeaders (some (payload batch)) ++ carried)
          (some (payload batch))]) ∨
    (¬ (batch ≠ [] ∧ webhook.CanPost) ∧ (webhook.emit transport batch).requests = []) := by
  by_cases filled : batch = []
  · subst filled
    exact .inr ⟨fun can => can.1 rfl, rfl⟩
  · have notEmpty : ¬ batch.isEmpty = true := by simpa using filled
    rw [emit, if_neg notEmpty]
    cases built : Http.build transport .post webhook.url webhook.headers (some (payload batch)) with
    | ok request =>
        obtain ⟨written, carried, usable, rfl⟩ := Http.build_eq_ok_iff.mp built
        exact .inl ⟨filled, written, carried, usable, requests_deliver transport webhook batch _⟩
    | error failure =>
        refine .inr ⟨?_, rfl⟩
        rintro ⟨-, written, carried, usable⟩
        cases built.symm.trans (Http.build_eq_ok_iff.mpr ⟨written, carried, usable, rfl⟩)

/-- The entries of a posted batch tell of its changes one by one, in their order. -/
theorem payload_tells (batch : List Change) :
    ∃ entries, payload batch = .obj [("events", .arr entries)] ∧
      List.Forall₂ Tells batch entries := by
  refine ⟨batch.map entry, rfl, ?_⟩
  rw [List.forall₂_map_right_iff, List.forall₂_same]
  exact fun change _ => entry_tells change

/-- What is posted is one list with an entry for each change of the batch.  There is one request
for a batch with changes, if the address and the headers can be used, and none for a batch
without changes, which succeeds. -/
theorem posted_batch_tells_of_its_changes (batch : List Change) :
    (∀ request ∈ (webhook.emit transport batch).requests,
      request.method = .post ∧
        ∃ entries, request.body = some (.obj [("events", .arr entries)]) ∧
          List.Forall₂ Tells batch entries) ∧
    ((∃ request, (webhook.emit transport batch).requests = [request]) ↔
      batch ≠ [] ∧ webhook.CanPost) ∧
    (webhook.emit transport batch).requests.length ≤ 1 ∧
    (webhook.emit transport []).requests = [] ∧ (webhook.emit transport []).result = .ok () := by
  rcases requests_emit transport webhook batch with
    ⟨filled, written, carried, usable, sent⟩ | ⟨cannot, sent⟩
  · rw [sent]
    refine ⟨?_, ⟨fun _ => ⟨filled, written, carried, usable⟩, fun _ => ⟨_, rfl⟩⟩, le_rfl, rfl, rfl⟩
    intro request posted
    obtain rfl := List.mem_singleton.mp posted
    obtain ⟨entries, written, tell⟩ := payload_tells batch
    exact ⟨rfl, entries, congrArg some written, tell⟩
  · rw [sent]
    exact ⟨fun _ posted => absurd posted List.not_mem_nil,
      ⟨fun ⟨_, alone⟩ => (nomatch alone), fun can => absurd can cannot⟩, Nat.zero_le 1, rfl, rfl⟩

/-- A Widget without a name whose former state is `null`, and a Pod. -/
def oddBatch : List Change :=
  [⟨"Widget", .other "Synced", .other (.obj [("metadata", .arr [])]), some (.other .null)⟩,
    .created (Snapshot.classify "Pod" (.obj [("metadata", .obj [("name", .str "web-0")])])).1]

/-- A client behind which nothing answers.  It says what it accepts unless it was told, and
the host and the length of the body. -/
def plainClient : Http.Transport where
  ownHeaders _ written given body :=
    (if given.any (·.1 = "accept") then [] else [("accept", "*/*")]) ++
      [("host", written.host ++ ((written.authority.bind (·.port)).map fun port =>
        ":" ++ toString port).getD "")] ++
      body.toList.map fun body => ("content-length", toString body.toText.utf8ByteSize)
  answer? _ := none

/-- An address on this machine. -/
def localAddress : String :=
  "http://[::1]:8080/events"

theorem exists_asks_localAddress : ∃ written, Http.Asks localAddress written :=
  Http.exists_asks_of_isSome_build (by decide +kernel)

/-- Both changes are posted.  The first entry has an old object, which is `null`, and the second
has none. -/
theorem posted_batch_tells_of_its_changes_oddBatch :
    ∃ request, (emit plainClient (.ofUrl localAddress) oddBatch).requests = [request] ∧
      request.method = .post ∧
      ∃ first second, request.body = some (.obj [("events", .arr [first, second])]) ∧
        first.get? "old_object" = some .null ∧ first.get? "name" = some (.str "") ∧
        second.get? "old_object" = none ∧ second.get? "kind" = some (.str "Pod") := by
  obtain ⟨tell, sent, -⟩ := posted_batch_tells_of_its_changes plainClient (.ofUrl localAddress)
    oddBatch
  have canPost : (ofUrl localAddress).CanPost := by
    obtain ⟨written, asks⟩ := exists_asks_localAddress
    exact ⟨written, [], asks⟩
  obtain ⟨request, alone⟩ := sent.mpr ⟨List.cons_ne_nil _ _, canPost⟩
  obtain ⟨posted, entries, written, all⟩ := tell request (by simp [alone])
  obtain _ | ⟨first, _ | ⟨second, ⟨⟩⟩⟩ := all
  refine ⟨request, alone, posted, _, _, written, first.oldObject, ?_, second.oldObject, ?_⟩
  · rw [first.name, Json.textAt?_cons, first.object]
    rfl
  · rw [second.kind]
    decide +kernel

end Sink.Webhook

end ChangeRelay
