import ChangeRelay.Tracker
import ChangeRelay.Watch.Line
import ChangeRelay.Watch.Page
import ChangeRelay.Watch.Question

/-!
# The course of a watch

A watch begins with a listing, page by page, and goes on with the changes after
it.  Each reply yields items for the reader of the watch and the next question.

A listing that fails is begun anew.  When the version that a watch stands at is
gone, or an object comes without a version, the watch begins anew too; the rest
of the reply is then lost.  The lines of a reply to a question for changes count
whatever the status of the reply is.
-/

namespace ChangeRelay.Watch

/-- Why an item could not be told. -/
inductive Fault where
  | listFailed
  | versionMissing
  | lineUnreadable
  | reported (code : Int)
deriving DecidableEq, Repr

/-- The fault as it is shown. -/
def Fault.message : Fault → String
  | listFailed => "failed to perform initial object list"
  | versionMissing =>
      "no metadata.resourceVersion in watch result (does resource support watch?)"
  | lineUnreadable => "watch stream failed"
  | reported code => "error returned by apiserver during watch: " ++ toString code

/-- What a watch tells its reader. -/
inductive Item (resource : Resource) where
  | notification (notification : Notification resource)
  | fault (fault : Fault)

/-- Items, and the question that comes after them. -/
structure Progress (resource : Resource) where
  items : List (Item resource)
  question : Question

namespace Progress

variable {resource : Resource}

/-- Progress with some items in front. -/
def precede (items : List (Item resource)) (progress : Progress resource) : Progress resource :=
  { progress with items := items ++ progress.items }

/-- A watch begins, or begins anew. -/
def beginning : Progress resource :=
  ⟨[.notification .listBegins], .page none⟩

/-- A watch begins anew because of a fault. -/
def beginningAfter (fault : Fault) : Progress resource :=
  beginning.precede [.fault fault]

/-! ## Pages -/

/-- What a page brings. -/
def ofPage (page : Page resource) : Progress resource :=
  let listed := page.objects.map fun object => Item.notification (.listed object)
  match page.token, page.resourceVersion with
  | some token, _ => ⟨listed, .page (some token)⟩
  | none, some version => ⟨listed ++ [.notification .listEnds], .changes version⟩
  | none, none => beginningAfter .versionMissing

/-- What the reply to a question for a page brings. -/
def ofPageReply (reply : Reply) : Progress resource :=
  match if reply.isFailure then none else Page.ofBody? resource reply.body with
  | some page => ofPage page
  | none => beginningAfter .listFailed

/-! ## Changes -/

/-- What lines bring to a watch that stands at a version. -/
def ofLines (version : String) : List (Line resource) → Progress resource
  | [] => ⟨[], .changes version⟩
  | .applied object :: lines =>
      match nonempty? object.resourceVersion? with
      | some next => (ofLines next lines).precede [.notification (.applied object)]
      | none => beginningAfter .versionMissing
  | .deleted object :: lines =>
      match nonempty? object.resourceVersion? with
      | some next => (ofLines next lines).precede [.notification (.deleted object)]
      | none => beginningAfter .versionMissing
  | .bookmark next :: lines => ofLines next lines
  | .failure code :: lines =>
      if code = 410 then beginningAfter (.reported code)
      else (ofLines version lines).precede [.fault (.reported code)]
  | .unreadable :: lines => (ofLines version lines).precede [.fault .lineUnreadable]

/-- What the reply to a question for changes brings. -/
def ofChangesReply (version : String) (reply : Reply) : Progress resource :=
  ofLines version (reply.changes resource)

/-- What the reply to a question brings. -/
def ofReply (question : Question) (reply : Reply) : Progress resource :=
  match question with
  | .page _ => ofPageReply reply
  | .changes version => ofChangesReply version reply

end Progress

end ChangeRelay.Watch
