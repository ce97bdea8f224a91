import ChangeRelay.Catalog.Listing
import ChangeRelay.Object
import ChangeRelay.Watch.Question

/-!
# Pages of a list

A page is one JSON object with the objects of a resource.  Its keys may come in
any order; the objects and the metadata may come only once.
-/

namespace ChangeRelay.Watch

open Json (Draft Quotation Trouble)
open Schema (Datum)

/-- A page of a list. -/
structure Page (resource : Resource) where
  objects : List (Object resource)
  resourceVersion : Option String
  /-- What the next page is asked for with, if there is one. -/
  token : Option String

/-- What has been read of a page. -/
structure PageDraft (resource : Resource) where
  objects : Option (List (Object resource))
  metadata : Option Datum

namespace PageDraft

variable {resource : Resource}

/-- Nothing has been read. -/
def empty : PageDraft resource :=
  ⟨none, none⟩

/-- The objects of a page; null stands for none. -/
def takeObjects (room : Nat) : Draft → Except Trouble (List (Object resource))
  | .null => .ok []
  | .arr items closing =>
      match room with
      | 0 => .error .fault
      | room + 1 => do
          let objects ← items.mapM (Object.take resource room)
          closing.finish (.ok objects)
  | _ => .error .fault

/-- The metadata of a page. -/
def takeMetadata (room : Nat) (draft : Draft) : Except Trouble Datum := do
  let value ← Catalog.listMeta.take room draft
  match Catalog.listMeta.read? value with
  | some metadata => .ok metadata
  | none => .error .fault

/-- Read one member. -/
def takeMember (room : Nat) (page : PageDraft resource) (member : Quotation × Draft) :
    Except Trouble (PageDraft resource) := do
  let (key, draft) := member
  match ← key.read with
  | "items" =>
      if page.objects.isSome then .error .fault
      else return { page with objects := some (← takeObjects room draft) }
  | "metadata" =>
      if page.metadata.isSome then .error .fault
      else return { page with metadata := some (← takeMetadata room draft) }
  | _ =>
      let _ ← draft.value room
      return page

/-- The page that was read.  Without metadata it has no version and no token. -/
def finish (page : PageDraft resource) : Except Trouble (Page resource) :=
  match page.objects with
  | none => .error .fault
  | some objects =>
      let text name := nonempty? (page.metadata.bind (·.textField? name))
      .ok ⟨objects, text "resourceVersion", text "continue"⟩

end PageDraft

/-- The page that a draft shows. -/
def Page.take (resource : Resource) : Draft → Except Trouble (Page resource)
  | .obj members closing => do
      let page ← members.foldlM (PageDraft.takeMember (Json.maximumDepth - 1)) .empty
      closing.finish page.finish
  | _ => .error .fault

/-- The page in the body of a reply. -/
def Page.ofBody? (resource : Resource) (body : String) : Option (Page resource) :=
  (Json.readText (Page.take resource) body).toOption

end ChangeRelay.Watch
