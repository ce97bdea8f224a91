import ChangeRelay.Catalog.Listing
import ChangeRelay.Object
import ChangeRelay.Watch.Question

/-!
# Lines about changes

A line is a JSON value with two parts, the kind of the line and its object.  It
is an object with a member for each part, in either order and among others, or
an array of the two.  If the kind comes first, the object is read for it at
once; if the object comes first, it is held back, and has to be valid JSON in
every part of it.

A line that is cut off says nothing, and is passed over.
-/

namespace ChangeRelay.Watch

open Json (Closing Draft Quotation Trouble)
open Schema (Datum)

/-- What a line says. -/
inductive Line (resource : Resource) where
  /-- An object is new or has a new state. -/
  | applied (object : Object resource)
  | deleted (object : Object resource)
  /-- All changes up to this version were told. -/
  | bookmark (resourceVersion : String)
  /-- The API reports a failure with this code. -/
  | failure (code : Int)
  | unreadable

/-- The kinds of lines. -/
inductive LineKind where
  | added
  | modified
  | deleted
  | bookmark
  | error
deriving DecidableEq, Repr

namespace LineKind

/-- The kind with this name. -/
def ofName? : String → Option LineKind
  | "ADDED" => some .added
  | "MODIFIED" => some .modified
  | "DELETED" => some .deleted
  | "BOOKMARK" => some .bookmark
  | "ERROR" => some .error
  | _ => none

/-- The kind that a quoted text names. -/
def ofQuotation (text : Quotation) : Except Trouble LineKind := do
  match ofName? (← text.read) with
  | some kind => .ok kind
  | none => .error .fault

/-- The kind that a draft names: as a text, or as the only key of an object,
with null as its value. -/
def take (room : Nat) : Draft → Except Trouble LineKind
  | .str text => ofQuotation text
  | .obj ((key, draft) :: rest) closing => do
      let kind ← ofQuotation key
      match ← draft.value room, rest with
      | .null, [] => closing.finish (.ok kind)
      | _, _ => .error .fault
  | .missing => .error .cutOff
  | _ => .error .fault

end LineKind

/-! ## The objects of lines -/

/-- What has been read of a bookmark. -/
structure BookmarkDraft where
  metadata : Option Datum
  /-- The values of the other members, in their order. -/
  others : List (String × Json)

namespace BookmarkDraft

/-- The metadata of a bookmark. -/
def takeMetadata (room : Nat) (draft : Draft) : Except Trouble Datum := do
  let value ← Catalog.bookmarkMeta.takeEither room Catalog.bookmarkMetaOrder draft
  match (Schema.Shape.record Catalog.bookmarkMeta).read? value with
  | some metadata => .ok metadata
  | none => .error .fault

/-- Read one member. -/
def takeMember (room : Nat) (bookmark : BookmarkDraft) (member : Quotation × Draft) :
    Except Trouble BookmarkDraft := do
  let (key, draft) := member
  match ← key.read with
  | "metadata" =>
      if bookmark.metadata.isSome then .error .fault
      else return { bookmark with metadata := some (← takeMetadata room draft) }
  | name => return { bookmark with others := bookmark.others ++ [(name, ← draft.value room)] }

/-- Whether a member was there exactly once, with a text as its value. -/
def hasOneText (name : String) (bookmark : BookmarkDraft) : Bool :=
  match bookmark.others.filter fun member => member.1 = name with
  | [(_, .str _)] => true
  | _ => false

/-- The version of a bookmark. -/
def version? (bookmark : BookmarkDraft) : Option String :=
  if bookmark.hasOneText "apiVersion" ∧ bookmark.hasOneText "kind" then
    bookmark.metadata.bind (·.textField? "resourceVersion")
  else none

end BookmarkDraft

/-- The version of the bookmark that a draft shows. -/
def takeBookmark (room : Nat) : Draft → Except Trouble String
  | .obj members closing =>
      match room with
      | 0 => .error .fault
      | room + 1 => do
          let bookmark ← members.foldlM (BookmarkDraft.takeMember room) ⟨none, []⟩
          closing.finish <|
            match bookmark.version? with
            | some version => .ok version
            | none => .error .fault
  | .arr _ _ => .error .fault
  | scalar => do
      let _ ← scalar.value room
      .error .fault

/-- The code of the status that a draft shows. -/
def takeCode (room : Nat) (draft : Draft) : Except Trouble Int := do
  let value ← Catalog.apiStatus.takeEither room Catalog.apiStatusOrder draft
  match ((Schema.Shape.record Catalog.apiStatus).read? value).bind (·.get? "code") with
  | some (.int code) => .ok code
  | _ => .error .fault

/-! ## Whole lines -/

namespace Line

variable {resource : Resource}

/-- What a line of a kind says with an object. -/
def ofObject (room : Nat) (kind : LineKind) (draft : Draft) :
    Except Trouble (Line resource) :=
  match kind with
  | .added | .modified => (Object.take resource room draft).map .applied
  | .deleted => (Object.take resource room draft).map .deleted
  | .bookmark => (takeBookmark room draft).map .bookmark
  | .error => (takeCode room draft).map .failure

/-- What has been read of a line. -/
inductive Progress (resource : Resource) where
  | nothing
  | kind (kind : LineKind)
  /-- The object came first and is held back. -/
  | object (draft : Draft)
  | all (line : Line resource)

/-- Read one member. -/
def takeMember (room : Nat) (progress : Progress resource) (member : Quotation × Draft) :
    Except Trouble (Progress resource) := do
  let (key, draft) := member
  match ← key.read, progress with
  | "type", .nothing => return .kind (← LineKind.take room draft)
  | "type", .object held =>
      let kind ← LineKind.take room draft
      return .all (← ofObject room kind held)
  | "object", .nothing =>
      let _ ← draft.value room
      return .object draft
  | "object", .kind kind => return .all (← ofObject room kind draft)
  | "type", _ | "object", _ => .error .fault
  | _, _ =>
      draft.skim
      return progress

/-- The line that a draft shows. -/
def take (resource : Resource) : Draft → Except Trouble (Line resource)
  | .obj members closing => do
      let progress ← members.foldlM (takeMember (Json.maximumDepth - 1)) .nothing
      closing.finish <|
        match progress with
        | .all line => .ok line
        | _ => .error .fault
  | .arr [] closing => closing.finish (.error .fault)
  | .arr (first :: rest) closing => do
      let kind ← LineKind.take (Json.maximumDepth - 1) first
      match rest with
      | [] => closing.finish (.error .fault)
      | [draft] =>
          let line ← ofObject (Json.maximumDepth - 1) kind draft
          closing.finish (.ok line)
      | draft :: _ =>
          let _ ← (ofObject (Json.maximumDepth - 1) kind draft : Except Trouble (Line resource))
          .error .fault
  | scalar => do
      let _ ← scalar.value Json.maximumDepth
      .error .fault

/-- What a line says, unless it is cut off. -/
def ofText? (resource : Resource) (text : String) : Option (Line resource) :=
  match Json.readText (take resource) text with
  | .ok line => some line
  | .error .cutOff => none
  | .error .fault => some .unreadable

end Line

/-- What the lines of a reply say. -/
def Reply.changes (resource : Resource) (reply : Reply) : List (Line resource) :=
  reply.lines.filterMap (Line.ofText? resource)

end ChangeRelay.Watch
