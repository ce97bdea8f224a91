import ChangeRelay.Schema.Shape

/-!
# Records around objects

Objects are listed in pages and watched line by line.  These are the records
that go with them: the metadata of a page, the metadata of a bookmark between
changes, and the status that takes the place of an object when something failed.
The last two may be written as arrays; the names of their values are listed in
the order in which they then come.
-/

namespace ChangeRelay.Catalog

open Schema

/-- The metadata of a page. -/
def listMeta : Shape :=
  .ofRows [
    optional "continue" .text,
    optional "remainingItemCount" .int64,
    optional "resourceVersion" .text,
    optional "selfLink" .text]

/-- The metadata of a bookmark. -/
def bookmarkMeta : Fields :=
  .ofRows [
    ("annotations", .implied, .map .text),
    required "resourceVersion" .text]

/-- The order of the values in the metadata of a bookmark. -/
def bookmarkMetaOrder : List String :=
  ["resourceVersion", "annotations"]

/-- The status of a failure. -/
def apiStatus : Fields :=
  .ofRows [
    required "code" .uint16,
    ("message", .implied, .text),
    ("reason", .implied, .text),
    required "status" .text]

/-- The order of the values in the status of a failure. -/
def apiStatusOrder : List String :=
  ["status", "message", "reason", "code"]

end ChangeRelay.Catalog
