import ChangeRelay.Config
import ChangeRelay.Network.Percent
import ChangeRelay.Text.Parts

/-!
# Questions to the API and its replies

A watch asks the API of the cluster for a page of the list of its objects, or
for the changes after a version of them.  The name of a namespace becomes part
of the address as it is, so it may bring a query or a fragment with it.

A reply has a status and a text.  The text of a reply to a question for changes
consists of lines.
-/

namespace ChangeRelay.Watch

/-! ## Questions -/

/-- Which objects of a resource are watched. -/
structure Selection where
  namespaceName : Option String
  labelSelector : Option String
  fieldSelector : Option String
deriving DecidableEq, Repr

/-- The selection that a configuration makes. -/
def Selection.ofConfig (config : Config) : Selection :=
  ⟨config.namespaceName, config.labelSelector, none⟩

/-- What a watch asks for. -/
inductive Question where
  /-- A page of the list: the first one, or the one that a token stands for. -/
  | page (token : Option String)
  /-- The changes after a version. -/
  | changes (resourceVersion : String)
deriving DecidableEq, Repr

/-- The address at which a resource is asked for, without parameters. -/
def address (resource : Resource) (selection : Selection) : String :=
  let root := if resource.apiVersion = "v1" then "/api/" else "/apis/"
  let place :=
    match selection.namespaceName with
    | some name => if resource.isNamespaced then "namespaces/" ++ name ++ "/" else ""
    | none => ""
  root ++ resource.apiVersion ++ "/" ++ place ++ resource.plural

/-- The parameters of a selection, in the order of their names. -/
def Selection.parameters (selection : Selection) : List (String × String) :=
  (selection.fieldSelector.map fun text => ("fieldSelector", text)).toList
    ++ (selection.labelSelector.map fun text => ("labelSelector", text)).toList

/-- The parameters of a question, in the order of their names. -/
def Question.parameters (selection : Selection) : Question → List (String × String)
  | .page token =>
      (token.map fun text => ("continue", text)).toList ++ selection.parameters
        ++ [("limit", "500")]
  | .changes resourceVersion =>
      ("allowWatchBookmarks", "true") :: selection.parameters
        ++ [("resourceVersion", resourceVersion), ("timeoutSeconds", "290"), ("watch", "true")]

/-- What a request asks for: a path, and the pieces of the query in increasing
order. -/
structure Target where
  path : String
  pieces : List String
deriving DecidableEq, Repr

namespace Target

/-- The target of an address.  A fragment is not sent, and empty pieces do not
count. -/
def ofAddress (address : String) : Target :=
  let sent := address.toList.takeWhile (· != '#')
  let query := (sent.dropWhile (· != '?')).drop 1
  let pieces := ((Text.segments '&' query).filter (!·.isEmpty)).map String.ofList
  ⟨String.ofList (sent.takeWhile (· != '?')), pieces.mergeSort⟩

/-- The query of a target. -/
def query (target : Target) : String :=
  String.intercalate "&" target.pieces

end Target

/-- The target that asks a question at an address. -/
def Question.target (selection : Selection) (address : String) (question : Question) : Target :=
  let written := (question.parameters selection).map fun (name, value) =>
    "&" ++ Network.Percent.encodeForm name ++ "=" ++ Network.Percent.encodeForm value
  .ofAddress (address ++ "?" ++ String.join written)

/-! ## Replies -/

/-- A reply: a status and the text of the body. -/
structure Reply where
  status : Nat
  body : String
deriving DecidableEq, Repr

/-- Whether a reply says that the request failed. -/
def Reply.isFailure (reply : Reply) : Bool :=
  400 ≤ reply.status && reply.status < 600

/-- A line without the carriage return at its end. -/
def dropReturn (line : List Char) : List Char :=
  if line.getLast? = some '\r' then line.dropLast else line

/-- The lines of a reply.  The last one need not be ended. -/
def Reply.lines (reply : Reply) : List String :=
  let all := Text.segments '\n' reply.body.toList
  let complete := if all.getLast? = some [] then all.dropLast else all
  complete.map fun line => String.ofList (dropReturn line)

/-- A text that is not empty. -/
def nonempty? (text : Option String) : Option String :=
  text.filter (· ≠ "")

end ChangeRelay.Watch
