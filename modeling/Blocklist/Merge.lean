import Blocklist.Declarative.Basic
import Blocklist.SourceMap

/-!
Merging records. Records that differ only in one mergeable field become one record, which
has the id of the first of them and the field of all of them.
-/

namespace Blocklist

open Declarative

/-- What may be merged: the values of headers, lists of header changes, or lists of removed
query parameters.
-/
inductive Merge where
  | csp | removeHeader | removeParam
  deriving DecidableEq, Repr

/-- A record whose rule has no line in the source map. -/
structure MissingSource where
  id : UInt32
  deriving DecidableEq, Repr

namespace Merge

/-- A header change without its value. -/
def clearValue (change : HeaderChange) : HeaderChange :=
  { change with value := none }

/-- A redirect without the parameters it removes. -/
def clearParams (target : Redirect) : Redirect :=
  { target with
    transform := target.transform.map fun transform =>
      { transform with
        queryTransform := transform.queryTransform.map fun _ => { removeParams := none } } }

/-- An action without its mergeable field. -/
def clearAction : Merge → Action → Action
  | csp, .modifyHeaders request response =>
    .modifyHeaders (request.map (·.map clearValue)) (response.map (·.map clearValue))
  | removeHeader, .modifyHeaders _ _ => .modifyHeaders none none
  | removeParam, .redirect target => .redirect (clearParams target)
  | _, action => action

/-- What a record shares with those it merges with: all but the id and the mergeable field. -/
def template (merge : Merge) (record : Record) : Record :=
  { record with id := 0, action := merge.clearAction record.action }

/-- Two values of a header, the second after the first. -/
def joinValues : Option String → Option String → Option String
  | some left, some right => some (left ++ "; " ++ right)
  | left, right => left <|> right

/-- Joins the values of header changes at equal positions. -/
def joinChanges : Option (List HeaderChange) → Option (List HeaderChange) →
    Option (List HeaderChange)
  | none, _ => none
  | some left, none => some left
  | some left, some right =>
    some (left.zipWith (fun a b => { a with value := joinValues a.value b.value }) right)

/-- Two lists one after the other; unset when both are. -/
def concat? {α : Type} : Option (List α) → Option (List α) → Option (List α)
  | none, none => none
  | left, right => some (left.getD [] ++ right.getD [])

/-- The parameters that a redirect removes. -/
def removedParams? (target : Redirect) : Option (List String) :=
  target.transform.bind fun transform => transform.queryTransform.bind (·.removeParams)

/-- The transform of the first redirect with the parameters that both remove. -/
def joinTransforms (left right : Redirect) : Option UrlTransform :=
  match concat? (removedParams? left) (removedParams? right) with
  | none => left.transform
  | params? =>
    some { query := left.transform.bind (·.query)
           queryTransform := some { removeParams := params? } }

/-- The first action with the mergeable field of the second taken in. -/
def combineActions : Merge → Action → Action → Action
  | csp, .modifyHeaders leftRequest leftResponse, .modifyHeaders rightRequest rightResponse =>
    .modifyHeaders (joinChanges leftRequest rightRequest) (joinChanges leftResponse rightResponse)
  | removeHeader, .modifyHeaders leftRequest leftResponse,
      .modifyHeaders rightRequest rightResponse =>
    .modifyHeaders (concat? leftRequest rightRequest) (concat? leftResponse rightResponse)
  | removeParam, .redirect left, .redirect right =>
    .redirect { left with transform := joinTransforms left right }
  | _, action, _ => action

/-- The first record with the mergeable field of the second taken in. -/
def combine (merge : Merge) (record next : Record) : Record :=
  { record with action := merge.combineActions record.action next.action }

/-- A merged record with the source entries of all records in it. -/
structure Merged where
  record : Record
  sources : List SourceEntry
  deriving DecidableEq, Repr

/-- Takes a record into the first merged one with its template, or puts it at the end. Its
source entries then link the merged record.
-/
def insert (merge : Merge) (record : Record) (sources : List SourceEntry) :
    List Merged → List Merged
  | [] => [⟨record, sources⟩]
  | merged :: rest =>
    if merge.template merged.record = merge.template record then
      { record := merge.combine merged.record record
        sources :=
          merged.sources ++ sources.map fun entry => { entry with id := merged.record.id } }
        :: rest
    else merged :: merge.insert record sources rest

/-- Takes records in one after the other. Each uses up the source entries of its id. -/
def insertAll (merge : Merge) :
    List SourceEntry → List Merged → List Record → Except MissingSource (List Merged)
  | _, merged, [] => .ok merged
  | sources, merged, record :: rest =>
    let own := SourceEntry.ofRecord sources record.id
    if own.isEmpty then .error ⟨record.id⟩
    else
      merge.insertAll (SourceEntry.withoutRecord sources record.id)
        (merge.insert record own merged) rest

/-- Merges records and their source map. -/
def run (merge : Merge) (records : List Record) (sources : List SourceEntry) :
    Except MissingSource (List Record × List SourceEntry) :=
  (merge.insertAll sources [] records).map fun merged =>
    (merged.map Merged.record, merged.flatMap Merged.sources)

end Merge

end Blocklist
