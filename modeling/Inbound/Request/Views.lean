import Inbound.Memo
import Inbound.Request.Head

/-!
# Views

The views of a request are computed from its head when they are first asked for, and kept. A view
that needs another one asks for it in the same way. A view therefore never changes, whatever the
order in which the views are asked for.
-/

namespace Inbound

/-- The views of a request, as far as they have been computed. -/
structure Views where
  /-- The identity. -/
  uid : Memo Uid
  /-- The method. -/
  method : Memo Http.Method
  /-- The headers as texts. -/
  headers : Memo Http.MultiMap
  /-- The parameters of the query. -/
  query : Memo Http.MultiMap
  /-- The query as text. -/
  queryString : Memo String
  /-- The host. -/
  host : Memo (Option String)
  /-- The complete URL. -/
  url : Memo (Option Url)
  /-- The path with the query behind it. -/
  relUrl : Memo String
  /-- The media type of the body. -/
  contentType : Memo (Option MediaType)

namespace Views

/-- The views before anything has been asked for. -/
def fresh : Views :=
  ⟨.fresh, .fresh, .fresh, .fresh, .fresh, .fresh, .fresh, .fresh, .fresh⟩

instance : Inhabited Views := ⟨fresh⟩

/-- A place among the views where one of them is kept. -/
structure Place (α : Type) where
  /-- What is kept there. -/
  read : Views → Memo α
  /-- The views with something else kept there. -/
  write : Views → Memo α → Views

/-- The view at a place, computed if this is the first time. -/
def ask {α : Type} (place : Place α) (compute : StateM Views α) : StateM Views α := fun views =>
  match (place.read views).value with
  | some value => (value, views)
  | none =>
    let (value, views) := compute views
    (value, place.write views ⟨some value⟩)

/-- The method. -/
def askMethod (head : Head) : StateM Views Http.Method :=
  ask ⟨Views.method, fun views memo => { views with method := memo }⟩ (pure head.method)

/-- The headers. -/
def askHeaders (head : Head) : StateM Views Http.MultiMap :=
  ask ⟨Views.headers, fun views memo => { views with headers := memo }⟩ (pure head.headers)

/-- The parameters of the query. -/
def askQuery (head : Head) : StateM Views Http.MultiMap :=
  ask ⟨Views.query, fun views memo => { views with query := memo }⟩ (pure head.query)

/-- The query as text. -/
def askQueryString (head : Head) : StateM Views String :=
  ask ⟨Views.queryString, fun views memo => { views with queryString := memo }⟩
    (pure head.queryString)

/-- The host. -/
def askHost (head : Head) : StateM Views (Option String) :=
  ask ⟨Views.host, fun views memo => { views with host := memo }⟩ do
    return (← askHeaders head).get? "host"

/-- The path with the query behind it. -/
def askRelUrl (head : Head) : StateM Views String :=
  ask ⟨Views.relUrl, fun views memo => { views with relUrl := memo }⟩ do
    return Head.relUrlOf head.path (← askQueryString head)

/-- The complete URL. Without a host the path is not asked for. -/
def askUrl (head : Head) : StateM Views (Option Url) :=
  ask ⟨Views.url, fun views memo => { views with url := memo }⟩ do
    match ← askHost head with
    | none => return none
    | some host => return Head.urlOf head.scheme (some host) (← askRelUrl head)

/-- The media type of the body. -/
def askContentType (head : Head) : StateM Views (Option MediaType) :=
  ask ⟨Views.contentType, fun views memo => { views with contentType := memo }⟩ do
    return ((← askHeaders head).get? "content-type").bind MediaType.parse?

/-- The identity, given the number of a new one. Headers that are not believed are not asked
for. -/
def askUid (head : Head) (fresh : Nat) : StateM Views Uid :=
  ask ⟨Views.uid, fun views memo => { views with uid := memo }⟩ do
    if head.trustForwardedUid then
      match (← askHeaders head).get? head.uidHeader with
      | some text => return .forwarded text
      | none => return .generated fresh
    else return .generated fresh

end Views

end Inbound
