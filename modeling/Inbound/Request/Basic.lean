import Inbound.Body.Basic
import Inbound.Request.Resolution
import Inbound.Request.Views

/-!
# Requests

A request is its head with the views computed so far, its body, and what handlers keep with it
while they answer it.
-/

namespace Inbound

/-- The number of a registry of deferred work. -/
abbrev RegistryId := Nat

/-- The number of a runtime. -/
abbrev RuntimeId := Nat

/-- The number of a socket. -/
abbrev SocketId := Nat

/-- The socket that came with a request. -/
inductive SocketOffer where
  /-- There was none. -/
  | none
  /-- Nobody has claimed it yet. -/
  | offered (socket : SocketId)
  /-- It has been claimed. -/
  | taken
  deriving DecidableEq, Repr

/-- A request. -/
structure Request where
  /-- What it was built from. -/
  head : Head
  /-- The views computed so far. -/
  views : Views
  /-- Its body. -/
  body : Body
  /-- The values kept under keys. -/
  store : Store
  /-- The names of recorded events in the order in which they were first recorded. -/
  events : List String
  /-- The character set that a handler has chosen. -/
  charsetChoice : Option String
  /-- What the dispatcher found out. -/
  resolution : Resolution
  /-- The parameters that the path was matched with. -/
  matchdict : List (String × String)
  /-- Its socket. -/
  socket : SocketOffer
  /-- Where its deferred work is registered. -/
  registry : RegistryId
  /-- Where its deferred work runs. -/
  runtime : Option RuntimeId

namespace Request

/-- The request with this head and payload. -/
def build (head : Head) (payload : Payload) (registry : RegistryId) (runtime : Option RuntimeId)
    (socket : Option SocketId) : Request where
  head
  views := .fresh
  body := .ofPayload payload head.clientMaxSize
  store := .empty
  events := []
  charsetChoice := none
  resolution := .unresolved
  matchdict := []
  socket := match socket with
    | none => .none
    | some socket => .offered socket
  registry
  runtime

instance : Inhabited Request := ⟨build .default .empty 0 none none⟩

/-! ### Views -/

/-- Asks for a view. -/
def view {α : Type} (ask : Head → StateM Views α) : StateM Request α := fun request =>
  let (value, views) := ask request.head request.views
  (value, { request with views })

/-- The identity, given the number of a new one. -/
def uid (fresh : Nat) : StateM Request Uid :=
  view fun head => Views.askUid head fresh

/-- The method. -/
def method : StateM Request Http.Method := view Views.askMethod

/-- The headers. -/
def headers : StateM Request Http.MultiMap := view Views.askHeaders

/-- The parameters of the query. -/
def query : StateM Request Http.MultiMap := view Views.askQuery

/-- The query as text. -/
def queryString : StateM Request String := view Views.askQueryString

/-- The host. -/
def host : StateM Request (Option String) := view Views.askHost

/-- The path with the query behind it. -/
def relUrl : StateM Request String := view Views.askRelUrl

/-- The complete URL. -/
def url : StateM Request (Option Url) := view Views.askUrl

/-- The media type of the body. -/
def contentType : StateM Request (Option MediaType) := view Views.askContentType

/-- The request as a diagnostic shows it. -/
def describe : StateM Request String := do
  let method ← method
  return (← get).head.describeWith method

/-- The character set that the body is read in: the one that a handler chose, else the one that
the body declares, else the usual one. -/
def charset : StateM Request String := do
  match (← get).charsetChoice with
  | some name => return name
  | none =>
    let declared := (← contentType).bind (·.param? "charset")
    return declared.getD (← get).head.defaultCharset

/-- Chooses the character set that the body is read in. -/
def setCharset (request : Request) (name : String) : Request :=
  { request with charsetChoice := some name }

/-! ### State, events and parameters -/

/-- Keeps a value under a key and gives the one that it replaces. -/
def set (request : Request) (key : String) (value : StateValue) : Option StateValue × Request :=
  let (old, store) := request.store.set key value
  (old, { request with store })

/-- Removes the value under a key and gives it. -/
def delete (request : Request) (key : String) : Except KeyNotFound StateValue × Request :=
  let (old, store) := request.store.delete key
  (old, { request with store })

/-- Records an event. An event that is recorded again keeps its place. -/
def record (request : Request) (event : String) : Request :=
  if request.events.contains event then request
  else { request with events := request.events ++ [event] }

/-- Changes what the dispatcher found out. -/
def resolve (request : Request) (change : Resolution → Resolution) : Request :=
  { request with resolution := change request.resolution }

/-- Replaces the parameters of the path; of parameters of one name the last one counts. -/
def setMatchdict (request : Request) (params : List (String × String)) : Request :=
  let distinct := params.foldl
    (fun kept param => kept.filter (·.1 != param.1) ++ [param]) ([] : List (String × String))
  { request with matchdict := distinct }

/-- The client goes away. -/
def cancel (request : Request) : Request :=
  { request with body := request.body.cancel }

end Request

end Inbound
