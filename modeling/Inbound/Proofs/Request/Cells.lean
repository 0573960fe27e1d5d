import Mathlib.Data.List.Basic
import Inbound.Proofs.Request.Views

/-!
# No view waits for itself

The computation of a view may ask for other views, whose computations ask for others again. If one
of them asked for a view that is still being computed, it would never get an answer. Here the cells
under computation are kept in mind, and whoever asks for one of them is stuck: nobody ever is, and
otherwise nothing is different. The reason is that each view needs certain cells only, and that its
own cell is not among those that its computation needs.

## Main results

* `Views.Heedful`: accesses that keep in mind what is being computed;
* `Views.Runs`: an access that is not stuck as long as the cells that it needs are not being
  computed, with one lemma for each view;
* `Look.runs_heedfully`: no view is stuck, whatever has been computed before.
-/

namespace Inbound

/-- The cells in which views are kept. -/
inductive Views.Cell where
  | uid
  | method
  | headers
  | query
  | queryString
  | host
  | url
  | relUrl
  | contentType
  deriving DecidableEq

namespace Views

/-! ### Views in terms of accesses -/

section Access

variable {m : Type → Type} [Monad m] (access : {α : Type} → Cell → Place α → m α → m α)
  (head : Head)

/-- The method. -/
def methodBy : m Http.Method :=
  access .method ⟨Views.method, fun views memo => { views with method := memo }⟩ (pure head.method)

/-- The headers. -/
def headersBy : m Http.MultiMap :=
  access .headers ⟨Views.headers, fun views memo => { views with headers := memo }⟩
    (pure head.headers)

/-- The parameters of the query. -/
def queryBy : m Http.MultiMap :=
  access .query ⟨Views.query, fun views memo => { views with query := memo }⟩ (pure head.query)

/-- The query as text. -/
def queryStringBy : m String :=
  access .queryString ⟨Views.queryString, fun views memo => { views with queryString := memo }⟩
    (pure head.queryString)

/-- The host. -/
def hostBy : m (Option String) :=
  access .host ⟨Views.host, fun views memo => { views with host := memo }⟩ do
    return (← headersBy access head).get? "host"

/-- The path with the query behind it. -/
def relUrlBy : m String :=
  access .relUrl ⟨Views.relUrl, fun views memo => { views with relUrl := memo }⟩ do
    return Head.relUrlOf head.path (← queryStringBy access head)

/-- The complete URL. -/
def urlBy : m (Option Url) :=
  access .url ⟨Views.url, fun views memo => { views with url := memo }⟩ do
    match ← hostBy access head with
    | none => return none
    | some host => return Head.urlOf head.scheme (some host) (← relUrlBy access head)

/-- The media type of the body. -/
def contentTypeBy : m (Option MediaType) :=
  access .contentType ⟨Views.contentType, fun views memo => { views with contentType := memo }⟩ do
    return ((← headersBy access head).get? "content-type").bind MediaType.parse?

/-- The identity. -/
def uidBy (fresh : Nat) : m Uid :=
  access .uid ⟨Views.uid, fun views memo => { views with uid := memo }⟩ do
    if head.trustForwardedUid then
      match (← headersBy access head).get? head.uidHeader with
      | some text => return .forwarded text
      | none => return .generated fresh
    else return .generated fresh

end Access

/-! ### Accesses that can be stuck -/

/-- An access that knows which cells are being computed, and may be stuck. -/
abbrev Heedful (α : Type) := ReaderT (List Cell) (StateT Views Option) α

/-- The view at a place. Whoever asks for it while it is being computed is stuck. -/
def heed {α : Type} (cell : Cell) (place : Place α) (compute : Heedful α) : Heedful α :=
  fun busy views =>
    match (place.read views).value with
    | some value => some (value, views)
    | none =>
      if cell ∈ busy then none
      else (compute (cell :: busy) views).map fun (value, views) =>
        (value, place.write views ⟨some value⟩)

/-- An access that needs some cells is not stuck as long as none of them is being computed, and
does what the other does that does not know of anything being computed. -/
def Runs {α : Type} (needed : List Cell) (heedful : Heedful α) (access : StateM Views α) : Prop :=
  ∀ busy views, (∀ cell ∈ needed, cell ∉ busy) → heedful busy views = some (access views)

namespace Runs

variable {α β : Type} {needed needed' : List Cell}

theorem pure (value : α) : Runs needed (Pure.pure value) (Pure.pure value) :=
  fun _ _ _ => rfl

theorem bind {heedful : Heedful α} {access : StateM Views α} {heedful' : α → Heedful β}
    {access' : α → StateM Views β} (h : Runs needed heedful access)
    (h' : ∀ value, Runs needed (heedful' value) (access' value)) :
    Runs needed (heedful >>= heedful') (access >>= access') := by
  intro busy views hbusy
  show (heedful busy views).bind _ = _
  rw [h busy views hbusy]
  exact h' _ busy _ hbusy

theorem map {heedful : Heedful α} {access : StateM Views α} (f : α → β)
    (h : Runs needed heedful access) : Runs needed (f <$> heedful) (f <$> access) :=
  h.bind fun value => .pure (f value)

/-- More cells may be needed elsewhere. -/
theorem mono {heedful : Heedful α} {access : StateM Views α} (h : Runs needed heedful access)
    (hsub : ∀ cell ∈ needed, cell ∈ needed') : Runs needed' heedful access :=
  fun busy views hbusy => h busy views fun cell hcell => hbusy cell (hsub cell hcell)

/-- A view needs its own cell, and the cells that its computation needs; its own cell must not be
among these. -/
theorem heed {cell : Cell} {place : Place α} {compute : Heedful α} {compute' : StateM Views α}
    (h : Runs needed compute compute') (hcell : cell ∉ needed) :
    Runs (cell :: needed) (Views.heed cell place compute) (ask place compute') := by
  intro busy views hbusy
  rw [List.forall_mem_cons] at hbusy
  cases hfound : (place.read views).value with
  | some value => simp only [Views.heed, ask, hfound]
  | none =>
    -- While the view is computed, its own cell is one more that must not be asked for.
    have hothers : ∀ other ∈ needed, other ∉ cell :: busy := by
      intro other hother hbusy'
      rcases List.mem_cons.mp hbusy' with rfl | hbefore
      · exact hcell hother
      · exact hbusy.2 other hother hbefore
    simp only [Views.heed, ask, hfound, if_neg hbusy.1, h (cell :: busy) views hothers,
      Option.map_some]
    rfl

end Runs

/-! ### The views one by one -/

section Each

variable (head : Head)

theorem runs_method : Runs [.method] (methodBy heed head) (askMethod head) :=
  .heed (.pure _) List.not_mem_nil

theorem runs_headers : Runs [.headers] (headersBy heed head) (askHeaders head) :=
  .heed (.pure _) List.not_mem_nil

theorem runs_query : Runs [.query] (queryBy heed head) (askQuery head) :=
  .heed (.pure _) List.not_mem_nil

theorem runs_queryString : Runs [.queryString] (queryStringBy heed head) (askQueryString head) :=
  .heed (.pure _) List.not_mem_nil

theorem runs_host : Runs [.host, .headers] (hostBy heed head) (askHost head) :=
  .heed (.bind (runs_headers head) fun _ => .pure _) (by decide)

theorem runs_relUrl : Runs [.relUrl, .queryString] (relUrlBy heed head) (askRelUrl head) :=
  .heed (.bind (runs_queryString head) fun _ => .pure _) (by decide)

/-- The URL needs most, and still not itself. -/
theorem runs_url : Runs [.url, .host, .headers, .relUrl, .queryString] (urlBy heed head)
    (askUrl head) := by
  refine .heed (.bind ((runs_host head).mono (by decide)) fun host => ?_) (by decide)
  cases host with
  | none => exact .pure _
  | some host => exact .bind ((runs_relUrl head).mono (by decide)) fun _ => .pure _

theorem runs_contentType :
    Runs [.contentType, .headers] (contentTypeBy heed head) (askContentType head) :=
  .heed (.bind (runs_headers head) fun _ => .pure _) (by decide)

theorem runs_uid (fresh : Nat) : Runs [.uid, .headers] (uidBy heed head fresh)
    (askUid head fresh) := by
  refine .heed ?_ (by decide)
  split
  · refine .bind (runs_headers head) fun headers => ?_
    cases headers.get? head.uidHeader <;> exact .pure _
  · exact .pure _

end Each

end Views

/-! ### Looking -/

/-- What somebody sees who looks at a request. -/
inductive Sight where
  | uid (uid : Uid)
  | method (method : Http.Method)
  | headers (headers : Http.MultiMap)
  | query (query : Http.MultiMap)
  | queryString (queryString : String)
  | host (host : Option String)
  | relUrl (relUrl : String)
  | url (url : Option Url)
  | contentType (contentType : Option MediaType)

namespace Look

/-- The view that is looked at. -/
def ask (head : Head) : Look → StateM Views Sight
  | .uid fresh => Sight.uid <$> Views.askUid head fresh
  | .method => Sight.method <$> Views.askMethod head
  | .headers => Sight.headers <$> Views.askHeaders head
  | .query => Sight.query <$> Views.askQuery head
  | .queryString => Sight.queryString <$> Views.askQueryString head
  | .host => Sight.host <$> Views.askHost head
  | .relUrl => Sight.relUrl <$> Views.askRelUrl head
  | .url => Sight.url <$> Views.askUrl head
  | .contentType => Sight.contentType <$> Views.askContentType head

/-- The view that is looked at, in terms of accesses. -/
def askBy {m : Type → Type} [Monad m]
    (access : {α : Type} → Views.Cell → Views.Place α → m α → m α) (head : Head) : Look → m Sight
  | .uid fresh => Sight.uid <$> Views.uidBy access head fresh
  | .method => Sight.method <$> Views.methodBy access head
  | .headers => Sight.headers <$> Views.headersBy access head
  | .query => Sight.query <$> Views.queryBy access head
  | .queryString => Sight.queryString <$> Views.queryStringBy access head
  | .host => Sight.host <$> Views.hostBy access head
  | .relUrl => Sight.relUrl <$> Views.relUrlBy access head
  | .url => Sight.url <$> Views.urlBy access head
  | .contentType => Sight.contentType <$> Views.contentTypeBy access head

/-- With the accesses that views are asked for by, these are the views. -/
theorem askBy_ask (head : Head) (what : Look) :
    what.askBy (fun _ place compute => Views.ask place compute) head = what.ask head := by
  cases what <;> rfl

/-- Nobody is stuck who looks, whatever has been computed before. -/
theorem runs_heedfully (head : Head) (what : Look) (views : Views) :
    what.askBy Views.heed head [] views = some (what.ask head views) := by
  have hnone (needed : List Views.Cell) : ∀ cell ∈ needed, cell ∉ ([] : List Views.Cell) :=
    fun _ _ => List.not_mem_nil
  cases what with
  | uid fresh => exact (Views.runs_uid head fresh).map _ [] views (hnone _)
  | method => exact (Views.runs_method head).map _ [] views (hnone _)
  | headers => exact (Views.runs_headers head).map _ [] views (hnone _)
  | query => exact (Views.runs_query head).map _ [] views (hnone _)
  | queryString => exact (Views.runs_queryString head).map _ [] views (hnone _)
  | host => exact (Views.runs_host head).map _ [] views (hnone _)
  | relUrl => exact (Views.runs_relUrl head).map _ [] views (hnone _)
  | url => exact (Views.runs_url head).map _ [] views (hnone _)
  | contentType => exact (Views.runs_contentType head).map _ [] views (hnone _)

end Look

end Inbound
