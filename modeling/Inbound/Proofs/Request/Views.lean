import Inbound.Request.Basic

/-!
# Views keep to the head

A view is computed from the head when it is first asked for. What is asked for before may have left
other views behind, and the computation asks for views in its turn. It makes no difference: whatever
has been asked for, a view is what the head says. Only of the identity the head does not say all, as
it may be new.

## Main results

* `Views.Faithful`: the views that have been computed are those of the head;
* `Views.Answers`: an access to faithful views answers as meant and leaves them faithful, with one
  lemma for each view;
* `Request.Faithful.lookAll`: the views of a request are faithful, whatever has been looked at.
-/

namespace Inbound

/-- A memo keeps a value only if it is a right one. -/
def Memo.Keeps {α : Type} (memo : Memo α) (right : α → Prop) : Prop :=
  ∀ value, memo.value = some value → right value

theorem Memo.keeps_fresh {α : Type} (right : α → Prop) : (fresh : Memo α).Keeps right := by
  intro value hvalue
  cases hvalue

theorem Memo.keeps_some {α : Type} {right : α → Prop} {value : α} (h : right value) :
    (⟨some value⟩ : Memo α).Keeps right := by
  intro kept hkept
  cases hkept
  exact h

namespace Views

/-- The views that have been computed are those of the head. -/
structure Faithful (head : Head) (views : Views) : Prop where
  /-- The identity is that of the head, or a new one. -/
  uid : views.uid.Keeps fun uid => ∃ fresh, uid = head.uid fresh
  /-- The method is that of the head. -/
  method : views.method.Keeps (· = head.method)
  /-- The headers are those of the head. -/
  headers : views.headers.Keeps (· = head.headers)
  /-- The parameters are those of the head. -/
  query : views.query.Keeps (· = head.query)
  /-- The text of the query is that of the head. -/
  queryString : views.queryString.Keeps (· = head.queryString)
  /-- The host is that of the head. -/
  host : views.host.Keeps (· = head.host)
  /-- The URL is that of the head. -/
  url : views.url.Keeps (· = head.url)
  /-- The path with the query is that of the head. -/
  relUrl : views.relUrl.Keeps (· = head.relUrl)
  /-- The media type is that of the head. -/
  contentType : views.contentType.Keeps (· = head.contentType)

theorem faithful_fresh (head : Head) : fresh.Faithful head := by
  constructor <;> exact Memo.keeps_fresh _

/-- An access to faithful views answers as meant and leaves the views faithful. -/
def Answers {α : Type} (head : Head) (access : StateM Views α) (right : α → Prop) : Prop :=
  ∀ views : Views, views.Faithful head →
    right (access views).1 ∧ (access views).2.Faithful head

section Answers

variable {α β : Type} {head : Head}

theorem answers_pure {right : α → Prop} {value : α} (h : right value) :
    Answers head (pure value) right :=
  fun _ hviews => ⟨h, hviews⟩

/-- What is done with an answer may rely on it. -/
theorem Answers.bind {access : StateM Views α} {next : α → StateM Views β} {right : α → Prop}
    {right' : β → Prop} (h : Answers head access right)
    (hnext : ∀ value, right value → Answers head (next value) right') :
    Answers head (access >>= next) right' := by
  intro views hviews
  obtain ⟨hanswer, hleft⟩ := h views hviews
  exact hnext _ hanswer _ hleft

/-- A view that is kept is right, and one that is computed is right if the computation is. -/
theorem Answers.ask {place : Place α} {compute : StateM Views α} {right : α → Prop}
    (hread : ∀ views, Faithful head views → (place.read views).Keeps right)
    (hwrite : ∀ views memo, Faithful head views → memo.Keeps right →
      Faithful head (place.write views memo))
    (hcompute : Answers head compute right) : Answers head (ask place compute) right := by
  intro views hviews
  unfold Views.ask
  split
  next value hkept => exact ⟨hread views hviews value hkept, hviews⟩
  next =>
    obtain ⟨hright, hleft⟩ := hcompute views hviews
    exact ⟨hright, hwrite _ _ hleft (Memo.keeps_some hright)⟩

end Answers

/-! ### The views one by one -/

section Each

variable (head : Head)

theorem answers_method : Answers head (askMethod head) (· = head.method) :=
  .ask (fun _ h => h.method) (fun _ _ h hmemo => { h with method := hmemo }) (answers_pure rfl)

theorem answers_headers : Answers head (askHeaders head) (· = head.headers) :=
  .ask (fun _ h => h.headers) (fun _ _ h hmemo => { h with headers := hmemo }) (answers_pure rfl)

theorem answers_query : Answers head (askQuery head) (· = head.query) :=
  .ask (fun _ h => h.query) (fun _ _ h hmemo => { h with query := hmemo }) (answers_pure rfl)

theorem answers_queryString : Answers head (askQueryString head) (· = head.queryString) :=
  .ask (fun _ h => h.queryString) (fun _ _ h hmemo => { h with queryString := hmemo })
    (answers_pure rfl)

/-- The host is read off the headers. -/
theorem answers_host : Answers head (askHost head) (· = head.host) := by
  refine .ask (fun _ h => h.host) (fun _ _ h hmemo => { h with host := hmemo }) ?_
  refine (answers_headers head).bind fun headers hheaders => answers_pure ?_
  rw [hheaders]
  rfl

/-- The query stands behind the path. -/
theorem answers_relUrl : Answers head (askRelUrl head) (· = head.relUrl) := by
  refine .ask (fun _ h => h.relUrl) (fun _ _ h hmemo => { h with relUrl := hmemo }) ?_
  refine (answers_queryString head).bind fun queryString hqueryString => answers_pure ?_
  rw [hqueryString]
  rfl

/-- The URL needs the host, and the path only if there is one. -/
theorem answers_url : Answers head (askUrl head) (· = head.url) := by
  refine .ask (fun _ h => h.url) (fun _ _ h hmemo => { h with url := hmemo }) ?_
  refine (answers_host head).bind fun host hhost => ?_
  cases host with
  | none =>
    refine answers_pure ?_
    rw [Head.url, ← hhost]
    rfl
  | some host =>
    refine (answers_relUrl head).bind fun relUrl hrelUrl => answers_pure ?_
    rw [Head.url, ← hhost, hrelUrl]

/-- The media type is read off the headers. -/
theorem answers_contentType : Answers head (askContentType head) (· = head.contentType) := by
  refine .ask (fun _ h => h.contentType) (fun _ _ h hmemo => { h with contentType := hmemo }) ?_
  refine (answers_headers head).bind fun headers hheaders => answers_pure ?_
  rw [hheaders]
  rfl

/-- The identity is that of a header which is believed, else a new one. -/
theorem answers_uid (serial : Nat) :
    Answers head (askUid head serial) fun uid => ∃ fresh, uid = head.uid fresh := by
  refine .ask (fun _ h => h.uid) (fun _ _ h hmemo => { h with uid := hmemo }) ?_
  -- The headers are asked only if they are believed; in both other cases the identity is new.
  split
  next htrust =>
    refine (answers_headers head).bind fun headers hheaders => ?_
    subst hheaders
    split
    next text hget =>
      refine answers_pure ⟨serial, ?_⟩
      rw [Head.uid, Head.forwardedUid, if_pos htrust, hget]
    next hget =>
      refine answers_pure ⟨serial, ?_⟩
      rw [Head.uid, Head.forwardedUid, if_pos htrust, hget]
  next htrust =>
    refine answers_pure ⟨serial, ?_⟩
    rw [Head.uid, Head.forwardedUid, if_neg htrust]

end Each

end Views

/-! ### Requests that are looked at -/

/-- What is looked at of a request. -/
inductive Look where
  /-- The identity, given the number of a new one. -/
  | uid (fresh : Nat)
  /-- The method. -/
  | method
  /-- The headers. -/
  | headers
  /-- The parameters of the query. -/
  | query
  /-- The query as text. -/
  | queryString
  /-- The host. -/
  | host
  /-- The path with the query behind it. -/
  | relUrl
  /-- The complete URL. -/
  | url
  /-- The media type of the body. -/
  | contentType

namespace Request

/-- The request after something of it has been looked at. -/
def look (request : Request) : Look → Request
  | .uid fresh => (uid fresh request).2
  | .method => (method request).2
  | .headers => (headers request).2
  | .query => (query request).2
  | .queryString => (queryString request).2
  | .host => (host request).2
  | .relUrl => (relUrl request).2
  | .url => (url request).2
  | .contentType => (contentType request).2

/-- The request after one thing after another has been looked at. -/
def lookAll (request : Request) (looks : List Look) : Request :=
  looks.foldl look request

/-- The views of a request are those of its head. -/
def Faithful (request : Request) : Prop :=
  request.views.Faithful request.head

theorem faithful_build (head : Head) (payload : Payload) (registry : RegistryId)
    (runtime : Option RuntimeId) (socket : Option SocketId) :
    (build head payload registry runtime socket).Faithful :=
  Views.faithful_fresh head

/-- A view of a faithful request answers as meant, and the request stays faithful. -/
theorem Faithful.view {α : Type} {request : Request} {ask : Head → StateM Views α}
    {right : α → Prop} (hrequest : request.Faithful)
    (hask : Views.Answers request.head (ask request.head) right) :
    right (view ask request).1 ∧ (view ask request).2.Faithful :=
  hask request.views hrequest

/-- Looking at a request changes nothing of its head. -/
theorem head_look (request : Request) (what : Look) : (request.look what).head = request.head := by
  cases what <;> rfl

/-- Looking at a faithful request leaves it faithful. -/
theorem Faithful.look {request : Request} (hrequest : request.Faithful) (what : Look) :
    (request.look what).Faithful := by
  cases what with
  | uid fresh => exact (hrequest.view (Views.answers_uid _ fresh)).2
  | method => exact (hrequest.view (Views.answers_method _)).2
  | headers => exact (hrequest.view (Views.answers_headers _)).2
  | query => exact (hrequest.view (Views.answers_query _)).2
  | queryString => exact (hrequest.view (Views.answers_queryString _)).2
  | host => exact (hrequest.view (Views.answers_host _)).2
  | relUrl => exact (hrequest.view (Views.answers_relUrl _)).2
  | url => exact (hrequest.view (Views.answers_url _)).2
  | contentType => exact (hrequest.view (Views.answers_contentType _)).2

/-- The views of a request stay those of its head, whatever is looked at. -/
theorem Faithful.lookAll {request : Request} (hrequest : request.Faithful) (looks : List Look) :
    (request.lookAll looks).Faithful ∧ (request.lookAll looks).head = request.head := by
  -- Each look keeps the request faithful, so the induction is over requests as well.
  induction looks generalizing request with
  | nil => exact ⟨hrequest, rfl⟩
  | cons what looks ih =>
    obtain ⟨hfaithful, hhead⟩ := ih (hrequest.look what)
    exact ⟨hfaithful, hhead.trans (head_look request what)⟩

/-- The character set, given what a handler has chosen. -/
def charsetGiven (choice : Option String) (request : Request) : String × Request :=
  choice.elim
    ((contentType request).map
      (fun declared => (declared.bind (·.param? "charset")).getD request.head.defaultCharset) id)
    fun name => (name, request)

theorem charset_eq (request : Request) :
    charset request = charsetGiven request.charsetChoice request := by
  unfold charset
  rcases hchoice : request.charsetChoice with - | name <;>
    simp only [bind, StateT.bind, get, getThe, MonadStateOf.get, StateT.get, pure, hchoice] <;> rfl

/-- The URL of a faithful request is that of its head. -/
theorem Faithful.url_eq {request : Request} (hrequest : request.Faithful) :
    (url request).1 = request.head.url :=
  (hrequest.view (Views.answers_url _)).1

end Request

end Inbound
