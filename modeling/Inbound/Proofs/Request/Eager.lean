import Inbound.Proofs.Request.Cells
import Inbound.Request.Call

/-!
# Eager requests

A request might as well have computed all its views when it was built. Here it is compared with the
one that computes them on demand: whatever is done with both, the answers are the same, and what
has been done to the one has been done to the other. Only the identity is looked at under a
condition: an eager request has its number from the beginning, and a lazy one gets it from whoever
looks first.

## Main results

* `Request.eager`: the request with all its views computed;
* `Request.Overlooks`: what is done with a request makes no difference between the two;
* `Request.overlooks_pollCall`, `Request.overlooks_handle`: calls on the body, and whatever else is
  done with a request short of looking at its identity;
* `Request.see_uid`: looking at the identity.
-/

namespace Inbound

/-- What the head says of each view, given the number of a new identity. -/
def Look.sight (head : Head) (serial : ℕ) : Look → Sight
  | .uid _ => .uid (head.uid serial)
  | .method => .method head.method
  | .headers => .headers head.headers
  | .query => .query head.query
  | .queryString => .queryString head.queryString
  | .host => .host head.host
  | .relUrl => .relUrl head.relUrl
  | .url => .url head.url
  | .contentType => .contentType head.contentType

namespace Views

/-- All views that belong to a head, given the number of a new identity. -/
def computed (head : Head) (serial : ℕ) : Views where
  uid := ⟨some (head.uid serial)⟩
  method := ⟨some head.method⟩
  headers := ⟨some head.headers⟩
  query := ⟨some head.query⟩
  queryString := ⟨some head.queryString⟩
  host := ⟨some head.host⟩
  url := ⟨some head.url⟩
  relUrl := ⟨some head.relUrl⟩
  contentType := ⟨some head.contentType⟩

/-- An access that does not look at the identity. -/
def SparesUid {α : Type} (access : StateM Views α) : Prop :=
  ∀ views, (access views).2.uid = views.uid

namespace SparesUid

variable {α β : Type}

theorem pure (value : α) : SparesUid (Pure.pure value) :=
  fun _ => rfl

theorem bind {access : StateM Views α} {next : α → StateM Views β} (h : SparesUid access)
    (hnext : ∀ value, SparesUid (next value)) : SparesUid (access >>= next) :=
  fun views => (hnext _ _).trans (h views)

theorem ask {place : Place α} {compute : StateM Views α}
    (hwrite : ∀ views memo, (place.write views memo).uid = views.uid) (h : SparesUid compute) :
    SparesUid (Views.ask place compute) := by
  intro views
  unfold Views.ask
  split
  · rfl
  · exact (hwrite _ _).trans (h views)

end SparesUid

/-! ### The views one by one -/

section Each

variable (head : Head)

theorem sparesUid_method : SparesUid (askMethod head) :=
  .ask (fun _ _ => rfl) (.pure _)

theorem sparesUid_headers : SparesUid (askHeaders head) :=
  .ask (fun _ _ => rfl) (.pure _)

theorem sparesUid_query : SparesUid (askQuery head) :=
  .ask (fun _ _ => rfl) (.pure _)

theorem sparesUid_queryString : SparesUid (askQueryString head) :=
  .ask (fun _ _ => rfl) (.pure _)

theorem sparesUid_host : SparesUid (askHost head) :=
  .ask (fun _ _ => rfl) (.bind (sparesUid_headers head) fun _ => .pure _)

theorem sparesUid_relUrl : SparesUid (askRelUrl head) :=
  .ask (fun _ _ => rfl) (.bind (sparesUid_queryString head) fun _ => .pure _)

theorem sparesUid_url : SparesUid (askUrl head) := by
  refine .ask (fun _ _ => rfl) (.bind (sparesUid_host head) fun host => ?_)
  cases host with
  | none => exact .pure _
  | some host => exact .bind (sparesUid_relUrl head) fun _ => .pure _

theorem sparesUid_contentType : SparesUid (askContentType head) :=
  .ask (fun _ _ => rfl) (.bind (sparesUid_headers head) fun _ => .pure _)

end Each

/-- The first one who looks at the identity sees the one with his number. -/
theorem askUid_of_none {head : Head} {views : Views} (hviews : views.Faithful head)
    (hnone : views.uid.value = none) (fresh : ℕ) :
    (askUid head fresh views).1 = head.uid fresh ∧
      (askUid head fresh views).2.uid = ⟨some (askUid head fresh views).1⟩ := by
  have hheaders : (askHeaders head views).1 = head.headers := (answers_headers head views hviews).1
  simp only [askUid, ask, hnone]
  refine ⟨?_, rfl⟩
  rw [Head.uid, Head.forwardedUid, ← hheaders]
  by_cases htrust : head.trustForwardedUid = true
  · rw [if_pos htrust, if_pos htrust]
    generalize hasked : askHeaders head views = asked
    obtain ⟨headers, left⟩ := asked
    simp only [bind, StateT.bind, hasked]
    cases headers.get? head.uidHeader <;> rfl
  · rw [if_neg htrust, if_neg htrust]
    rfl

end Views

/-! ### What is done with a request -/

/-- What a handler does with its request, calls on the body apart that it polls by itself. -/
inductive Handling where
  /-- It looks at a view. -/
  | looks (what : Look)
  /-- It shows the request in a diagnostic. -/
  | describes
  /-- It asks for the character set of the body. -/
  | asksCharset
  /-- It chooses the character set of the body. -/
  | choosesCharset (name : String)
  /-- It keeps a value under a key. -/
  | keeps (key : String) (value : StateValue)
  /-- It removes the value under a key. -/
  | removes (key : String)
  /-- It looks at the values that are kept. -/
  | asksState
  /-- It records an event. -/
  | records (event : String)
  /-- It looks at the events. -/
  | asksEvents
  /-- It changes what the dispatcher found out. -/
  | resolves (change : Resolution → Resolution)
  /-- It looks at what the dispatcher found out. -/
  | asksResolution
  /-- It replaces the parameters of the path. -/
  | matchesPath (params : List (String × String))
  /-- It looks at the parameters of the path. -/
  | asksMatchdict
  /-- It looks at what has become of the body so far. -/
  | asksBody
  /-- It makes a call on the body, if it can be done within so many polls. -/
  | calls (wanted : BodyCall) (polls : ℕ)
  /-- The client goes away. -/
  | cancels

/-- What a handler gets for what it does. -/
inductive Reply where
  | nothing
  | sight (sight : Sight)
  | description (text : String)
  | charset (name : String)
  | replaced (old : Option StateValue)
  | removed (result : Except KeyNotFound StateValue)
  | state (store : Store)
  | events (names : List String)
  | resolution (resolution : Resolution)
  | matchdict (params : List (String × String))
  | body (body : Body)
  | answer (answer : Poll (Except CallError BodyAnswer))

namespace Request

/-- Looks at a view. -/
def see : Look → StateM Request Sight
  | .uid fresh => Sight.uid <$> uid fresh
  | .method => Sight.method <$> method
  | .headers => Sight.headers <$> headers
  | .query => Sight.query <$> query
  | .queryString => Sight.queryString <$> queryString
  | .host => Sight.host <$> host
  | .relUrl => Sight.relUrl <$> relUrl
  | .url => Sight.url <$> url
  | .contentType => Sight.contentType <$> contentType

/-- A handler does something with its request. -/
def handle (request : Request) : Handling → Reply × Request
  | .looks what => (see what request).map .sight id
  | .describes => (describe request).map .description id
  | .asksCharset => (charset request).map .charset id
  | .choosesCharset name => (.nothing, request.setCharset name)
  | .keeps key value => (request.set key value).map .replaced id
  | .removes key => (request.delete key).map .removed id
  | .asksState => (.state request.store, request)
  | .records event => (.nothing, request.record event)
  | .asksEvents => (.events request.events, request)
  | .resolves change => (.nothing, request.resolve change)
  | .asksResolution => (.resolution request.resolution, request)
  | .matchesPath params => (.nothing, request.setMatchdict params)
  | .asksMatchdict => (.matchdict request.matchdict, request)
  | .asksBody => (.body request.body, request)
  | .calls wanted polls =>
    ((request.beginCall wanted).2.driveCall (request.beginCall wanted).1 polls).map .answer id
  | .cancels => (.nothing, request.cancel)

/-- The request with all its views computed, given the number of a new identity. -/
def eager (request : Request) (serial : ℕ) : Request :=
  { request with views := .computed request.head serial }

/-- The head stays, and the views stay those of the head; nothing is done to the identity. -/
structure Stays (request request' : Request) : Prop where
  head : request'.head = request.head
  uid : request'.views.uid = request.views.uid
  faithful : request'.Faithful

theorem Faithful.stays {request : Request} (h : request.Faithful) : request.Stays request :=
  ⟨rfl, rfl, h⟩

theorem Stays.trans {a b c : Request} (hab : a.Stays b) (hbc : b.Stays c) : a.Stays c :=
  ⟨hbc.head.trans hab.head, hbc.uid.trans hab.uid, hbc.faithful⟩

/-- What is done with a request overlooks which of its views have been computed: it comes to the
same if all of them have been. -/
def Overlooks {α : Type} (act : Request → α × Request) : Prop :=
  ∀ request : Request, request.Faithful → request.Stays (act request).2 ∧
    ∀ serial, act (request.eager serial) = ((act request).1, (act request).2.eager serial)

section Overlooks

variable {α β : Type}

/-- What has nothing to do with the views overlooks them. -/
theorem overlooks_of_blind {act : Request → α × Request}
    (hhead : ∀ request, (act request).2.head = request.head)
    (hviews : ∀ request views,
      act { request with views } = ((act request).1, { (act request).2 with views })) :
    Overlooks act := by
  intro request hrequest
  have hsame : (act request).2.views = request.views :=
    congrArg (fun outcome => outcome.2.views) (hviews request request.views)
  refine ⟨⟨hhead request, congrArg Views.uid hsame, ?_⟩, fun serial => ?_⟩
  · rw [Faithful, hsame, hhead]
    exact hrequest
  · refine (hviews request _).trans ?_
    exact congrArg (fun head =>
      ((act request).1, { (act request).2 with views := .computed head serial }))
      (hhead request).symm

theorem overlooks_pure (answer : Request → α)
    (h : ∀ request serial, answer (eager request serial) = answer request) :
    Overlooks fun request => (answer request, request) :=
  fun request hrequest =>
    ⟨hrequest.stays, fun serial => congrArg (Prod.mk · (request.eager serial)) (h request serial)⟩

/-- One thing is done after the other. -/
theorem Overlooks.bind {act : Request → α × Request} {next : α → Request → β × Request}
    (h : Overlooks act) (hnext : ∀ answer, Overlooks (next answer)) :
    Overlooks fun request => next (act request).1 (act request).2 := by
  intro request hrequest
  obtain ⟨hstays, heager⟩ := h request hrequest
  obtain ⟨hstays', heager'⟩ := hnext (act request).1 _ hstays.faithful
  refine ⟨hstays.trans hstays', fun serial => ?_⟩
  dsimp only
  rw [heager]
  exact heager' serial

/-- An answer may be put into other words. -/
theorem Overlooks.map {act : Request → α × Request} (h : Overlooks act) (words : α → β) :
    Overlooks fun request => (act request).map words id :=
  h.bind fun answer => overlooks_pure (fun _ => words answer) fun _ _ => rfl

/-- What is done may depend on what has nothing to do with the views. -/
theorem overlooks_of_read (read : Request → β) {next : β → Request → α × Request}
    (hread : ∀ request serial, read (eager request serial) = read request)
    (hnext : ∀ value, Overlooks (next value)) :
    Overlooks fun request => next (read request) request :=
  (overlooks_pure read hread).bind hnext

/-- A view other than the identity. -/
theorem overlooks_view {ask : Head → StateM Views α} {right : Head → α}
    (hanswers : ∀ head, Views.Answers head (ask head) (· = right head))
    (hspares : ∀ head, Views.SparesUid (ask head))
    (hcomputed : ∀ head serial, ask head (.computed head serial) =
      (right head, .computed head serial)) : Overlooks (view ask) := by
  intro request hrequest
  obtain ⟨hright, hleft⟩ := hrequest.view (hanswers request.head)
  refine ⟨⟨rfl, hspares _ _, hleft⟩, fun serial => ?_⟩
  have hsame := congrArg (fun outcome : α × Views =>
    (outcome.1, { request with views := outcome.2 })) (hcomputed request.head serial)
  rw [hright]
  exact hsame

end Overlooks

/-! ### The views -/

theorem overlooks_method : Overlooks method :=
  overlooks_view Views.answers_method Views.sparesUid_method fun _ _ => rfl

theorem overlooks_contentType : Overlooks contentType :=
  overlooks_view Views.answers_contentType Views.sparesUid_contentType fun _ _ => rfl

/-- Looking at anything but the identity. -/
theorem overlooks_see {what : Look} (h : ∀ fresh, what ≠ .uid fresh) : Overlooks (see what) := by
  cases what with
  | uid fresh => exact absurd rfl (h fresh)
  | method => exact overlooks_method.map _
  | headers =>
    exact (overlooks_view Views.answers_headers Views.sparesUid_headers fun _ _ => rfl).map _
  | query => exact (overlooks_view Views.answers_query Views.sparesUid_query fun _ _ => rfl).map _
  | queryString =>
    exact (overlooks_view Views.answers_queryString Views.sparesUid_queryString
      fun _ _ => rfl).map _
  | host => exact (overlooks_view Views.answers_host Views.sparesUid_host fun _ _ => rfl).map _
  | relUrl =>
    exact (overlooks_view Views.answers_relUrl Views.sparesUid_relUrl fun _ _ => rfl).map _
  | url => exact (overlooks_view Views.answers_url Views.sparesUid_url fun _ _ => rfl).map _
  | contentType => exact overlooks_contentType.map _

/-- What is seen of a faithful request is what its head says. -/
theorem Faithful.see_fst {request : Request} (hrequest : request.Faithful) {what : Look}
    (h : ∀ fresh, what ≠ .uid fresh) (serial : ℕ) :
    (see what request).1 = what.sight request.head serial := by
  -- The eager request has all views at hand.
  have heager := congrArg Prod.fst ((overlooks_see h request hrequest).2 serial)
  rw [← heager]
  cases what with
  | uid fresh => exact absurd rfl (h fresh)
  | _ => rfl

theorem overlooks_describe : Overlooks describe := by
  have hmethod (head : Head) : Overlooks fun request =>
      (method request).map head.describeWith id := overlooks_method.map _
  have h := overlooks_of_read head (fun _ _ => rfl) hmethod
  exact h

theorem overlooks_charset : Overlooks charset := by
  have hgiven (choice : Option String) : Overlooks (charsetGiven choice) := by
    cases choice with
    | some name => exact overlooks_pure (fun _ => name) fun _ _ => rfl
    | none =>
      exact overlooks_of_read (·.head.defaultCharset) (fun _ _ => rfl) fun default =>
        overlooks_contentType.map fun declared => (declared.bind (·.param? "charset")).getD default
  have h := overlooks_of_read charsetChoice (fun _ _ => rfl) hgiven
  rw [funext charset_eq]
  exact h

/-! ### Calls on the body -/

/-- What comes of polling a call, with what is known of the call afterwards. -/
abbrev PolledCall := Poll (Except CallError BodyAnswer) × Call

/-- What is done with the body alone. -/
theorem overlooks_onBody {α : Type} (act : Body → α × Body) :
    Overlooks fun request =>
      ((act request.body).1, { request with body := (act request.body).2 }) :=
  overlooks_of_blind (fun _ => rfl) fun _ _ => rfl

theorem overlooks_beginCall (wanted : BodyCall) : Overlooks (beginCall · wanted) := by
  cases wanted <;> exact overlooks_of_blind (fun _ => rfl) fun _ _ => rfl

theorem overlooks_abandonCall (call : Call) :
    Overlooks fun request => ((), abandonCall request call) := by
  obtain ⟨wanted, stage⟩ := call
  cases stage <;> exact overlooks_of_blind (fun _ => rfl) fun _ _ => rfl

/-- How a call goes on whose read of the body has been polled. -/
def goOnReading (wanted : BodyCall) :
    Poll (Except BodyError ByteArray) × Body.Read → Request → PolledCall × Request
  | (.pending, read), request => ((.pending, ⟨wanted, .reading read⟩), request)
  | (.ready result, read), request => (charset request).map
      (fun charset => (.ready (finishCall wanted charset result), ⟨wanted, .reading read⟩)) id

/-- How a call goes on whose release of the body has been polled. -/
def goOnReleasing (wanted : BodyCall) : Poll (Except BodyError Unit) × Body.Release → PolledCall
  | (.pending, release) => (.pending, ⟨wanted, .releasing release⟩)
  | (.ready (.ok ()), release) => (.ready (.ok .released), ⟨wanted, .releasing release⟩)
  | (.ready (.error error), release) =>
    (.ready (.error (.body error)), ⟨wanted, .releasing release⟩)

/-- How a call goes on that has asked for a chunk. -/
def goOnPulling (wanted : BodyCall) (ticket : Ticket) :
    Poll (Except String ByteArray) → PolledCall
  | .pending => (.pending, ⟨wanted, .pulling ticket⟩)
  | .ready (.ok bytes) => (.ready (.ok (.bytes bytes)), ⟨wanted, .pulling ticket⟩)
  | .ready (.error text) => (.ready (.error (.stream text)), ⟨wanted, .pulling ticket⟩)

theorem overlooks_goOnReading (wanted : BodyCall)
    (polled : Poll (Except BodyError ByteArray) × Body.Read) :
    Overlooks (goOnReading wanted polled) := by
  obtain ⟨result, read⟩ := polled
  cases result with
  | pending => exact overlooks_pure (fun _ => _) fun _ _ => rfl
  | ready result => exact overlooks_charset.map _

/-- Polls a call, with what is known of the call afterwards next to the answer. -/
def polledCall (call : Call) (request : Request) : PolledCall × Request :=
  (((pollCall request call).1, (pollCall request call).2.1), (pollCall request call).2.2)

/-- A call that has read the body needs the character set, and so the media type. -/
theorem overlooks_polledCall (call : Call) : Overlooks (polledCall call) := by
  obtain ⟨wanted, stage⟩ := call
  -- In each stage the body is polled, and the answer is made of what it gives.
  cases stage with
  | reading read =>
    have hpoll := overlooks_onBody fun body =>
      (((body.pollRead read).1, (body.pollRead read).2.1), (body.pollRead read).2.2)
    have hpolled := hpoll.bind (overlooks_goOnReading wanted)
    refine Eq.subst (motive := Overlooks) (funext fun request => ?_) hpolled
    dsimp only [polledCall, pollCall]
    rcases request.body.pollRead read with ⟨result | _, read, body⟩ <;> rfl
  | releasing release =>
    have hpoll := overlooks_onBody fun body =>
      (((body.pollRelease release).1, (body.pollRelease release).2.1),
        (body.pollRelease release).2.2)
    have hpolled := hpoll.map (goOnReleasing wanted)
    refine Eq.subst (motive := Overlooks) (funext fun request => ?_) hpolled
    dsimp only [polledCall, pollCall]
    rcases request.body.pollRelease release with ⟨result | _, release, body⟩
    · cases result <;> rfl
    · rfl
  | pulling ticket =>
    have hpolled := (overlooks_onBody (·.pullAny ticket)).map (goOnPulling wanted ticket)
    refine Eq.subst (motive := Overlooks) (funext fun request => ?_) hpolled
    dsimp only [polledCall, pollCall]
    rcases request.body.pullAny ticket with ⟨result | _, body⟩
    · cases result <;> rfl
    · rfl

/-- How a call goes on that may be polled so many times more, and is abandoned then. -/
def driveOn (polls : ℕ) :
    PolledCall → Request → Poll (Except CallError BodyAnswer) × Request
  | (.ready answer, _), request => (.ready answer, request)
  | (.pending, call), request => request.driveCall call polls

theorem overlooks_driveCall (call : Call) (polls : ℕ) : Overlooks (driveCall · call polls) := by
  induction polls generalizing call with
  | zero => exact (overlooks_abandonCall call).map fun _ => Poll.pending
  | succ polls ih =>
    have hnext (polled : PolledCall) : Overlooks (driveOn polls polled) := by
      obtain ⟨answer, call⟩ := polled
      cases answer with
      | pending => exact ih call
      | ready answer => exact overlooks_pure (fun _ => _) fun _ _ => rfl
    refine Eq.subst (motive := Overlooks) (funext fun request => ?_)
      ((overlooks_polledCall call).bind hnext)
    dsimp only [polledCall]
    rw [driveCall]
    rcases pollCall request call with ⟨answer | _, call, request⟩ <;> rfl

/-! ### Everything else -/

/-- Whatever is done with a request overlooks which of its views have been computed, short of
looking at its identity. -/
theorem overlooks_handle {what : Handling} (h : ∀ fresh, what ≠ .looks (.uid fresh)) :
    Overlooks (handle · what) := by
  cases what with
  | looks what =>
    exact (overlooks_see fun fresh heq => h fresh (congrArg Handling.looks heq)).map Reply.sight
  | describes => exact overlooks_describe.map Reply.description
  | asksCharset => exact overlooks_charset.map Reply.charset
  | calls wanted polls =>
    have hdrive := (overlooks_beginCall wanted).bind fun call => overlooks_driveCall call polls
    exact hdrive.map Reply.answer
  | records event =>
    refine overlooks_of_blind (fun request => ?_) fun request views => ?_
    · dsimp only [handle, record]
      split <;> rfl
    · dsimp only [handle, record]
      split <;> rfl
  | choosesCharset | keeps | removes | asksState | asksEvents | resolves | asksResolution
  | matchesPath | asksMatchdict | asksBody | cancels =>
    exact overlooks_of_blind (fun _ => rfl) fun _ _ => rfl

/-! ### The identity -/

/-- Whoever looks at the identity sees the one of an eager request, which has been told the number
that the first one who looks gives. Afterwards it is kept. -/
theorem see_uid {request : Request} (hrequest : request.Faithful) {fresh serial : ℕ}
    (hkeeps : request.views.uid.Keeps (· = request.head.uid serial))
    (hfresh : request.views.uid.value = none → fresh = serial) :
    (see (.uid fresh) request).1 = .uid (request.head.uid serial) ∧
      (see (.uid fresh) request).2.views.uid = ⟨some (request.head.uid serial)⟩ := by
  -- Somebody may have looked before, or this is the first look, which computes the identity.
  cases hvalue : request.views.uid.value with
  | some uid =>
    have hkept : Views.askUid request.head fresh request.views = (uid, request.views) := by
      simp only [Views.askUid, Views.ask, hvalue]
    have hright : uid = request.head.uid serial := hkeeps uid hvalue
    refine ⟨?_, ?_⟩
    · show Sight.uid (Views.askUid request.head fresh request.views).1 = _
      rw [hkept, hright]
    · show (Views.askUid request.head fresh request.views).2.uid = _
      rw [hkept, ← hright, ← hvalue]
  | none =>
    obtain ⟨hnew, hleft⟩ := Views.askUid_of_none hrequest hvalue fresh
    rw [← hfresh hvalue, ← hnew]
    exact ⟨rfl, hleft⟩

end Request

end Inbound
