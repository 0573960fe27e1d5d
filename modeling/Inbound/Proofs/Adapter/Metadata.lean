import Mathlib
import Inbound.Adapter.Message
import Inbound.Proofs.Http.Fields
import Inbound.Proofs.Request.Views
import Inbound.Proofs.Text.WellFormed

/-!
# What a request keeps of a message

A message is converted once, and then looked at through views: the header as a map that is asked in
any case, the host and the identity out of that map, the method in upper case. All that these tell
is what the message had, but for one thing. A message without a host may have a target that names
one. The authority of the target is then lent to the header, behind everything else.

## Main results

* `Message.headers_eq`: the header is that of the message, with the host that is lent;
* `Message.getAll_headers_head`: what the map answers for a name in any case;
* `Message.kept_lookAll`: what a converted message tells, whatever has been asked before.
-/

namespace Inbound

/-- A method is told as it came, in upper case. -/
theorem Http.Method.text_parse (text : String) : (parse text).text = text.toUpper := by
  unfold parse
  split <;> simp [Method.text, *]

/-- The values of a name are those of the pairs that have it in any case. -/
theorem Head.getAll_headers (head : Head) (name : String) :
    head.headers.getAll name =
      (head.rawHeaders.filter fun header =>
        Http.SameName (Text.decodeLossy header.1) name).map fun header =>
          Text.decodeLossy header.2 := by
  rw [headers, (Http.MultiMap.Represents.ofPairs _).answers.getAll, Http.Grouped.valuesOf_ofPairs,
    List.filter_map, List.map_map]
  rfl

/-- An identity is forwarded if a header that is believed carries it. -/
theorem Head.uid_eq_forwarded_iff (head : Head) (fresh : ℕ) (text : String) :
    head.uid fresh = .forwarded text ↔
      head.trustForwardedUid = true ∧ head.headers.get? head.uidHeader = some text := by
  rw [uid, forwardedUid]
  cases head.trustForwardedUid <;> cases head.headers.get? head.uidHeader <;> simp

namespace Adapter.Message

variable {message : Message}

/-- The fields of a message that has been parsed are well-formed. -/
theorem wellFormed_ofParts? {method target : String} {pairs : List (ByteArray × ByteArray)}
    {version : Http.Version} {body : List Payload.Item}
    (h : ofParts? method target pairs version body = some message) :
    message.fields.WellFormed := by
  unfold ofParts? at h
  split at h
  · cases h
  · obtain ⟨_, -, h⟩ := Option.bind_eq_some_iff.1 h
    obtain ⟨fields, hfields, h⟩ := Option.bind_eq_some_iff.1 h
    cases h
    exact Http.Fields.wellFormed_ofPairs? hfields

/-- The authority of the target, if the header has no host. -/
def lentHost (message : Message) : Option String :=
  if (message.fields.getAll "host").isEmpty then message.target.authority else none

/-- The header is that of the message, with the host that is lent. -/
theorem headers_eq (h : message.fields.WellFormed) :
    message.headers =
      message.fields.pairs.map (fun pair => (pair.1.toUTF8, pair.2)) ++
        message.lentHost.toList.map fun authority => ("host".toUTF8, authority.toUTF8) := by
  have own : message.fields.contains "host" = !(message.fields.getAll "host").isEmpty := by
    rw [Bool.eq_iff_iff, h.contains_iff]
    simp
  unfold headers lentHost
  rw [own]
  cases (message.fields.getAll "host").isEmpty <;> cases message.target.authority <;> simp

/-- What the map answers for a name in any case: all that the message has under it, and the host
that is lent. -/
theorem getAll_headers_head (h : message.fields.WellFormed) (config : Config) (name : String) :
    (message.head config).headers.getAll name =
      (message.fields.getAll name.toLower).map Text.decodeLossy ++
        if Http.SameName "host" name then message.lentHost.toList else [] := by
  have raw : (message.head config).rawHeaders = message.headers := rfl
  -- The names are in lower case, so one that is the same in any case is the lowered one.
  have own : (message.fields.pairs.filter fun pair => Http.SameName pair.1 name) =
      message.fields.pairs.filter fun pair => pair.1 = name.toLower := by
    refine List.filter_congr fun pair hpair => ?_
    simp only [Http.sameName_iff_of_lowered (h.lowered_pairs pair hpair)]
  rw [Head.getAll_headers, raw, headers_eq h, List.filter_append, List.map_append, List.filter_map,
    List.filter_map, List.map_map, List.map_map, h.getAll_eq, ← own, List.map_map]
  simp only [Function.comp_def, Text.decodeLossy_toUTF8]
  by_cases host : Http.SameName "host" name <;> simp [host]

/-- What a request tells is what the message had, under settings. -/
structure Kept (message : Message) (config : Config) (request : Request) : Prop where
  /-- The pairs come in the order in which the message has them. A host that is lent comes last. -/
  rawHeaders : request.head.rawHeaders =
    message.fields.pairs.map (fun pair => (pair.1.toUTF8, pair.2)) ++
      message.lentHost.toList.map fun authority => ("host".toUTF8, authority.toUTF8)
  /-- Each name has, in any case, the values that the message has for it, in their order. -/
  getAll : ∀ name, (Request.headers request).1.getAll name =
    (message.fields.getAll name.toLower).map Text.decodeLossy ++
      if Http.SameName "host" name then message.lentHost.toList else []
  /-- The host is the first one of the header, else the authority of the target. -/
  host : (Request.host request).1 =
    ((message.fields.get? "host").map Text.decodeLossy).or message.target.authority
  /-- The identity is the first value of the header that may carry it, if that is believed. -/
  uid : ∀ serial text, (Request.uid serial request).1 = .forwarded text ↔
    config.trustForwardedUid = true ∧
      ((Request.headers request).1.getAll config.uidHeader).head? = some text
  /-- The path is that of the target. -/
  path : request.head.path = message.target.path
  /-- The query is that of the target. -/
  rawQuery : request.head.rawQuery = (message.target.query.getD "").toUTF8
  /-- The method is the same in upper case. -/
  method : (Request.method request).1.text = message.method.toUpper

/-- The views are those of the head, and the head keeps what it was made of. -/
theorem kept_of_faithful (h : message.fields.WellFormed) {config : Config} {request : Request}
    (hhead : request.head = message.head config) (hrequest : request.Faithful) :
    message.Kept config request := by
  -- Each view shows what the head has, and the head what the message has.
  have hheaders : (Request.headers request).1 = (message.head config).headers := by
    rw [← hhead]
    exact (hrequest.view (Views.answers_headers _)).1
  have hhost : (Request.host request).1 = (message.head config).host := by
    rw [← hhead]
    exact (hrequest.view (Views.answers_host _)).1
  constructor
  case rawHeaders =>
    rw [hhead]
    exact headers_eq h
  case getAll =>
    intro name
    rw [hheaders]
    exact getAll_headers_head h config name
  case host =>
    have lower : "host".toLower = "host" := by decide +kernel
    have same : Http.SameName "host" "host" := by decide
    rw [hhost, Head.host, Http.MultiMap.get?, getAll_headers_head h, lower, if_pos same, lentHost,
      Http.Fields.get?]
    cases message.fields.getAll "host" with
    | nil => cases message.target.authority <;> rfl
    | cons value values => rfl
  case uid =>
    intro serial text
    have huid : ∃ fresh, (Request.uid serial request).1 = request.head.uid fresh :=
      (Views.answers_uid request.head serial request.views hrequest).1
    obtain ⟨fresh, huid⟩ := huid
    rw [huid, Head.uid_eq_forwarded_iff, hheaders, hhead]
    rfl
  case path =>
    rw [hhead]
    rfl
  case rawQuery =>
    rw [hhead]
    rfl
  case method =>
    have hmethod : (Request.method request).1 = request.head.method :=
      (hrequest.view (Views.answers_method _)).1
    rw [hmethod, hhead]
    exact Http.Method.text_parse message.method

/-- What a converted message tells, whatever has been asked before. -/
theorem kept_lookAll (h : message.fields.WellFormed) (config : Config) (registry : RegistryId)
    (runtime : Option RuntimeId) (looks : List Look) :
    message.Kept config ((message.convert config registry runtime).lookAll looks) := by
  have hconvert : (message.convert config registry runtime).Faithful :=
    Request.faithful_build _ _ _ _ _
  obtain ⟨hfaithful, hhead⟩ := hconvert.lookAll looks
  exact kept_of_faithful h hhead hfaithful

/-- A message with a host in its target only, and with a tag that is no text. -/
def tagged : Message where
  method := "post"
  target := ⟨some "http", some "example.org", "", some "q=1"⟩
  fields := ⟨[("x-tag", [⟨#[97]⟩, ⟨#[255]⟩]), ("x-forwarded-request-uid", [⟨#[98]⟩])]⟩
  version := .default
  body := []

/-- Both tags of `tagged` are found, and the host is that of the target. -/
theorem kept_tagged :
    let request := (tagged.convert .default 0 none).lookAll [.uid 0, .headers]
    ofParts? "post" "http://example.org?q=1" [("X-Tag".toUTF8, ⟨#[97]⟩),
        ("X-Forwarded-Request-Uid".toUTF8, ⟨#[98]⟩), ("x-tag".toUTF8, ⟨#[255]⟩)] .default [] =
      some tagged ∧
    tagged.Kept .default request ∧
    (Request.headers request).1.getAll "X-TAG" = ["a", "\uFFFD"] ∧
    (Request.host request).1 = some "example.org" ∧
    (Request.uid 1 request).1 = .forwarded "b" := by
  have accepted : ofParts? "post" "http://example.org?q=1" [("X-Tag".toUTF8, ⟨#[97]⟩),
      ("X-Forwarded-Request-Uid".toUTF8, ⟨#[98]⟩), ("x-tag".toUTF8, ⟨#[255]⟩)] .default [] =
      some tagged := by cbv
  intro request
  have kept : tagged.Kept .default request :=
    kept_lookAll (wellFormed_ofParts? accepted) .default 0 none [.uid 0, .headers]
  clear_value request
  have tags : (tagged.fields.getAll "X-TAG".toLower).map Text.decodeLossy = ["a", "\uFFFD"] := by
    cbv
  have carrier : Config.default.uidHeader.toLower = "x-forwarded-request-uid" := by
    decide +kernel
  have uids : (tagged.fields.getAll "x-forwarded-request-uid").map Text.decodeLossy = ["b"] := by
    cbv
  have other : ¬ Http.SameName "host" "X-TAG" := by decide
  refine ⟨accepted, kept, ?_, ?_, ?_⟩
  · rw [kept.getAll, tags, if_neg other, List.append_nil]
  · rw [kept.host]
    cbv
  · rw [kept.uid, kept.getAll, carrier, uids]
    exact ⟨rfl, rfl⟩

end Adapter.Message

end Inbound
