import Inbound.Json.Shape
import Inbound.Request.Basic

/-!
# Calls on the body

The ways in which a handler gets at the body of its request. A call is begun, polled until it is
ready, or abandoned. Text and JSON are made of the complete bytes at the moment when these are
there, in the character set that is in force then.
-/

namespace Inbound

/-- What a handler wants of the body. -/
inductive BodyCall where
  /-- All of its bytes. -/
  | read
  /-- Its text. -/
  | text
  /-- Its text as a JSON value. -/
  | json
  /-- Its text as a JSON value of a shape. -/
  | jsonAs (shape : Json.Shape)
  /-- That what is left of it is thrown away. -/
  | release
  /-- One chunk, whatever becomes of the body. -/
  | readAny

/-- What a handler gets of the body. -/
inductive BodyAnswer where
  | bytes (bytes : ByteArray)
  | text (content : String)
  | json (value : Json.Value)
  | typed (value : Json.Typed)
  | released

/-- Why a handler does not get what it wants. -/
inductive CallError where
  | body (cause : BodyError)
  | text (cause : TextError)
  /-- The body is no text, so it is no JSON either. -/
  | jsonText (cause : TextError)
  | json (fault : Json.Fault)
  /-- The stream behind the payload failed. -/
  | stream (text : String)

/-- How far a call has come. -/
inductive CallStage where
  | reading (read : Body.Read)
  | releasing (release : Body.Release)
  | pulling (ticket : Ticket)

/-- A call in progress. -/
structure Call where
  /-- What is wanted. -/
  wanted : BodyCall
  /-- How far it has come. -/
  stage : CallStage

/-- The ticket under which the call is known to the body. -/
def Call.ticket (call : Call) : Ticket :=
  match call.stage with
  | .reading read => read.ticket
  | .releasing release => release.ticket
  | .pulling ticket => ticket

namespace Request

/-- Begins a call. -/
def beginCall (request : Request) (wanted : BodyCall) : Call × Request :=
  match wanted with
  | .release =>
    let (release, body) := request.body.beginRelease
    (⟨wanted, .releasing release⟩, { request with body })
  | .readAny =>
    let (ticket, body) := request.body.newTicket
    (⟨wanted, .pulling ticket⟩, { request with body })
  | _ =>
    let (read, body) := request.body.beginRead
    (⟨wanted, .reading read⟩, { request with body })

/-- What a call gives once the bytes are there, or known not to come. -/
def finishCall (wanted : BodyCall) (charset : String) (read : Except BodyError ByteArray) :
    Except CallError BodyAnswer :=
  let text : Except TextError String :=
    match read with
    | .ok bytes => decodeBody charset bytes
    | .error error => .error (.body error)
  match wanted with
  | .text =>
    match text with
    | .ok text => .ok (.text text)
    | .error error => .error (.text error)
  | .json =>
    match text with
    | .error error => .error (.jsonText error)
    | .ok text =>
      match Json.parse text with
      | .ok value => .ok (.json value)
      | .error fault => .error (.json fault)
  | .jsonAs shape =>
    match text with
    | .error error => .error (.jsonText error)
    | .ok text =>
      match Json.parseAs shape text with
      | .ok value => .ok (.typed value)
      | .error fault => .error (.json fault)
  | _ =>
    match read with
    | .ok bytes => .ok (.bytes bytes)
    | .error error => .error (.body error)

/-- Polls a call. -/
def pollCall (request : Request) (call : Call) :
    Poll (Except CallError BodyAnswer) × Call × Request :=
  match call.stage with
  | .reading read =>
    match request.body.pollRead read with
    | (.pending, read, body) =>
      (.pending, { call with stage := .reading read }, { request with body })
    | (.ready result, read, body) =>
      -- The character set is asked for only when the read has ended, however it has.
      let (charset, request) := Request.charset { request with body }
      (.ready (finishCall call.wanted charset result), { call with stage := .reading read },
        request)
  | .releasing release =>
    match request.body.pollRelease release with
    | (.pending, release, body) =>
      (.pending, { call with stage := .releasing release }, { request with body })
    | (.ready result, release, body) =>
      let answer : Except CallError BodyAnswer :=
        match result with
        | .ok () => .ok .released
        | .error error => .error (.body error)
      (.ready answer, { call with stage := .releasing release }, { request with body })
  | .pulling ticket =>
    match request.body.pullAny ticket with
    | (.pending, body) => (.pending, call, { request with body })
    | (.ready (.ok bytes), body) => (.ready (.ok (.bytes bytes)), call, { request with body })
    | (.ready (.error text), body) => (.ready (.error (.stream text)), call, { request with body })

/-- Abandons a call. -/
def abandonCall (request : Request) (call : Call) : Request :=
  let body :=
    match call.stage with
    | .reading read => request.body.abandonRead read
    | .releasing release => request.body.abandonRelease release
    | .pulling ticket => request.body.leavePulling ticket
  { request with body }

/-- Polls a call up to so many times and then abandons it. -/
def driveCall (request : Request) (call : Call) (polls : Nat) :
    Poll (Except CallError BodyAnswer) × Request :=
  match polls with
  | 0 => (.pending, request.abandonCall call)
  | polls + 1 =>
    match request.pollCall call with
    | (.ready answer, _, request) => (.ready answer, request)
    | (.pending, call, request) => request.driveCall call polls

end Request

end Inbound
