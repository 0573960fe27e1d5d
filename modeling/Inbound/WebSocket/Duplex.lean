import Inbound.Async.Poll

/-!
# Duplex connections

A connection in memory is a pair of pipes. A pipe holds a bounded number of bytes. Once one of its
ends has closed it, nothing more can be written, but what is in it can still be read.
-/

namespace Inbound.WebSocket

/-- Bytes on their way in one direction. -/
structure Pipe where
  /-- The bytes that have been written and not read. -/
  buffer : ByteArray
  /-- Nothing more can be written. -/
  closed : Bool

namespace Pipe

/-- How many bytes a pipe holds. -/
def capacity : Nat := 1048576

/-- The pipe before anything is written. -/
def fresh : Pipe := ⟨.empty, false⟩

/-- What becomes of bytes that are to be written. -/
inductive Written where
  /-- So many of them are in the pipe, and not none. -/
  | accepted (count : Nat) (pipe : Pipe)
  | full
  | broken

/-- Writes as many of the bytes as there is room for. -/
def write (pipe : Pipe) (bytes : ByteArray) : Written :=
  if pipe.closed then .broken
  else
    let count := min bytes.size (capacity - pipe.buffer.size)
    if count = 0 then .full
    else .accepted count { pipe with buffer := pipe.buffer ++ bytes.extract 0 count }

/-- Reads up to so many bytes; no bytes are the end. -/
def read (pipe : Pipe) (count : Nat) : Poll ByteArray × Pipe :=
  if pipe.buffer.isEmpty then (if pipe.closed then .ready .empty else .pending, pipe)
  else
    (.ready (pipe.buffer.extract 0 count),
      { pipe with buffer := pipe.buffer.extract count pipe.buffer.size })

/-- Closes the pipe. -/
def close (pipe : Pipe) : Pipe := { pipe with closed := true }

end Pipe

/-- A connection between a client and a server. -/
structure Duplex where
  /-- From the client to the server. -/
  toServer : Pipe
  /-- From the server to the client. -/
  toClient : Pipe
  /-- The client has not gone away. -/
  hasClient : Bool

namespace Duplex

/-- The connection before anything is written. -/
def fresh : Duplex := ⟨.fresh, .fresh, true⟩

instance : Inhabited Duplex := ⟨fresh⟩

/-- One of the two ends goes away, and nothing more passes. -/
def hangUp (duplex : Duplex) : Duplex :=
  { duplex with toServer := duplex.toServer.close, toClient := duplex.toClient.close }

/-- What becomes of bytes that one end writes. -/
inductive Flushed where
  /-- All of them are on their way. -/
  | done
  /-- These did not fit. -/
  | blocked (rest : ByteArray)
  /-- The other end does not take any. -/
  | broken

/-- Writes as much as fits into a pipe. -/
def flushInto (pipe : Pipe) (bytes : ByteArray) : Flushed × Pipe :=
  if bytes.isEmpty then (.done, pipe)
  else
    match pipe.write bytes with
    | .broken => (.broken, pipe)
    | .full => (.blocked bytes, pipe)
    | .accepted count pipe =>
      if count = bytes.size then (.done, pipe)
      else (.blocked (bytes.extract count bytes.size), pipe)

/-- The server writes. -/
def serverWrite (duplex : Duplex) (bytes : ByteArray) : Flushed × Duplex :=
  let (flushed, toClient) := flushInto duplex.toClient bytes
  (flushed, { duplex with toClient })

/-- The server reads up to so many bytes; no bytes are the end. -/
def serverRead (duplex : Duplex) (count : Nat) : Poll ByteArray × Duplex :=
  let (read, toServer) := duplex.toServer.read count
  (read, { duplex with toServer })

/-- The client writes. -/
def clientWrite (duplex : Duplex) (bytes : ByteArray) : Flushed × Duplex :=
  let (flushed, toServer) := flushInto duplex.toServer bytes
  (flushed, { duplex with toServer })

/-- The client takes all there is, and learns whether there can be more. -/
def clientRead (duplex : Duplex) : ByteArray × Bool × Duplex :=
  let pipe := duplex.toClient
  (pipe.buffer, !pipe.closed, { duplex with toClient := { pipe with buffer := .empty } })

/-- The client announces that it writes no more. -/
def clientShutdown (duplex : Duplex) : Duplex :=
  { duplex with toServer := duplex.toServer.close }

/-- The client goes away. -/
def dropClient (duplex : Duplex) : Duplex :=
  { duplex.hangUp with hasClient := false }

end Duplex

end Inbound.WebSocket
