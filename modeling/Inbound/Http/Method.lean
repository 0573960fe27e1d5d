import Inbound.Text.Quoted

/-!
# Request methods

A method is read in any case and kept in upper case. The nine standard methods have names of
their own; every other token is an extension.
-/

namespace Inbound.Http

/-- A request method in upper case. -/
inductive Method where
  | get
  | put
  | post
  | delete
  | options
  | head
  | trace
  | connect
  | patch
  /-- A method that is none of the standard ones. -/
  | extension (name : String)
  deriving DecidableEq, Repr, Inhabited

namespace Method

/-- The method of a request that states none. -/
def default : Method := .get

/-- Reads a method in any case. -/
def parse (text : String) : Method :=
  match text.toUpper with
  | "GET" => .get
  | "PUT" => .put
  | "POST" => .post
  | "DELETE" => .delete
  | "OPTIONS" => .options
  | "HEAD" => .head
  | "TRACE" => .trace
  | "CONNECT" => .connect
  | "PATCH" => .patch
  | upper => .extension upper

/-- The method as it stands in a request. -/
def text : Method → String
  | .get => "GET"
  | .put => "PUT"
  | .post => "POST"
  | .delete => "DELETE"
  | .options => "OPTIONS"
  | .head => "HEAD"
  | .trace => "TRACE"
  | .connect => "CONNECT"
  | .patch => "PATCH"
  | .extension name => name

/-- The method as a diagnostic shows it. -/
def describe : Method → String
  | .get => "Get"
  | .put => "Put"
  | .post => "Post"
  | .delete => "Delete"
  | .options => "Options"
  | .head => "Head"
  | .trace => "Trace"
  | .connect => "Connect"
  | .patch => "Patch"
  | .extension name => "Custom(" ++ Text.quote name ++ ")"

end Method

end Inbound.Http
