import Inbound.Charset
import Inbound.Config.Document

/-!
# Settings

The settings shared by all requests. Each has a default, so the empty document is valid.
-/

namespace Inbound

/-- The settings that requests are built with. -/
structure Config where
  /-- How many bytes a body may have, less one; zero stands for no limit. -/
  clientMaxSize : Nat
  /-- The character set of bodies that declare none. -/
  defaultCharset : String
  /-- The header that may carry the identity of a request. -/
  uidHeader : String
  /-- Whether that header is believed. -/
  trustForwardedUid : Bool
  deriving DecidableEq, Repr

namespace Config

/-- The settings of an empty document. -/
def default : Config where
  clientMaxSize := 1024 * 1024
  defaultCharset := "utf-8"
  uidHeader := "X-FORWARDED-REQUEST-UID"
  trustForwardedUid := true

instance : Inhabited Config := ⟨default⟩

/-- Why settings are refused. -/
inductive Error where
  /-- The file holds something that is no text. -/
  | notText
  /-- There is no such file. -/
  | missingFile
  /-- The path names a directory. -/
  | isDirectory
  /-- The document is malformed, or sets something that is no setting. -/
  | malformed
  /-- The default character set is unknown. -/
  | unsupportedCharset (name : String)
  /-- The identity header cannot be the name of a header. -/
  | invalidUidHeader (name : String)
  deriving DecidableEq, Repr

/-- The error in words, for every cause that is told in words. -/
def Error.message : Error → Option String
  | .notText => some "IO error: stream did not contain valid UTF-8"
  | .missingFile => some "IO error: No such file or directory (os error 2)"
  | .isDirectory => some "IO error: Is a directory (os error 21)"
  | .malformed => none
  | .unsupportedCharset name =>
    some s!"Validation failed: unsupported default_charset '{name}'"
  | .invalidUidHeader name => some s!"Validation failed: invalid uid_header '{name}'"

/-- Whether `name` can be the name of the identity header. -/
def isHeaderName (name : String) : Bool :=
  !name.isEmpty && name.all fun c => c.isAlphanum || c == '-' || c == '_'

/-- Refuses settings that no request could work with. -/
def validate (config : Config) : Except Error Config :=
  if (Charset.ofName? config.defaultCharset).isNone then
    .error (.unsupportedCharset config.defaultCharset)
  else if !isHeaderName config.uidHeader then
    .error (.invalidUidHeader config.uidHeader)
  else .ok config

/-- Sets one setting. -/
def set? (config : Config) (key : String) (value : Scalar) : Option Config :=
  match key, value with
  | "client_max_size", .integer n =>
    if 0 ≤ n then some { config with clientMaxSize := n.toNat } else none
  | "default_charset", .text s => some { config with defaultCharset := s }
  | "uid_header", .text s => some { config with uidHeader := s }
  | "trust_forwarded_uid", .flag b => some { config with trustForwardedUid := b }
  | _, _ => none

/-- The settings that a document states, before validation. -/
def ofDocument? (text : String) : Option Config := do
  let entries ← Document.parse? text
  entries.foldlM (fun config (key, value) => config.set? key value) default

/-- Reads and validates the settings of a document. -/
def parse (text : String) : Except Error Config :=
  match ofDocument? text with
  | none => .error .malformed
  | some config => config.validate

/-- What a path leads to. -/
inductive File where
  | missing
  | directory
  | contents (bytes : ByteArray)

/-- Reads and validates the settings of a file. -/
def load : File → Except Error Config
  | .missing => .error .missingFile
  | .directory => .error .isDirectory
  | .contents bytes =>
    match Text.decodeUtf8? bytes with
    | none => .error .notText
    | some text => parse text

end Config

end Inbound
