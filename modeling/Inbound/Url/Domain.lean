import Inbound.Http.Query
import Inbound.Text.Composed
import Inbound.Url.Direction
import Inbound.Url.Joining
import Inbound.Url.Punycode
import Inbound.Url.Variant

/-!
# Domains

The name of a host as a URL writes it: in lower case, in ASCII, with labels in other scripts in
their encoded form. What could be misread, be it as another part of a URL or because of the order
in which it is displayed, is refused.
-/

namespace Inbound.Url.Domain

/-- The printable ASCII characters that no domain contains. -/
def forbidden : List Char :=
  [' ', '%', '#', '/', ':', '<', '>', '?', '@', '[', '\\', ']', '^', '|']

/-- Whether `c` may stand in a domain after variants have been replaced. -/
def isAllowed (c : Char) : Bool :=
  128 ≤ c.toNat || (32 < c.toNat && c.toNat != 127 && !forbidden.contains c)

/-- The normal form of the characters of a domain, unless there is one that no domain has. -/
def normalize? (cs : List Char) : Option (List Char) :=
  match cs.mapM foldVariant? with
  | none => none
  | some parts =>
    let cs := Text.normalForm parts.flatten
    if cs.all isAllowed then some cs else none

/-- The mark at the beginning of an encoded label. -/
def encodedMark : List Char := ['x', 'n', '-', '-']

/-- Whether the label is marked as encoded. -/
def isEncoded (label : List Char) : Bool :=
  encodedMark.isPrefixOf label

/-- The longest text of an encoded label behind its mark. -/
def maxEncoded : Nat := 2000

/-- The longest label that is not ASCII. -/
def maxLabel : Nat := 1000

/-- The label that a label in normal form stands for. An encoded label stands for one that could
not have been written in ASCII, in normal form too. -/
def readLabel? (label : List Char) : Option (List Char) :=
  if isEncoded label then
    let text := label.drop encodedMark.length
    if maxEncoded < text.length then none
    else
      match Punycode.decode? text with
      | none => none
      | some decoded =>
        -- An encoded label has to be the one spelling of its text, which must need encoding.
        if decoded.any (128 ≤ ·.toNat) && !decoded.contains '.'
          && normalize? decoded == some decoded && Punycode.encode decoded == text then some decoded
        else none
  else some label

/-- Whether a label begins with a character of its own, has joiners only where they matter, and is
not too long. -/
def isProperLabel (label : List Char) : Bool :=
  !(label.head?.map Text.isMark).getD false && joinersMatter [] label
    && (label.all (·.toNat < 128) || label.length ≤ maxLabel)

/-- A label in ASCII. -/
def asciiLabel (label : List Char) : List Char :=
  if label.all (·.toNat < 128) then label else encodedMark ++ Punycode.encode label

/-- The labels between dots. -/
def labels (cs : List Char) : List (List Char) :=
  ((String.ofList cs).splitOn ".").map String.toList

/-- The domain that the bytes of a host stand for. -/
def ofBytes? (bytes : ByteArray) : Option String := do
  let text ← Text.decodeUtf8? bytes
  let cs ← normalize? text.toList
  let labels ← (labels cs).mapM readLabel?
  if labels.all isProperLabel && Direction.isClear labels then
    return ".".intercalate (labels.map fun label => String.ofList (asciiLabel label))
  else failure

end Inbound.Url.Domain
