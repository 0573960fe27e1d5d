import Inbound.Url.Domain
import Inbound.Url.Ipv4
import Inbound.Url.Ipv6
import Inbound.Url.Percent

/-!
# Hosts

The host of a URL is a domain or an address. A scheme that browsers do not know may have any text
as its host.
-/

namespace Inbound.Url

/-- The host of a URL. -/
inductive Host where
  /-- A domain, or the text that stands in its place. -/
  | name (text : String)
  | ipv4 (address : Ipv4)
  | ipv6 (address : Ipv6)
  deriving DecidableEq, Repr

namespace Host

/-- The host as it stands in a URL. -/
def text : Host → String
  | .name text => text
  | .ipv4 address => address.text
  | .ipv6 address => address.text

/-- The characters that end a host or a port, or that no host contains. -/
def forbidden : List Char :=
  ['\x00', '\t', '\n', '\r', ' ', '#', '/', ':', '<', '>', '?', '@', '[', '\\', ']', '^', '|']

/-- Reads an address between brackets. -/
def bracketed? (cs : List Char) : Option Host :=
  if cs.getLast? == some ']' then
    (Ipv6.parse? (String.ofList (cs.drop 1).dropLast)).map .ipv6
  else none

/-- Reads the host of a scheme that browsers know. -/
def parse? (text : String) : Option Host :=
  if text.front? == some '[' then bracketed? text.toList
  else
    match Domain.ofBytes? (Http.percentDecode text.toUTF8) with
    | none => none
    | some domain =>
      if domain.isEmpty then none
      -- A domain that ends in a number is an address or nothing.
      else if Ipv4.isNumeric domain then (Ipv4.parse? domain).map .ipv4
      else some (.name domain)

/-- Reads the host of any other scheme. -/
def parseOpaque? (text : String) : Option Host :=
  if text.front? == some '[' then bracketed? text.toList
  else if text.any forbidden.contains then none
  else some (.name (percentEncode .opaquePart text))

end Host

end Inbound.Url
