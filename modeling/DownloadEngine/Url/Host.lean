import DownloadEngine.Url.Address
import DownloadEngine.Url.EncodeSet
import DownloadEngine.Url.Error
import DownloadEngine.Url.Idna
import DownloadEngine.Text.Percent

/-!
# Hosts

The host of an address with a special scheme is a domain, brought to its ASCII form after
percent decoding, or an IPv4 address when that domain ends in a number, or a bracketed IPv6
address. Other schemes keep their host as opaque text, with controls escaped.
-/

namespace DownloadEngine.Url

/-- The host of an address. -/
inductive Host
  | domain (name : String)
  | ipv4 (address : Nat)
  | ipv6 (groups : List Nat)
  deriving DecidableEq, Repr

/-- The text of a host as it stands in an address. -/
def Host.text : Host → String
  | .domain name => name
  | .ipv4 address => ipv4Text address
  | .ipv6 groups => "[" ++ ipv6Text groups ++ "]"

/-- Reads the bracketed form `[...]` of an IPv6 host. -/
def Host.bracketed (input : List Char) : Except ParseError Host :=
  if input.getLast? ≠ some ']' then .error .invalidIpv6
  else match parseIpv6 (String.ofList ((input.drop 1).dropLast)) with
    | some groups => .ok (.ipv6 groups)
    | none => .error .invalidIpv6

/-- Reads the host of an address with a special scheme. -/
def Host.parse (input : String) : Except ParseError Host :=
  if input.toList.head? = some '[' then Host.bracketed input.toList
  else
    match Idna.toAscii (Text.percentDecodeBytes (Text.utf8 input)) with
    | none => .error .invalidDomain
    | some name =>
      if name = "" then .error .emptyHost
      else if endsInNumber name then
        match parseIpv4 name with
        | some address => .ok (.ipv4 address)
        | none => .error .invalidIpv4
      else .ok (.domain name)

/-- Characters that may not stand in an opaque host. -/
def isForbiddenHostChar (c : Char) : Bool :=
  "\x00\t\n\r #/:<>?@[\\]^|".toList.contains c

/-- Reads the host of an address with another scheme. -/
def Host.parseGeneric (input : String) : Except ParseError Host :=
  if input.toList.head? = some '[' then Host.bracketed input.toList
  else if input.toList.any isForbiddenHostChar then .error .invalidDomainCharacter
  else .ok (.domain (EncodeSet.controls.encode input.toList))

end DownloadEngine.Url
