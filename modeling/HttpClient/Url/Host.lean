import HttpClient.Url.Domain
import HttpClient.Url.Ipv6

/-!
# Hosts

The host of a URL is a domain name or an address. Hosts of special schemes are domains or
addresses; those of other schemes are taken as they are, with control characters escaped.
-/

namespace HttpClient

/-- Why a text is not a URL. -/
inductive UrlError
  | relativeWithoutBase
  | relativeWithOpaqueBase
  | emptyHost
  | invalidPort
  | invalidIpv4
  | invalidIpv6
  | invalidDomain
  | invalidDomainCharacter
  deriving DecidableEq, Repr

/-- The text of each reason. -/
def UrlError.message : UrlError → String
  | relativeWithoutBase => "relative URL without a base"
  | relativeWithOpaqueBase => "relative URL with a cannot-be-a-base base"
  | emptyHost => "empty host"
  | invalidPort => "invalid port number"
  | invalidIpv4 => "invalid IPv4 address"
  | invalidIpv6 => "invalid IPv6 address"
  | invalidDomain => "invalid international domain name"
  | invalidDomainCharacter => "invalid domain character"

/-- The name of each reason. -/
def UrlError.name : UrlError → String
  | relativeWithoutBase => "RelativeUrlWithoutBase"
  | relativeWithOpaqueBase => "RelativeUrlWithCannotBeABaseBase"
  | emptyHost => "EmptyHost"
  | invalidPort => "InvalidPort"
  | invalidIpv4 => "InvalidIpv4Address"
  | invalidIpv6 => "InvalidIpv6Address"
  | invalidDomain => "IdnaError"
  | invalidDomainCharacter => "InvalidDomainCharacter"

/-- The host of a URL. -/
inductive Host
  | domain (name : String)
  | ipv4 (address : Nat)
  | ipv6 (pieces : List Nat)
  deriving DecidableEq, Repr

namespace Host

/-- The text of a host, IPv6 addresses in brackets. -/
def render : Host → String
  | domain name => name
  | ipv4 address => Ipv4.render address
  | ipv6 pieces => "[" ++ Ipv6.render pieces ++ "]"

/-- An address in brackets. -/
def bracketed? (cs : List Char) : Except UrlError Host :=
  match cs.getLast? with
  | some ']' =>
    match Ipv6.parse? cs.dropLast with
    | some pieces => .ok (ipv6 pieces)
    | none => .error .invalidIpv6
  | _ => .error .invalidIpv6

/-- The host of a special scheme. -/
def ofSpecial (cs : List Char) : Except UrlError Host :=
  match cs with
  | '[' :: rest => bracketed? rest
  | _ =>
    match Domain.labels? cs with
    | none => .error .invalidDomain
    | some labels =>
      if labels == [[]] || labels.isEmpty then .error .emptyHost
      else if Ipv4.endsInNumber labels then
        match Ipv4.parse? labels with
        | some address => .ok (ipv4 address)
        | none => .error .invalidIpv4
      else .ok (domain (Domain.join labels))

/-- Characters that no host of another scheme contains. -/
def isForbiddenOpaque (c : Char) : Bool :=
  "\x00\t\n\x0d #/:<>?@[\\]^|".toList.contains c

/-- The host of any other scheme. -/
def ofOther (cs : List Char) : Except UrlError Host :=
  match cs with
  | '[' :: rest => bracketed? rest
  | _ =>
    if cs.any isForbiddenOpaque then .error .invalidDomainCharacter
    else .ok (domain (String.ofList (Percent.encode Percent.controlSet cs)))

end Host

end HttpClient
