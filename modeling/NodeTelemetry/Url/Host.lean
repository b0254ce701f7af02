/-
# Hosts

A host in brackets is an IPv6 address. Where the scheme is known, any other host is a
domain or, if it ends in a number, an IPv4 address; where the scheme is not known, it is
taken as it is.
-/

import NodeTelemetry.Idna.Domain
import NodeTelemetry.Url.Fault
import NodeTelemetry.Url.Ipv4
import NodeTelemetry.Url.Ipv6
import NodeTelemetry.Url.Percent

namespace NodeTelemetry.Url

inductive Host where
  | domain (name : List Char)
  | ipv4 (address : Nat)
  | ipv6 (pieces : List Nat)
  /-- The host of a scheme that is not known. -/
  | plain (name : List Char)
  deriving DecidableEq, Repr

namespace Host

/-- A host that begins with a bracket; `text` is what follows it. -/
def ofBracketed (text : List Char) : Except Fault Host :=
  match text.reverse with
  | ']' :: address =>
    match Ipv6.read? address.reverse with
    | some pieces => .ok (.ipv6 pieces)
    | none => .error .badIpv6
  | _ => .error .badIpv6

/-- A host where the scheme is known. -/
def ofKnown (text : List Char) : Except Fault Host :=
  match text with
  | '[' :: rest => ofBracketed rest
  | _ =>
    match (percentDecode? text).bind Idna.domain? with
    | none => .error .badDomain
    | some name =>
      if name.isEmpty then .error .emptyHost
      else if Ipv4.endsInNumber name then
        match Ipv4.read? name with
        | some address => .ok (.ipv4 address)
        | none => .error .badIpv4
      else .ok (.domain name)

/-- Characters that no host may have. -/
def isForbidden (c : Char) : Bool := "\x00\t\n\r #/:<>?@[\\]^|".toList.contains c

/-- A host where the scheme is not known. -/
def ofUnknown (text : List Char) : Except Fault Host :=
  match text with
  | '[' :: rest => ofBracketed rest
  | _ => if text.any isForbidden then .error .badCharacter else .ok (.plain text)

end Host

end NodeTelemetry.Url
