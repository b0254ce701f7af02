/-
# Faults of addresses
-/

namespace NodeTelemetry.Url

/-- Why a text is no URL. -/
inductive Fault where
  /-- It does not begin with a scheme. -/
  | noScheme
  | emptyHost
  | badPort
  | badIpv4
  | badIpv6
  /-- The host is no domain. -/
  | badDomain
  /-- The host has a character that no host may have. -/
  | badCharacter
  deriving DecidableEq, Repr

def Fault.message : Fault → String
  | .noScheme => "relative URL without a base"
  | .emptyHost => "empty host"
  | .badPort => "invalid port number"
  | .badIpv4 => "invalid IPv4 address"
  | .badIpv6 => "invalid IPv6 address"
  | .badDomain => "invalid international domain name"
  | .badCharacter => "invalid domain character"

end NodeTelemetry.Url
