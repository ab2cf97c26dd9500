/-!
# Web addresses

An address has a scheme and, after two slashes, a host with an optional port.  Path, query and
fragment can hold anything and are not kept.
-/

namespace SinkAudit

/-- Why a text is no address. -/
inductive UrlFault where
  | relative
  | emptyHost
  | invalidPort
  | invalidIpv4
  | invalidIpv6
  | invalidDomainChar
  | invalidDomainName
  deriving DecidableEq, Repr

/-- The wording of a fault. -/
def UrlFault.message : UrlFault → String
  | relative => "relative URL without a base"
  | emptyHost => "empty host"
  | invalidPort => "invalid port number"
  | invalidIpv4 => "invalid IPv4 address"
  | invalidIpv6 => "invalid IPv6 address"
  | invalidDomainChar => "invalid domain character"
  | invalidDomainName => "invalid international domain name"

/-- A host. -/
inductive Host where
  /-- No host is given. -/
  | absent
  | name (s : String)
  | ipv4 (address : Nat)
  | ipv6
  deriving DecidableEq, Repr

/-- An address. -/
structure Url where
  /-- The scheme in lower case. -/
  scheme : String
  host : Host
  port : Option Nat
  deriving DecidableEq, Repr

end SinkAudit
