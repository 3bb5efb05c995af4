import FluxIP.Domain.AgentProtocol
import FluxIP.Net.Netip

/-!
# What the agent's templates are rendered from
-/

namespace FluxIP.Render

open Netip

/-- One device in a group. -/
structure Entry where
  name : String
  ips : List String
  ipv4 : List String
  ipv6 : List String
  deriving DecidableEq, Repr

/-- Everything a template can see.  A missing key of `groups` yields an empty
list. -/
structure Data where
  provider : String
  version : Nat
  time : Timestamp
  stale : Bool
  groups : String → List Entry

/-- `addr.Is4() || addr.Is4In6()` -/
def isFamily4 : Addr → Bool
  | .v4 _ => true
  | .v6 ip _ => ip.mapped.isSome

/-- The addresses of one family; what does not parse is in neither. -/
def ofFamily (family4 : Bool) (ips : List String) : List String :=
  ips.filter fun ip =>
    (parseAddr ip.toList).any fun addr => isFamily4 addr = family4

def newEntry (name : String) (ips : List String) : Entry where
  name
  ips
  ipv4 := ofFamily true ips
  ipv6 := ofFamily false ips

example : (newEntry "router" ["10.0.0.1", "fe80::1", "?"]).ipv6 =
    ["fe80::1"] := by decide

/-- The entries of every group with this key, in order. -/
def entriesOf (groups : List SnapshotGroup) (key : String) : List Entry :=
  (groups.filter (·.key = key)).flatMap fun group =>
    group.entries.map fun entry => newEntry entry.deviceName entry.ips

/-- An address as a host route; a text with a slash is kept as a prefix, and so
is one that does not parse. -/
def cidr (ip : String) : String :=
  if '/' ∈ ip.toList then ip
  else
    match parseAddr ip.toList with
    | none => ip
    | some addr => String.ofList (Prefix.host addr).text

example : cidr "10.0.0.1" = "10.0.0.1/32" := by decide +kernel

end FluxIP.Render
