import FluxIP.Domain.Snapshot
import FluxIP.Wire.Json

/-!
# A snapshot as JSON and on the wire

The size of a snapshot is measured in its JSON, and it is sent as a protobuf
message to an agent.
-/

namespace FluxIP

/-! ## The JSON form -/

namespace SnapshotEntry

def json (entry : SnapshotEntry) : List Char :=
  Json.object [("deviceName", Json.quote entry.deviceName),
    ("ips", Json.array (entry.ips.map Json.quote))]

end SnapshotEntry

def SnapshotGroup.json (group : SnapshotGroup) : List Char :=
  Json.object [("key", Json.quote group.key),
    ("entries", Json.array (group.entries.map SnapshotEntry.json))]

def SnapshotContent.json (content : SnapshotContent) : List Char :=
  Json.object [("providerName", Json.quote content.providerName),
    ("groups", Json.array (content.groups.map SnapshotGroup.json))]

/-- The units a string of the runtime may have; `JSON.stringify` throws if there
are more. -/
def MAX_STRING_LENGTH : Nat := 2 ^ 29 - 24

def snapshotApproxBytes (content : SnapshotContent) : Option Nat :=
  if (Utf16.encode content.json).length ≤ MAX_STRING_LENGTH then
    some (Json.byteLength content.json)
  else none

/-! ## The wire form -/

open Protobuf

def SnapshotEntry.encode (entry : SnapshotEntry) : List UInt8 :=
  lengthField 1 (textBytes entry.deviceName) ++
    entry.ips.flatMap fun ip => lengthField 2 (textBytes ip)

def SnapshotGroup.encode (group : SnapshotGroup) : List UInt8 :=
  lengthField 1 (textBytes group.key) ++
    group.entries.flatMap fun entry => lengthField 2 entry.encode

/-- The provider name and the groups of a snapshot. -/
def SnapshotContent.encode (content : SnapshotContent) : List UInt8 :=
  lengthField 4 (textBytes content.providerName) ++
    content.groups.flatMap fun group => lengthField 5 group.encode

/-- The `Envelope` with a snapshot as its body. -/
def SnapshotContent.envelope (content : SnapshotContent) (version : Nat)
    (correlationId generatedAt : String) : List UInt8 :=
  lengthField 2 (varintField 1 version ++
    lengthField 2 (textBytes correlationId) ++
    lengthField 3 (textBytes generatedAt) ++ content.encode)

/-- The longest message the server sends. -/
def transportLimit (agentSnapshotMaxBytes : Nat) : Nat :=
  agentSnapshotMaxBytes + 64 * 1024

end FluxIP
