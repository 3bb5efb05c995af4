import FluxIP.Ports.ActionExecutor

/-!
# The Hetzner DNS executor
-/

namespace FluxIP

open Async

namespace HetznerDnsExecutor

/-- A template literal renders a missing part of the path as `undefined`. -/
def setRecords (config : HetznerDnsResolvedConfig) (type : RecordType)
    (value : String) : Backend Unit :=
  Backend.setRecords config.apiToken (config.zoneName.getD "undefined")
    (config.recordName.getD "undefined") type value

/-- Set one family's record if there is an address for it; the answer is the
entry of the summary. -/
def update (config : HetznerDnsResolvedConfig) (type : RecordType)
    (label : String) (address : Option String) : Backend (List String) :=
  match truthy address with
  | some value => do
      setRecords config type value
      pure [label ++ "=" ++ value]
  | none => pure []

def execute (config : HetznerDnsResolvedConfig)
    (ipValues : ActionExecutionIpValues) : Backend ActionExecutionResult := do
  let first ← update config .a "A" ipValues.ipv4
  let second ← update config .aaaa "AAAA" ipValues.ipv6
  let updates := first ++ second
  if updates = [] then
    Backend.throw "No IP values supplied to update"
  else
    pure ⟨"Updated Hetzner DNS record \"" ++
      config.recordName.getD "undefined" ++ "\": " ++
      String.intercalate ", " updates⟩

theorem execute_external (config : HetznerDnsResolvedConfig)
    (ipValues : ActionExecutionIpValues) :
    (execute config ipValues).Calls fun call => Call.ofExecutor call := by
  have update_external : ∀ type label address,
      (update config type label address).Calls
        fun call => Call.ofExecutor call := by
    intro type label address
    unfold update
    split
    · exact Program.Calls.bind ((Backend.calls_call _).mpr rfl)
        fun _ => trivial
    · trivial
  unfold execute
  refine (update_external _ _ _).bind fun first => ?_
  refine (update_external _ _ _).bind fun second => ?_
  dsimp only
  split <;> trivial

end HetznerDnsExecutor

def hetznerDnsExecutor : ActionExecutor .hetznerCloudDnsUpdate where
  execute := HetznerDnsExecutor.execute
  external := HetznerDnsExecutor.execute_external

end FluxIP
