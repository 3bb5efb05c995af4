import FluxIP.Ports.Backend

/-!
# The port of the action executors
-/

namespace FluxIP

structure HetznerDnsResolvedConfig where
  apiToken : String
  zoneName : Option String
  recordName : Option String
  sourceLabel : String
  deriving DecidableEq, Repr

structure HetznerFirewallResolvedConfig where
  apiToken : String
  accountId : Id
  firewallId : Nat
  direction : Direction
  protocol : Protocol
  port : Option String
  description : String
  previousEntries : FamilyValues
  deriving DecidableEq, Repr

/-- The config an executor of each action type receives. -/
def ResolvedConfig : ActionType → Type
  | .hetznerCloudDnsUpdate => HetznerDnsResolvedConfig
  | .hetznerCloudFirewallRuleUpdate => HetznerFirewallResolvedConfig
  | .traefikConfigDelivery => Unit

structure ActionExecutionResult where
  summary : String
  deriving DecidableEq, Repr

abbrev ActionExecutionIpValues := FamilyValues

/-- The calls an executor can make: it is given Redis and the provider's API,
but not the event store. -/
def Call.ofExecutor : Call → Bool
  | .redis (.set _ _ _) => true
  | .redis (.compareAndDelete _ _) => true
  | .hetzner _ => true
  | .clock _ => true
  | _ => false

theorem Call.quiet_of_ofExecutor {call : Call}
    (ofExecutor : Call.ofExecutor call = true) :
    Backend.quiet call = true := by
  cases call with
  | redis call => rfl
  | hetzner call => rfl
  | clock call => rfl
  | _ => cases ofExecutor

structure ActionExecutor (type : ActionType) where
  execute : ResolvedConfig type → ActionExecutionIpValues →
    Backend ActionExecutionResult
  external : ∀ config ipValues,
    (execute config ipValues).Calls fun call => Call.ofExecutor call = true

end FluxIP
