import FluxIP.Ports.ActionExecutor

/-!
# Updating a rule of a Hetzner firewall

The advisory lock, the one read-modify-write path every change of a rule's
address list goes through, and the executor built on it.
-/

namespace FluxIP

open Async

/-! ## The lock -/

def DEFAULT_TTL_MS : Nat := 10000
def DEFAULT_MAX_WAIT_MS : Nat := 5000
def RETRY_DELAY_MS : Nat := 100

structure FirewallLockHandle where
  key : LockKey
  token : Id
  deriving DecidableEq, Repr

def FirewallLockHandle.release (lock : FirewallLockHandle) : Backend Unit :=
  Backend.compareAndDelete lock.key lock.token

def lockTimeout (key : LockKey) : Err :=
  .thrown ("Could not acquire firewall lock for account " ++
    toString key.accountId ++ ", firewall " ++ toString key.firewallId)

/-- The loop of `acquireFirewallLock`, with a bound on its passes.  A pass
that does not acquire the lock sleeps `RETRY_DELAY_MS`, so the deadline ends
the loop before the bound does. -/
def acquireLoop (key : LockKey) (token : Id) (deadline : Timestamp) :
    Nat → Backend FirewallLockHandle
  | 0 => .fail (lockTimeout key)
  | passes + 1 => do
      let acquired ← Backend.setNx key token DEFAULT_TTL_MS
      if acquired then pure ⟨key, token⟩
      else
        let now ← Backend.dateNow
        if deadline ≤ now then .fail (lockTimeout key)
        else
          Backend.sleepUntil (now + RETRY_DELAY_MS)
          acquireLoop key token deadline passes

def acquireFirewallLock (accountId : Id) (firewallId : Nat) :
    Backend FirewallLockHandle := do
  let key : LockKey := ⟨accountId, firewallId⟩
  let token ← Backend.randomUUID
  let now ← Backend.dateNow
  acquireLoop key token (now + DEFAULT_MAX_WAIT_MS)
    (DEFAULT_MAX_WAIT_MS / RETRY_DELAY_MS + 1)

/-! ## The update -/

/-- A single address in CIDR form. -/
def toCidr (address : String) : AddressFamily → String
  | .ipv4 => address ++ "/32"
  | .ipv6 => address ++ "/128"

/-- The values that are set, as `Object.values(…).filter(Boolean)` lists them. -/
def FamilyValues.entries (values : FamilyValues) : List String :=
  values.values.filter (· ≠ "")

/-- Push a value unless the list already includes it. -/
def pushNew (list : List String) (cidr : String) : List String :=
  if cidr ∈ list then list else list ++ [cidr]

/-- The address list after an update: what is to be removed goes, what is to
be added is appended unless it is there. -/
def nextList (current : List String) (remove add : FamilyValues) :
    List String :=
  add.entries.foldl pushNew (current.filter (· ∉ remove.entries))

/-- The whole rule set after the matched rule got its new address list. -/
def updatedRules (rules : List HetznerFirewallRule)
    (matched : HetznerFirewallRule) (remove add : FamilyValues) :
    List HetznerFirewallRule :=
  rules.map fun rule =>
    if rule = matched then
      rule.withAddresses (nextList rule.addresses remove add)
    else rule

def HetznerFirewallResolvedConfig.selector
    (config : HetznerFirewallResolvedConfig) : RuleSelector where
  direction := config.direction
  protocol := config.protocol
  port := config.port
  description := config.description

def noMatchMessage (firewallId : Nat) : String :=
  "No firewall rule on firewall " ++ toString firewallId ++
    " matches the configured selector (direction/protocol/port/description)"

def ambiguousMessage (firewallId matchCount : Nat) : String :=
  toString matchCount ++ " firewall rules on firewall " ++
    toString firewallId ++
    " match the configured selector; expected exactly one"

/-- The part of `applyFirewallRuleUpdate` that runs under the lock. -/
def rewriteFirewallRule (config : HetznerFirewallResolvedConfig)
    (remove add : FamilyValues) : Backend Unit := do
  let rules ← Backend.getFirewall config.apiToken config.firewallId
  match matchFirewallRule rules config.selector with
  | .noMatch => Backend.throw (noMatchMessage config.firewallId)
  | .ambiguousMatch matchCount =>
      Backend.throw (ambiguousMessage config.firewallId matchCount)
  | .rule matched =>
      Backend.setFirewallRules config.apiToken config.firewallId
        (updatedRules rules matched remove add)

def applyFirewallRuleUpdate (config : HetznerFirewallResolvedConfig)
    (remove add : FamilyValues) : Backend Unit := do
  let lock ← acquireFirewallLock config.accountId config.firewallId
  Program.tryFinally (rewriteFirewallRule config remove add) lock.release

/-! ## The executor -/

namespace HetznerFirewallExecutor

/-- The entries an execution adds: each address it has, in CIDR form. -/
def added (ipValues : ActionExecutionIpValues) : FamilyValues where
  ipv4 := (truthy ipValues.ipv4).map (toCidr · .ipv4)
  ipv6 := (truthy ipValues.ipv6).map (toCidr · .ipv6)

/-- The entries an execution removes: the recorded one of every family it has
an address for. -/
def removed (previousEntries : FamilyValues)
    (ipValues : ActionExecutionIpValues) : FamilyValues where
  ipv4 := (truthy ipValues.ipv4).bind fun _ => truthy previousEntries.ipv4
  ipv6 := (truthy ipValues.ipv6).bind fun _ => truthy previousEntries.ipv6

def updates (ipValues : ActionExecutionIpValues) : List String :=
  (added ipValues).ipv4.toList.map ("ipv4=" ++ ·) ++
    (added ipValues).ipv6.toList.map ("ipv6=" ++ ·)

def execute (config : HetznerFirewallResolvedConfig)
    (ipValues : ActionExecutionIpValues) : Backend ActionExecutionResult := do
  if updates ipValues = [] then
    Backend.throw "No IP values supplied to update"
  else
    applyFirewallRuleUpdate config
      (removed config.previousEntries ipValues) (added ipValues)
    pure ⟨"Updated Hetzner firewall " ++ toString config.firewallId ++
      " rule: " ++ String.intercalate ", " (updates ipValues)⟩

end HetznerFirewallExecutor

/-! ## The calls an update makes -/

theorem acquireLoop_external (key : LockKey) (token : Id)
    (deadline : Timestamp) (passes : Nat) :
    (acquireLoop key token deadline passes).Calls
      fun call => Call.ofExecutor call := by
  induction passes with
  | zero => trivial
  | succ passes ih =>
      unfold acquireLoop
      refine Program.Calls.bind ((Backend.calls_call _).mpr rfl)
        fun acquired => ?_
      split
      · trivial
      · refine Program.Calls.bind ((Backend.calls_call _).mpr rfl)
          fun now => ?_
        split
        · trivial
        · exact Program.Calls.bind ((Backend.calls_call _).mpr rfl)
            fun _ => ih

theorem applyFirewallRuleUpdate_external
    (config : HetznerFirewallResolvedConfig) (remove add : FamilyValues) :
    (applyFirewallRuleUpdate config remove add).Calls
      fun call => Call.ofExecutor call := by
  unfold applyFirewallRuleUpdate acquireFirewallLock
  refine Program.Calls.bind ?_ fun lock => ?_
  · refine Program.Calls.bind ((Backend.calls_call _).mpr rfl)
      fun token => ?_
    exact Program.Calls.bind ((Backend.calls_call _).mpr rfl)
      fun now => acquireLoop_external _ _ _ _
  · refine Program.Calls.tryFinally ?_ ((Backend.calls_call _).mpr rfl)
    refine Program.Calls.bind ((Backend.calls_call _).mpr rfl)
      fun rules => ?_
    split
    · trivial
    · trivial
    · exact (Backend.calls_call _).mpr rfl

def hetznerFirewallExecutor :
    ActionExecutor .hetznerCloudFirewallRuleUpdate where
  execute := HetznerFirewallExecutor.execute
  external := by
    intro config ipValues
    unfold HetznerFirewallExecutor.execute
    split
    · trivial
    · exact Program.Calls.bind (applyFirewallRuleUpdate_external _ _ _)
        fun _ => trivial

end FluxIP
