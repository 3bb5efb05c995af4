import FluxIP.Domain.Events

/-!
# Matching a rule of a Hetzner firewall
-/

namespace FluxIP

/-- One rule as `GET /firewalls/{id}` returns it. -/
structure HetznerFirewallRule where
  direction : Direction
  protocol : Protocol
  port : Option String := none
  sourceIps : Option (List String) := none
  destinationIps : Option (List String) := none
  description : Option String := none
  deriving DecidableEq, Repr

structure RuleSelector where
  direction : Direction
  protocol : Protocol
  port : Option String
  description : String
  deriving DecidableEq, Repr

/-- The test `matchFirewallRule` filters by. -/
def RuleSelector.matches (selector : RuleSelector)
    (rule : HetznerFirewallRule) : Bool :=
  rule.direction = selector.direction ∧
    rule.protocol = selector.protocol ∧
    rule.port = selector.port ∧
    rule.description.getD "" = selector.description

inductive MatchFirewallRuleResult where
  | rule (rule : HetznerFirewallRule)
  | noMatch
  | ambiguousMatch (matchCount : Nat)
  deriving DecidableEq, Repr

def matchFirewallRule (rules : List HetznerFirewallRule)
    (selector : RuleSelector) : MatchFirewallRuleResult :=
  match rules.filter selector.matches with
  | [] => .noMatch
  | [rule] => .rule rule
  | first :: second :: rest => .ambiguousMatch (first :: second :: rest).length

/-- The list a rule's direction makes effective: `source_ips` for inbound
rules, `destination_ips` for outbound ones. -/
def HetznerFirewallRule.addresses (rule : HetznerFirewallRule) : List String :=
  match rule.direction with
  | .in => rule.sourceIps.getD []
  | .out => rule.destinationIps.getD []

def HetznerFirewallRule.withAddresses (rule : HetznerFirewallRule)
    (addresses : List String) : HetznerFirewallRule :=
  match rule.direction with
  | .in => { rule with sourceIps := some addresses }
  | .out => { rule with destinationIps := some addresses }

variable {rule : HetznerFirewallRule} {rules : List HetznerFirewallRule}
variable {selector : RuleSelector}

@[simp] theorem addresses_withAddresses (addresses : List String) :
    (rule.withAddresses addresses).addresses = addresses := by
  obtain ⟨direction, protocol, port, source, destination, description⟩ := rule
  cases direction <;> rfl

/-- Replacing the address list does not change which selectors match. -/
@[simp] theorem matches_withAddresses (addresses : List String) :
    selector.matches (rule.withAddresses addresses) =
      selector.matches rule := by
  obtain ⟨direction, protocol, port, source, destination, description⟩ := rule
  cases direction <;> rfl

theorem filter_of_matchFirewallRule
    (matched : matchFirewallRule rules selector = .rule rule) :
    rules.filter selector.matches = [rule] := by
  unfold matchFirewallRule at matched
  split at matched
  · cases matched
  · rename_i found
    cases matched
    exact found
  · cases matched

theorem matchFirewallRule_of_filter
    (only : rules.filter selector.matches = [rule]) :
    matchFirewallRule rules selector = .rule rule := by
  simp only [matchFirewallRule, only]

/-- The matched rule is in the list and is the only one that matches. -/
theorem matchFirewallRule_unique
    (matched : matchFirewallRule rules selector = .rule rule) :
    rule ∈ rules ∧ selector.matches rule = true ∧
      ∀ other ∈ rules, selector.matches other = true → other = rule := by
  have only := filter_of_matchFirewallRule matched
  have here : rule ∈ rules.filter selector.matches := by simp [only]
  refine ⟨(List.mem_filter.mp here).1, (List.mem_filter.mp here).2, ?_⟩
  intro other member otherMatches
  have there : other ∈ rules.filter selector.matches :=
    List.mem_filter.mpr ⟨member, otherMatches⟩
  simpa [only] using there

end FluxIP
