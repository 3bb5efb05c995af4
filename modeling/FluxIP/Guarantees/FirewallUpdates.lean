import FluxIP.Adapters.HetznerFirewall
import FluxIP.Async.Traces
import Mathlib.Data.List.Induction

/-!
# What an update of a firewall rule changes

One call replaces all rules of a firewall, so an update has to write back
everything it has not been asked to change.  It writes at most once, after
nothing has failed, and gives back the lock it was granted.
-/

namespace FluxIP

open Async

namespace FirewallUpdates

/-! ## The address list -/

variable {current kept entries : List String} {remove add : FamilyValues}

/-- What is not there is pushed, each value once. -/
theorem foldl_pushNew :
    entries.foldl pushNew kept =
      kept ++ entries.eraseDups.filter (· ∉ kept) := by
  induction entries using List.reverseRecOn with
  | nil => simp
  | append_singleton entries cidr induction =>
      rw [List.foldl_append, List.foldl_cons, List.foldl_nil, induction,
        List.eraseDups_append, List.filter_append, pushNew]
      by_cases isKept : cidr ∈ kept
      · simp [isKept, List.removeAll]
      · by_cases isPushed : cidr ∈ entries
        · simp [isKept, isPushed, List.removeAll]
        · simp [isKept, isPushed, List.removeAll, List.eraseDups_cons]

/-- The values an update appends. -/
def appended (kept : List String) (add : FamilyValues) : List String :=
  add.entries.eraseDups.filter (· ∉ kept)

/-- The entries an update keeps. -/
def spared (current : List String) (remove : FamilyValues) : List String :=
  current.filter (· ∉ remove.entries)

theorem nextList_eq :
    nextList current remove add =
      spared current remove ++ appended (spared current remove) add :=
  foldl_pushNew

theorem spared_spared :
    spared (spared current remove) remove = spared current remove := by
  simp [spared]

theorem spared_appended :
    spared (nextList current remove add) remove =
      spared current remove ++
        spared (appended (spared current remove) add) remove := by
  rw [nextList_eq]
  unfold spared
  rw [List.filter_append, List.filter_filter]
  simp only [Bool.and_self]

/-- What was removed of the appended values is appended again. -/
theorem appended_again :
    appended (spared (nextList current remove add) remove) add =
      (appended (spared current remove) add).filter (· ∈ remove.entries) := by
  rw [spared_appended]
  unfold appended
  rw [List.filter_filter]
  apply List.filter_congr
  intro cidr isAdded
  by_cases isKept : cidr ∈ spared current remove
  · simp [isKept]
  · by_cases isRemoved : cidr ∈ remove.entries
    · simp [isRemoved, spared]
    · simp [isRemoved, spared, isAdded]

/-- A second update moves to the end what is both removed and added. -/
theorem nextList_again :
    (nextList (nextList current remove add) remove add).Perm
      (nextList current remove add) := by
  rw [@nextList_eq (nextList current remove add), appended_again,
    spared_appended, List.append_assoc, nextList_eq]
  apply List.Perm.append_left
  have parts := List.filter_append_perm (· ∉ remove.entries)
    (appended (spared current remove) add)
  simpa [spared] using parts

/-! ## The rules -/

variable {rules written again : List HetznerFirewallRule}
variable {rule other : HetznerFirewallRule} {selector : RuleSelector}

/-- One rule is matched, and it stands between these. -/
structure MatchedBetween (selector : RuleSelector)
    (before : List HetznerFirewallRule) (rule : HetznerFirewallRule)
    (after : List HetznerFirewallRule) : Prop where
  here : selector.matches rule = true
  before : ∀ other ∈ before, selector.matches other = false
  after : ∀ other ∈ after, selector.matches other = false

/-- The rules as read, but for the address list of the one that is matched:
what is to be removed goes, what is to be added and not there follows. -/
def IsUpdated (selector : RuleSelector) (remove add : FamilyValues)
    (rules written : List HetznerFirewallRule) : Prop :=
  ∃ before rule after, rules = before ++ rule :: after ∧
    MatchedBetween selector before rule after ∧
    written = before ++ rule.withAddresses
      (spared rule.addresses remove ++
        appended (spared rule.addresses remove) add) :: after

/-- The same rules, but for the order of one address list. -/
def IsRearranged (written again : List HetznerFirewallRule) : Prop :=
  ∃ before rule after addresses, written = before ++ rule :: after ∧
    again = before ++ rule.withAddresses addresses :: after ∧
    addresses.Perm rule.addresses

/-- Exactly one rule is matched. -/
theorem filter_matches_iff :
    rules.filter selector.matches = [rule] ↔
      ∃ before after, rules = before ++ rule :: after ∧
        MatchedBetween selector before rule after := by
  constructor
  · intro only
    obtain ⟨before, after, split, unmatchedBefore, here, unmatchedAfter⟩ :=
      List.filter_eq_cons_iff.mp only
    refine ⟨before, after, split, here, ?_, ?_⟩
    · intro other member
      simpa using unmatchedBefore other member
    · intro other member
      simpa using List.filter_eq_nil_iff.mp unmatchedAfter other member
  · intro split
    obtain ⟨before, after, rfl, matched⟩ := split
    rw [List.filter_append, List.filter_cons_of_pos matched.here,
      List.filter_eq_nil_iff.mpr (by simpa using matched.before),
      List.filter_eq_nil_iff.mpr (by simpa using matched.after)]
    rfl

/-- The rewriting touches the matched rule alone. -/
theorem updatedRules_isUpdated
    (matched : matchFirewallRule rules selector = .rule rule) :
    IsUpdated selector remove add rules
      (updatedRules rules rule remove add) := by
  obtain ⟨before, after, split, between⟩ :=
    filter_matches_iff.mp (filter_of_matchFirewallRule matched)
  have others : ∀ others : List HetznerFirewallRule,
      (∀ other ∈ others, selector.matches other = false) →
      updatedRules others rule remove add = others := by
    intro others unmatched
    refine (List.map_congr_left ?_).trans (List.map_id' others)
    intro other member
    apply if_neg
    intro same
    have impossible := unmatched other member
    rw [same, between.here] at impossible
    cases impossible
  have rewritten : updatedRules (rule :: after) rule remove add =
      rule.withAddresses (nextList rule.addresses remove add) ::
        updatedRules after rule remove add := by
    simp [updatedRules]
  refine ⟨before, rule, after, split, between, ?_⟩
  calc updatedRules rules rule remove add
    _ = updatedRules before rule remove add ++
        updatedRules (rule :: after) rule remove add := by
      rw [split]
      exact List.map_append
    _ = _ := by
      rw [rewritten, others before between.before, others after between.after,
        nextList_eq]

variable {before before' after after' : List HetznerFirewallRule}

/-- The matched rule has one place. -/
theorem MatchedBetween.unique
    (first : MatchedBetween selector before rule after)
    (second : MatchedBetween selector before' other after')
    (same : before ++ rule :: after = before' ++ other :: after') :
    before = before' ∧ rule = other ∧ after = after' := by
  induction before generalizing before' with
  | nil =>
      cases before' with
      | nil =>
          cases same
          exact ⟨rfl, rfl, rfl⟩
      | cons next before' =>
          cases same
          have impossible := second.before rule List.mem_cons_self
          rw [first.here] at impossible
          cases impossible
  | cons next before induction =>
      cases before' with
      | nil =>
          cases same
          have impossible := first.before other List.mem_cons_self
          rw [second.here] at impossible
          cases impossible
      | cons next' before' =>
          obtain ⟨sameFirst, sameRest⟩ := List.cons.inj same
          obtain ⟨unmatched, laterBefore⟩ :=
            List.forall_mem_cons.mp first.before
          obtain ⟨unmatched', laterBefore'⟩ :=
            List.forall_mem_cons.mp second.before
          obtain ⟨sameBefore, sameRule, sameAfter⟩ := induction
            ⟨first.here, laterBefore, first.after⟩
            ⟨second.here, laterBefore', second.after⟩ sameRest
          exact ⟨by rw [sameFirst, sameBefore], sameRule, sameAfter⟩

/-- The rule that was rewritten is matched as before. -/
theorem MatchedBetween.rewritten
    (between : MatchedBetween selector before rule after)
    (addresses : List String) :
    MatchedBetween selector before (rule.withAddresses addresses) after where
  here := by
    rw [matches_withAddresses]
    exact between.here
  before := between.before
  after := between.after

/-- The update can be repeated, and that rearranges one list at most. -/
theorem IsUpdated.repeats
    (updated : IsUpdated selector remove add rules written) :
    (∃ rule, written.filter selector.matches = [rule]) ∧
    ∀ again, IsUpdated selector remove add written again →
      IsRearranged written again := by
  obtain ⟨before, rule, after, -, between, rfl⟩ := updated
  rw [← nextList_eq]
  constructor
  · exact ⟨_, filter_matches_iff.mpr
      ⟨before, after, rfl, between.rewritten _⟩⟩
  · intro again repeated
    obtain ⟨before', other, after', same, between', rfl⟩ := repeated
    obtain ⟨rfl, rfl, rfl⟩ := (between.rewritten _).unique between' same
    refine ⟨before, _, after, _, rfl, rfl, ?_⟩
    rw [← nextList_eq, addresses_withAddresses]
    exact nextList_again

/-! ## What an update may call -/

variable {config : HetznerFirewallResolvedConfig}
variable {history start : BackendHistory} {lock : FirewallLockHandle}

/-- The call has not thrown. -/
def succeeds (answered : Answered backend Err) : Bool :=
  answered.answer.toOption.isSome

/-- The rules of a firewall are replaced. -/
def isWrite : Call → Bool
  | .hetzner (.setFirewallRules _ _ _) => true
  | _ => false

/-- The rules of the firewall are read. -/
def rulesRead (config : HetznerFirewallResolvedConfig)
    (rules : List HetznerFirewallRule) : Answered backend Err :=
  @Answered.mk backend Err
    (.hetzner (.getFirewall config.apiToken config.firewallId)) (.ok rules)

/-- The lock is granted under this token. -/
def Grants (key : LockKey) (token : Id) (answered : Answered backend Err) :
    Prop :=
  ∃ ttlMs, answered =
    @Answered.mk backend Err (.redis (.set key token ttlMs)) (.ok true)

/-- An update writes once, after nothing has failed, what it makes of the rules
it has just read. -/
def MayWrite (config : HetznerFirewallResolvedConfig)
    (remove add : FamilyValues) (history : BackendHistory) (call : Call) :
    Prop :=
  isWrite call = true →
    (∀ answered ∈ history,
      succeeds answered = true ∧ isWrite answered.call = false) ∧
    ∃ rules written, history.getLast? = some (rulesRead config rules) ∧
      call = .hetzner
        (.setFirewallRules config.apiToken config.firewallId written) ∧
      IsUpdated config.selector remove add rules written

/-- How an update ends: it has written if one rule was matched, it has thrown
if not or if a call has, and it has given back the lock it was granted. -/
structure UpdateEnds (config : HetznerFirewallResolvedConfig)
    (history : BackendHistory) (result : Except Err Unit) : Prop where
  matched : ∀ rules rule, rulesRead config rules ∈ history →
    rules.filter config.selector.matches = [rule] →
    ∃ answered ∈ history, isWrite answered.call = true
  unmatched : ∀ rules, rulesRead config rules ∈ history →
    (∀ rule, rules.filter config.selector.matches ≠ [rule]) →
    (∃ error, result = .error error) ∧
    ∀ answered ∈ history, isWrite answered.call = false
  fails : (∃ answered ∈ history, succeeds answered = false) →
    ∃ error, result = .error error
  releases : ∀ key token, (∃ answered ∈ history, Grants key token answered) →
    ∃ answer, history.getLast? = some (@Answered.mk backend Err
      (.redis (.compareAndDelete key token)) answer)

/-! ## Acquiring the lock -/

/-- The calls that are made until the lock is granted. -/
def isAcquiring : Call → Bool
  | .redis (.set _ _ _) => true
  | .clock _ => true
  | _ => false

/-- The lock has not been granted. -/
structure Ungranted (history : BackendHistory) : Prop where
  calls : ∀ answered ∈ history, isAcquiring answered.call = true
  grants : ∀ answered ∈ history, ∀ key token, ¬ Grants key token answered

/-- The lock has been granted, and nothing has failed. -/
structure Holding (lock : FirewallLockHandle) (history : BackendHistory) :
    Prop where
  calls : ∀ answered ∈ history, isAcquiring answered.call = true
  answers : ∀ answered ∈ history, succeeds answered = true
  grants : ∀ answered ∈ history, ∀ key token, Grants key token answered →
    key = lock.key ∧ token = lock.token

/-- How the acquisition ends. -/
def Acquired (history : BackendHistory) :
    Except Err FirewallLockHandle → Prop
  | .ok lock => Holding lock history
  | .error _ => Ungranted history

/-- A step of the acquisition that neither fails nor is granted. -/
structure Waits (history : BackendHistory) : Prop extends
    Ungranted history where
  answers : ∀ answered ∈ history, succeeds answered = true

/-- The call is one of the acquisition and does not grant the lock. -/
structure Idle (answered : Answered backend Err) : Prop where
  call : isAcquiring answered.call = true
  grants : ∀ key token, ¬ Grants key token answered

theorem Ungranted.concat {answered : Answered backend Err}
    (ungranted : Ungranted history) (idle : Idle answered) :
    Ungranted (history ++ [answered]) where
  calls := List.forall_mem_append.mpr
    ⟨ungranted.calls, List.forall_mem_singleton.mpr idle.call⟩
  grants := List.forall_mem_append.mpr
    ⟨ungranted.grants, List.forall_mem_singleton.mpr idle.grants⟩

theorem Waits.concat {answered : Answered backend Err}
    (waits : Waits history) (idle : Idle answered)
    (isAnswered : succeeds answered = true) :
    Waits (history ++ [answered]) where
  toUngranted := waits.toUngranted.concat idle
  answers := List.forall_mem_append.mpr
    ⟨waits.answers, List.forall_mem_singleton.mpr isAnswered⟩

/-- Only one kind of call can be granted the lock. -/
theorem not_grants {answered : Answered backend Err}
    (other : ∀ key token ttlMs, answered.call ≠ .redis (.set key token ttlMs))
    (key : LockKey) (token : Id) : ¬ Grants key token answered := by
  intro grants
  obtain ⟨ttlMs, rfl⟩ := grants
  exact other key token ttlMs rfl

theorem idle_clock (call : ClockCall) (answer : Except Err call.Answer) :
    Idle (@Answered.mk backend Err (.clock call) answer) :=
  ⟨rfl, not_grants nofun⟩

theorem idle_refused (key : LockKey) (token : Id) (ttlMs : Nat)
    {answer : Except Err Bool} (refused : answer ≠ .ok true) :
    Idle (@Answered.mk backend Err (.redis (.set key token ttlMs))
      answer) where
  call := rfl
  grants := by
    intro key' token' grants
    obtain ⟨ttlMs', same⟩ := grants
    cases same
    exact refused rfl

/-- Until the lock is granted nothing is written. -/
theorem mayWrite_of_acquiring {call : Call}
    (acquires : isAcquiring call = true) :
    MayWrite config remove add history call := by
  intro writes
  cases call with
  | hetzner call => cases acquires
  | _ => cases writes

theorem acquireLoop_traces {key : LockKey} {token : Id}
    {deadline : Timestamp} {passes : Nat} (waits : Waits history) :
    (acquireLoop key token deadline passes).Traces
      (MayWrite config remove add) Acquired history := by
  induction passes generalizing history with
  | zero => exact waits.toUngranted
  | succ passes induction =>
      apply Program.Traces.performing (mayWrite_of_acquiring rfl)
      · intro acquired
        cases acquired with
        | true =>
            constructor
            · exact List.forall_mem_append.mpr
                ⟨waits.calls, List.forall_mem_singleton.mpr rfl⟩
            · exact List.forall_mem_append.mpr
                ⟨waits.answers, List.forall_mem_singleton.mpr rfl⟩
            · refine List.forall_mem_append.mpr
                ⟨?_, List.forall_mem_singleton.mpr ?_⟩
              · intro answered member key token grants
                exact absurd grants (waits.grants answered member key token)
              · intro key' token' grants
                obtain ⟨ttlMs, same⟩ := grants
                cases same
                exact ⟨rfl, rfl⟩
        | false =>
            have notGranted :
                (Except.ok false : Except Err Bool) ≠ .ok true := by decide
            have refused := waits.concat (idle_refused key token
              DEFAULT_TTL_MS notGranted) rfl
            apply Program.Traces.performing (mayWrite_of_acquiring rfl)
            · intro now
              have read := refused.concat (idle_clock .dateNow (.ok now)) rfl
              by_cases late : deadline ≤ now
              · simp only [late, if_true]
                exact read.toUngranted
              · simp only [late, if_false]
                apply Program.Traces.performing (mayWrite_of_acquiring rfl)
                · intro _
                  exact induction (read.concat (idle_clock _ _) rfl)
                · intro error
                  exact read.toUngranted.concat (idle_clock _ _)
            · intro error
              exact refused.toUngranted.concat (idle_clock _ _)
      · intro error
        exact waits.toUngranted.concat (idle_refused _ _ _ nofun)

theorem acquire_traces {accountId : Id} {firewallId : Nat} :
    (acquireFirewallLock accountId firewallId).Traces
      (MayWrite config remove add) Acquired [] := by
  have begins : Waits [] :=
    ⟨⟨List.forall_mem_nil _, List.forall_mem_nil _⟩, List.forall_mem_nil _⟩
  unfold acquireFirewallLock
  generalize DEFAULT_MAX_WAIT_MS / RETRY_DELAY_MS + 1 = passes
  apply Program.Traces.performing (mayWrite_of_acquiring rfl)
  · intro token
    have drawn := begins.concat (idle_clock .randomUUID (.ok token)) rfl
    apply Program.Traces.performing (mayWrite_of_acquiring rfl)
    · intro now
      have read := drawn.concat (idle_clock .dateNow (.ok now)) rfl
      exact acquireLoop_traces read
    · intro error
      exact drawn.toUngranted.concat (idle_clock _ _)
  · intro error
    exact begins.toUngranted.concat (idle_clock _ _)

/-! ## Under the lock -/

/-- What has been called under the lock, and how it has ended. -/
inductive Rewritten (config : HetznerFirewallResolvedConfig)
    (start : BackendHistory) : BackendHistory → Except Err Unit → Prop where
  | unread {error} :
      Rewritten config start (start ++ [@Answered.mk backend Err
        (.hetzner (.getFirewall config.apiToken config.firewallId))
        (.error error)]) (.error error)
  | unmatched {rules error} :
      (∀ rule, rules.filter config.selector.matches ≠ [rule]) →
      Rewritten config start (start ++ [rulesRead config rules])
        (.error error)
  | written {rules rule written answer} :
      rules.filter config.selector.matches = [rule] →
      Rewritten config start (start ++ [rulesRead config rules] ++
        [@Answered.mk backend Err (.hetzner
          (.setFirewallRules config.apiToken config.firewallId written))
          answer]) answer

theorem isWrite_of_acquiring {call : Call}
    (acquires : isAcquiring call = true) :
    isWrite call = false := by
  cases call with
  | hetzner call => cases acquires
  | _ => rfl

/-- Rules of which not exactly one is matched. -/
theorem unmatched_of {matched : MatchFirewallRuleResult}
    (found : matchFirewallRule rules selector = matched)
    (notRule : ∀ rule, matched ≠ .rule rule) (rule : HetznerFirewallRule) :
    rules.filter selector.matches ≠ [rule] := by
  intro only
  exact notRule rule (found.symm.trans (matchFirewallRule_of_filter only))

theorem rewrite_traces (holding : Holding lock history) :
    (rewriteFirewallRule config remove add).Traces
      (MayWrite config remove add) (Rewritten config history) history := by
  apply Program.Traces.performing nofun
  · intro rules
    cases matched : matchFirewallRule rules config.selector with
    | noMatch =>
        exact Rewritten.unmatched (unmatched_of matched nofun)
    | ambiguousMatch matchCount =>
        exact Rewritten.unmatched (unmatched_of matched nofun)
    | rule rule =>
        apply Program.Traces.perform (S := backend)
        · intro _
          refine ⟨?_, rules, _, List.getLast?_concat, rfl,
            updatedRules_isUpdated matched⟩
          refine List.forall_mem_append.mpr
            ⟨?_, List.forall_mem_singleton.mpr ⟨rfl, rfl⟩⟩
          intro answered member
          exact ⟨holding.answers answered member,
            isWrite_of_acquiring (holding.calls answered member)⟩
        · intro answer
          exact Rewritten.written (filter_of_matchFirewallRule matched)
  · intro error
    exact .unread

/-! ## The end of an update -/

variable {tail : BackendHistory} {result released : Except Err Unit}

/-- The lock is given back. -/
def release (lock : FirewallLockHandle) (released : Except Err Unit) :
    Answered backend Err :=
  @Answered.mk backend Err (.redis (.compareAndDelete lock.key lock.token))
    released

theorem not_read_of_acquiring {answered : Answered backend Err}
    (acquires : isAcquiring answered.call = true) :
    answered ≠ rulesRead config rules := by
  intro same
  rw [same] at acquires
  cases acquires

/-- What is called after the lock was granted decides how the update ends. -/
theorem Holding.ends (holding : Holding lock start)
    (reads : ∀ rules, rulesRead config rules ∈ tail →
      (∃ rule, rules.filter config.selector.matches = [rule] ∧
        ∃ answered ∈ tail, isWrite answered.call = true) ∨
      ((∀ rule, rules.filter config.selector.matches ≠ [rule]) ∧
        (∃ error, result = .error error) ∧
        ∀ answered ∈ tail, isWrite answered.call = false))
    (fails : (∃ answered ∈ tail, succeeds answered = false) →
      ∃ error, result = .error error)
    (grants : ∀ answered ∈ tail, ∀ key token, ¬ Grants key token answered)
    (last : tail.getLast? = some (release lock released)) :
    UpdateEnds config (start ++ tail) result := by
  have inTail : ∀ rules, rulesRead config rules ∈ start ++ tail →
      rulesRead config rules ∈ tail := by
    intro rules member
    rcases List.mem_append.mp member with earlier | later
    · exact absurd rfl (not_read_of_acquiring (holding.calls _ earlier))
    · exact later
  constructor
  · intro rules rule member only
    rcases reads rules (inTail rules member) with one | none
    · obtain ⟨-, -, answered, isTail, writes⟩ := one
      exact ⟨answered, List.mem_append_right _ isTail, writes⟩
    · exact absurd only (none.1 rule)
  · intro rules member unmatched
    rcases reads rules (inTail rules member) with one | none
    · obtain ⟨rule, only, -⟩ := one
      exact absurd only (unmatched rule)
    · refine ⟨none.2.1, List.forall_mem_append.mpr ⟨?_, none.2.2⟩⟩
      intro answered earlier
      exact isWrite_of_acquiring (holding.calls answered earlier)
  · intro failed
    obtain ⟨answered, member, isFailed⟩ := failed
    rcases List.mem_append.mp member with earlier | later
    · rw [holding.answers answered earlier] at isFailed
      cases isFailed
    · exact fails ⟨answered, later, isFailed⟩
  · intro key token granted
    obtain ⟨answered, member, isGrant⟩ := granted
    rcases List.mem_append.mp member with earlier | later
    · obtain ⟨rfl, rfl⟩ := holding.grants answered earlier key token isGrant
      refine ⟨released, ?_⟩
      rw [List.getLast?_append, last]
      rfl
    · exact absurd isGrant (grants answered later key token)

/-- An exception of the release replaces the outcome. -/
theorem failed_of_release (failed : released.toOption.isSome = false) :
    ∃ error, (released.bind fun _ => result) = .error error := by
  cases released with
  | ok value => cases failed
  | error error => exact ⟨error, rfl⟩

theorem failed_of_result {error : Err} (isError : result = .error error) :
    ∃ error, (released.bind fun _ => result) = .error error := by
  subst isError
  cases released with
  | ok value => exact ⟨error, rfl⟩
  | error other => exact ⟨other, rfl⟩

theorem release_not_read : release lock released ≠ rulesRead config rules := by
  intro same
  cases same

theorem release_not_grants (key : LockKey) (token : Id) :
    ¬ Grants key token (release lock released) := by
  apply not_grants
  intro key token ttlMs same
  cases same

/-- What an update has called once it has given back its lock. -/
theorem Rewritten.ends (released : Except Err Unit)
    (rewritten : Rewritten config start history result)
    (holding : Holding lock start) :
    UpdateEnds config (history ++ [release lock released])
      (released.bind fun _ => result) := by
  cases rewritten with
  | unread =>
      rw [List.append_assoc]
      refine holding.ends ?_ (fun _ => failed_of_result rfl) ?_ rfl
      · intro rules member
        rcases List.mem_pair.mp member with here | there
        · cases here
        · exact absurd there.symm release_not_read
      · exact List.forall_mem_cons.mpr ⟨not_grants nofun,
          List.forall_mem_singleton.mpr release_not_grants⟩
  | @unmatched rules error unmatched =>
      rw [List.append_assoc]
      refine holding.ends ?_ (fun _ => failed_of_result rfl) ?_ rfl
      · intro others member
        rcases List.mem_pair.mp member with here | there
        · cases here
          exact .inr ⟨unmatched, failed_of_result rfl,
            List.forall_mem_cons.mpr
              ⟨rfl, List.forall_mem_singleton.mpr rfl⟩⟩
        · exact absurd there.symm release_not_read
      · exact List.forall_mem_cons.mpr ⟨not_grants nofun,
          List.forall_mem_singleton.mpr release_not_grants⟩
  | @written rules rule written answer only =>
      rw [List.append_assoc, List.append_assoc]
      refine holding.ends ?_ ?_ ?_ rfl
      · intro others member
        rcases List.mem_cons.mp member with here | later
        · cases here
          exact .inl ⟨rule, only, _, List.mem_cons_of_mem _ List.mem_cons_self,
            rfl⟩
        · rcases List.mem_pair.mp later with here | there
          · cases here
          · exact absurd there.symm release_not_read
      · intro failed
        obtain ⟨answered, member, isFailed⟩ := failed
        rcases List.mem_cons.mp member with here | later
        · subst here
          cases isFailed
        · rcases List.mem_pair.mp later with here | there
          · subst here
            cases result with
            | ok value => cases isFailed
            | error error => exact failed_of_result rfl
          · subst there
            exact failed_of_release isFailed
      · refine List.forall_mem_cons.mpr ⟨not_grants nofun, ?_⟩
        exact List.forall_mem_cons.mpr ⟨not_grants nofun,
          List.forall_mem_singleton.mpr release_not_grants⟩

theorem Ungranted.ends (ungranted : Ungranted history) (error : Err) :
    UpdateEnds config history (.error error) := by
  constructor
  · intro rules rule member _
    exact absurd rfl (not_read_of_acquiring (ungranted.calls _ member))
  · intro rules member _
    exact absurd rfl (not_read_of_acquiring (ungranted.calls _ member))
  · exact fun _ => ⟨error, rfl⟩
  · intro key token granted
    obtain ⟨answered, member, isGrant⟩ := granted
    exact absurd isGrant (ungranted.grants answered member key token)

theorem update_traces :
    (applyFirewallRuleUpdate config remove add).Traces
      (MayWrite config remove add) (UpdateEnds config) [] := by
  apply acquire_traces.bind
  · intro history lock acquired
    apply (rewrite_traces acquired).attempted.bind
    · intro later outcome ends
      obtain ⟨result, same, rewritten⟩ := ends
      cases same
      apply Program.Traces.performing nofun
      · intro released
        have ends := rewritten.ends (.ok released) acquired
        cases outcome with
        | ok value => exact ends
        | error error => exact ends
      · intro error
        exact rewritten.ends (.error error) acquired
    · intro later error ends
      obtain ⟨result, same, -⟩ := ends
      cases same
  · intro history error acquired
    exact Ungranted.ends acquired error

end FirewallUpdates

open FirewallUpdates

/-- SSH from two addresses, the second of which is the device's. -/
def exampleRule : HetznerFirewallRule where
  direction := .in
  protocol := .tcp
  port := some "22"
  sourceIps := some ["192.0.2.1/32", "198.51.100.7/32"]
  description := some "ssh"

def exampleUpdate : HetznerFirewallResolvedConfig where
  apiToken := "token"
  accountId := 1
  firewallId := 9
  direction := .in
  protocol := .tcp
  port := some "22"
  description := "ssh"
  previousEntries := ⟨some "198.51.100.7/32", none⟩

/-- The rules of a firewall, one of which is matched. -/
def exampleRules : List HetznerFirewallRule :=
  [{ direction := .out, protocol := .udp }, exampleRule]

end FluxIP
