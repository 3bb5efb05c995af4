import FluxIP.Agent.Agent
import FluxIP.Agent.SessionClient

/-!
# The agent process

The session client with the agent as its handler, and what runs beside it: the
ticks of the offline timer and the reloads of the templates.  The agent's mutex
makes one step of each call.
-/

namespace FluxIP

open SessionClient

/-- What a call of the agent finds: the clock, how writing the files ends, and
the checker. -/
structure Surroundings where
  now : Timestamp
  applied : ApplyResult
  check : Option (List String → TraefikCheckResult)

/-- The agent implements the handler of a session. -/
def Agent.handler : Handler Agent Surroundings where
  onConnected agent _ _ := agent.onConnected
  onSnapshot agent snapshot surroundings :=
    let (report, agent) := agent.onSnapshot snapshot surroundings.now
      surroundings.applied surroundings.check
    (some report, agent)
  onDisconnected agent _ surroundings := agent.onDisconnected surroundings.now

/-- `clock` is what was last read from the clock. -/
structure RunningAgent where
  client : Client Agent
  clock : Timestamp

inductive AgentMove where
  | client (move : ClientMove Surroundings)
  | tick (now : Timestamp) (applied : ApplyResult)
  | reload (now : Timestamp) (loaded : Except String (List AgentTemplate))

/-- What a step reads from the clock. -/
def AgentMove.reads : AgentMove → Option Timestamp
  | .client (.session (.greeted _ now)) => some now
  | .client (.session (.received _ now)) => some now
  | .client (.session (.handled surroundings)) => some surroundings.now
  | .client (.session (.heartbeatTick now _)) => some now
  | .client _ => none
  | .tick now _ => some now
  | .reload now _ => some now

namespace RunningAgent

/-- `runAgent`, once the agent has started with these templates. -/
def create (version : String) (maxOffline : Nat)
    (templates : List AgentTemplate) (now : Timestamp) : RunningAgent where
  client := .create { Agent.create version maxOffline now with templates }
  clock := now

def agent (process : RunningAgent) : Agent := process.client.state

def withAgent (process : RunningAgent) (agent : Agent) (clock : Timestamp) :
    RunningAgent where
  client := { process.client with state := agent }
  clock

/-- The clock is monotonic. -/
def step (options : Options) (process : RunningAgent) (move : AgentMove) :
    Option RunningAgent :=
  let clock := move.reads.getD process.clock
  if clock < process.clock then none
  else
    match move with
    | .client move =>
        (process.client.step options Agent.handler move).map
          fun client => { client, clock }
    | .tick now applied =>
        some (process.withAgent (process.agent.tick now applied).2 clock)
    | .reload now loaded =>
        some (process.withAgent (process.agent.reload now loaded).2 clock)

end RunningAgent

end FluxIP
