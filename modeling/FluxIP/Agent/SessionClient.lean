import FluxIP.Async.Machine
import FluxIP.Domain.AgentProtocol
import Mathlib.Algebra.Ring.Nat

/-!
# The agent's side of the session protocol

A client keeps one session to the server alive.  Within a session two
goroutines take their steps in any order: the one of `runOnce`, which says
hello, hands what it receives to the handler and sends the reports back, and
the one of its timers.  A move names the step that is taken and how what it
waits for has ended.  Durations are in nanoseconds.
-/

namespace FluxIP

namespace SessionClient

def second : Nat := 1000000000

/-- The highest session protocol version this agent speaks. -/
def ProtocolVersion : Nat := 1

/-- A duration of zero stands for its default. -/
structure Options where
  agentVersion : String
  maxOffline : Nat
  minBackoff : Nat := 0
  maxBackoff : Nat := 0
  authRetry : Nat := 0
  deriving DecidableEq, Repr

def Options.defaults (options : Options) : Options :=
  { options with
    minBackoff :=
      if options.minBackoff = 0 then second else options.minBackoff
    maxBackoff :=
      if options.maxBackoff = 0 then 60 * second else options.maxBackoff
    authRetry :=
      if options.authRetry = 0 then 5 * 60 * second else options.authRetry }

/-- The hello of the agent. -/
def Options.hello (options : Options) : HelloMessage where
  protocolVersion := ProtocolVersion
  agentVersion := options.agentVersion
  maxOfflineSeconds := options.maxOffline / second % 2 ^ 32

/-! ## Errors and waits -/

inductive StatusCode where
  | ok
  | canceled
  | unknown
  | invalidArgument
  | deadlineExceeded
  | notFound
  | alreadyExists
  | permissionDenied
  | resourceExhausted
  | failedPrecondition
  | aborted
  | outOfRange
  | unimplemented
  | internal
  | unavailable
  | dataLoss
  | unauthenticated
  deriving DecidableEq, Repr

/-- An error that is no status has the code `unknown`. -/
structure SessionError where
  code : StatusCode
  message : String
  deriving DecidableEq, Repr

/-- `ctx.Err()` -/
def ctxErr : SessionError := ⟨.unknown, "context canceled"⟩

/-- The loop of `Backoff`. -/
def doubled (max : Nat) : Nat → Nat → Nat
  | 0, d => d
  | attempt + 1, d => if d < max then doubled max attempt (d * 2) else d

/-- `Backoff`, before the jitter. -/
def backoff (attempt min max : Nat) : Nat :=
  let d := doubled max attempt min
  if max < d then max else d

def waitAfter (options : Options) (err : SessionError) (attempt : Nat) : Nat :=
  match err.code with
  | .unauthenticated | .failedPrecondition | .permissionDenied =>
      options.authRetry
  | .resourceExhausted => options.authRetry
  | _ => backoff attempt options.minBackoff options.maxBackoff

/-! ## The handler -/

/-- Receives what happens on the session.  What it makes of a call depends on
its own state and on its surroundings. -/
structure Handler (σ χ : Type) where
  onConnected : σ → HelloMessage → χ → σ
  onSnapshot : σ → SnapshotPayload → χ → Option ReportMessage × σ
  onDisconnected : σ → SessionError → χ → σ

/-- A call that was made, with its result. -/
inductive HandlerCall where
  | onConnected (hello : HelloMessage)
  | onSnapshot (snapshot : SnapshotPayload) (report : Option ReportMessage)
  | onDisconnected (err : SessionError)
  deriving DecidableEq, Repr

/-! ## One session -/

/-- Where `runOnce` stands.  In `connecting`, `applying` and `ending` a call of
the handler is next, in `joining` the end of the timers is awaited. -/
inductive Stage where
  | dialing
  | opening
  | greeting
  | receiving
  | connecting (hello : HelloMessage)
  | applying (snapshot : SnapshotPayload)
  | reporting (report : ReportMessage)
  | ending (err : SessionError)
  | joining (err : SessionError)
  | returned (err : SessionError)
  deriving DecidableEq, Repr

/-- A report is sent if the handler has one. -/
def Stage.after : Option ReportMessage → Stage
  | none => .receiving
  | some report => .reporting report

/-- The goroutine of the timers; `stopped` says that `timerDone` is closed. -/
inductive Timers where
  | idle
  | running (nonce : Nat)
  | stopped
  deriving DecidableEq, Repr

/-- The variables of `runOnce`.  `cancelled` says that its context has ended,
`sent`, `received` and `calls` are what went over the stream and to the handler
so far. -/
structure Session where
  stage : Stage := .dialing
  connected : Bool := false
  heartbeat : Nat := 30 * second
  lastSeen : Timestamp := 0
  cancelled : Bool := false
  timers : Timers := .idle
  sent : List AgentMessage := []
  received : List AgentMessage := []
  calls : List HandlerCall := []
  deriving DecidableEq, Repr

/-- The steps of a session.  An error is absent where the step has succeeded,
the message received is absent where its body is unknown. -/
inductive Move (χ : Type) where
  | dialed (err : Option SessionError)
  | opened (err : Option SessionError)
  | greeted (err : Option SessionError) (now : Timestamp)
  | received (message : Option AgentMessage) (now : Timestamp)
  | broken (err : SessionError) (isCanceled : Bool)
  | handled (surroundings : χ)
  | reported (err : Option SessionError)
  | joined
  | heartbeatTick (now : Timestamp) (delivered : Bool)
  | resyncTick (delivered : Bool)
  | timersStopped

namespace Session

/-- The stream took the message. -/
def send (session : Session) (message : AgentMessage) : Session :=
  { session with sent := session.sent ++ [message] }

/-- An early return, whose deferred calls leave the handler alone. -/
def giveUp (session : Session) (err : SessionError) : Session :=
  { session with
    cancelled := true
    stage := .returned err }

/-- A message in the loop, up to the call it leads to. -/
def receive (session : Session) (message : Option AgentMessage)
    (now : Timestamp) : Session :=
  let seen := { session with
    lastSeen := now
    received := session.received ++ message.toList }
  match message with
  | some (.hello hello) =>
      { seen with
        connected := true
        heartbeat :=
          if 0 < hello.heartbeatSeconds then hello.heartbeatSeconds * second
          else session.heartbeat
        stage := .connecting hello }
  | some (.snapshot snapshot) => { seen with stage := .applying snapshot }
  | some (.bye reason) => { seen with stage := .ending ⟨.aborted, reason⟩ }
  | _ => seen

/-- `timerOnce` lets the goroutine be started once. -/
def startTimers (session : Session) : Session :=
  match session.timers with
  | .idle => { session with timers := .running 0 }
  | _ => session

def record (session : Session) (call : HandlerCall) : Session :=
  { session with calls := session.calls ++ [call] }

/-- The deferred function after its call of the handler: timers that were never
started count as done. -/
def shutDown (session : Session) (err : SessionError) : Session :=
  { session with
    cancelled := true
    timers :=
      match session.timers with
      | .idle => .stopped
      | timers => timers
    stage := .joining err }

variable {σ χ : Type}

/-- The call of the handler that is next, and what follows it. -/
def handle (handler : Handler σ χ) (session : Session) (state : σ)
    (surroundings : χ) : Option (Session × σ) :=
  match session.stage with
  | .connecting hello =>
      some ({ (session.record (.onConnected hello)).startTimers with
          stage := .receiving },
        handler.onConnected state hello surroundings)
  | .applying snapshot =>
      let (report, state) := handler.onSnapshot state snapshot surroundings
      some ({ session.record (.onSnapshot snapshot report) with
          stage := .after report },
        state)
  | .ending err =>
      if session.connected then
        some ((session.record (.onDisconnected err)).shutDown err,
          handler.onDisconnected state err surroundings)
      else some (session.shutDown err, state)
  | _ => none

/-- A tick of the heartbeat: a server that has been silent for too long is
given up, and the goroutine ends. -/
def heartbeatTick (session : Session) (now : Timestamp) (delivered : Bool) :
    Option Session :=
  match session.timers with
  | .running nonce =>
      if 3 * session.heartbeat < now - session.lastSeen then
        some { session with
          cancelled := true
          timers := .stopped }
      else
        let counted := { session with timers := .running (nonce + 1) }
        some (if delivered then counted.send (.heartbeat (nonce + 1))
          else counted)
  | _ => none

def resyncTick (session : Session) (delivered : Bool) : Option Session :=
  match session.timers with
  | .running _ =>
      some (if delivered then session.send .syncRequest else session)
  | _ => none

/-- The timers notice that the context has ended. -/
def timersStopped (session : Session) : Option Session :=
  match session.timers with
  | .running _ =>
      if session.cancelled then some { session with timers := .stopped }
      else none
  | _ => none

/-- The steps that leave the handler alone; `stopped` says that the context of
the client has ended. -/
def advance (options : Options) (stopped : Bool) (session : Session) :
    Move χ → Option Session
  | .dialed err =>
      match session.stage with
      | .dialing => some (match err with
          | none => { session with stage := .opening }
          | some err => session.giveUp err)
      | _ => none
  | .opened err =>
      match session.stage with
      | .opening => some (match err with
          | none => { session with stage := .greeting }
          | some err => session.giveUp err)
      | _ => none
  | .greeted err now =>
      match session.stage with
      | .greeting => some (match err with
          | none =>
              { session.send (.hello options.hello) with
                lastSeen := now
                stage := .receiving }
          | some err => session.giveUp err)
      | _ => none
  | .received message now =>
      match session.stage with
      | .receiving => some (session.receive message now)
      | _ => none
  | .broken err isCanceled =>
      match session.stage with
      | .receiving => some { session with
          stage := .ending (if isCanceled && stopped then ctxErr else err) }
      | _ => none
  | .reported err =>
      match session.stage with
      | .reporting report => some (match err with
          | none => { session.send (.report report) with stage := .receiving }
          | some err => { session with stage := .ending err })
      | _ => none
  | .joined =>
      match session.stage, session.timers with
      | .joining err, .stopped => some { session with stage := .returned err }
      | _, _ => none
  | .heartbeatTick now delivered => session.heartbeatTick now delivered
  | .resyncTick delivered => session.resyncTick delivered
  | .timersStopped => session.timersStopped
  | .handled _ => none

/-- A step of one of the two goroutines. -/
def step (options : Options) (handler : Handler σ χ) (stopped : Bool)
    (session : Session) (state : σ) (move : Move χ) : Option (Session × σ) :=
  match move with
  | .handled surroundings => session.handle handler state surroundings
  | move => (session.advance options stopped move).map (·, state)

end Session

/-! ## The client -/

/-- Where `Run` stands. -/
inductive Phase where
  | running (session : Session)
  | waiting (wait : Nat)
  | returned
  deriving DecidableEq, Repr

/-- `state` is the state of the handler, `stopped` says that the context of
`Run` has ended, `ended` are the sessions that are over, oldest first. -/
structure Client (σ : Type) where
  state : σ
  phase : Phase := .running {}
  attempt : Nat := 0
  stopped : Bool := false
  ended : List Session := []

inductive ClientMove (χ : Type) where
  | session (move : Move χ)
  | sessionOver
  | woken
  | stop
  | done

namespace Client

variable {σ χ : Type}

/-- `Run` begins. -/
def create (state : σ) : Client σ := { state }

/-- What `Run` does after a session that has returned. -/
def sessionOver (options : Options) (client : Client σ) (session : Session)
    (err : SessionError) : Client σ :=
  let finished := { client with ended := client.ended ++ [session] }
  if client.stopped then { finished with phase := .returned }
  else
    let attempt := if session.connected then 0 else client.attempt
    { finished with
      phase := .waiting (waitAfter options err attempt)
      attempt := attempt + 1 }

/-- `Run`: connect and reconnect until the context ends. -/
def step (options : Options) (handler : Handler σ χ) (client : Client σ) :
    ClientMove χ → Option (Client σ)
  | .session move =>
      match client.phase with
      | .running session =>
          (session.step options handler client.stopped client.state move).map
            fun next => { client with
              phase := .running next.1
              state := next.2 }
      | _ => none
  | .sessionOver =>
      match client.phase with
      | .running session =>
          match session.stage with
          | .returned err => some (client.sessionOver options session err)
          | _ => none
      | _ => none
  | .woken =>
      match client.phase with
      | .waiting _ => some { client with
          phase := .running { cancelled := client.stopped } }
      | _ => none
  | .stop => some { client with
      stopped := true
      phase :=
        match client.phase with
        | .running session => .running { session with cancelled := true }
        | phase => phase }
  | .done =>
      match client.phase with
      | .waiting _ =>
          if client.stopped then some { client with phase := .returned }
          else none
      | _ => none

/-- All sessions so far, oldest first. -/
def sessions (client : Client σ) : List Session :=
  match client.phase with
  | .running session => client.ended ++ [session]
  | _ => client.ended

end Client

end SessionClient

end FluxIP
