import FluxIP.Async.Promises

/-!
# The keyed mutex

`run` puts a function behind the tail of its key by a chain of promises.  The
promises of a run are named after it: the resolved one it may start from, its
`next`, its `tail`, and the one its function returns.  `undefined` is `none`.
-/

namespace FluxIP

open Async

inductive MutexPromise where
  | resolved (run : Nat)
  | next (run : Nat)
  | tail (run : Nat)
  | returned (run : Nat)
  deriving DecidableEq, Repr

/-- `fn` starts the function of a run, `swallow` is `() => undefined` of its
tail, `resume` goes on after its `await next`. -/
inductive MutexHandler where
  | fn (run : Nat)
  | swallow (run : Nat)
  | resume (run : Nat)
  deriving DecidableEq, Repr

/-- A call of `run`: its local variables, what its function has done when it was
called, and how the call has ended. -/
structure MutexRun (κ ε α : Type) where
  key : κ
  previous : MutexPromise
  called : Option (Except ε Unit) := none
  result : Option (Except ε (Option α)) := none

abbrev MutexPromises (ε α : Type) :=
  Promises MutexPromise MutexHandler ε (Option α)

/-- The map of the tails, with the process around it.  `started` is the order in
which functions were called. -/
structure KeyedMutexState (κ ε α : Type) where
  promises : MutexPromises ε α := {}
  tails : κ → Option MutexPromise := fun _ => none
  runs : Nat → Option (MutexRun κ ε α) := fun _ => none
  calls : Nat := 0
  started : List Nat := []

namespace KeyedMutexState

variable {κ ε α : Type} [DecidableEq κ]

/-- `this.tails.get(key) ?? Promise.resolve()` -/
def previous (mutex : KeyedMutexState κ ε α) (key : κ) :
    MutexPromise × MutexPromises ε α :=
  match mutex.tails key with
  | some tail => (tail, mutex.promises)
  | none => (.resolved mutex.calls,
      mutex.promises.settle (.resolved mutex.calls) (.ok none))

/-- `run` up to its `await next`. -/
def run (mutex : KeyedMutexState κ ε α) (key : κ) : KeyedMutexState κ ε α :=
  let index := mutex.calls
  let (previous, promises) := mutex.previous key
  -- `const next = previous.then(fn, fn)`
  let promises := promises.react previous (.call (.fn index))
  -- `const tail = next.catch(() => undefined)`
  let promises := promises.react (.next index) (.call (.swallow index))
  -- `await next`
  let promises := promises.react (.next index) (.call (.resume index))
  { mutex with
    promises
    tails := Function.update mutex.tails key (some (.tail index))
    runs := Function.update mutex.runs index (some { key, previous })
    calls := index + 1 }

def setCalled (mutex : KeyedMutexState κ ε α) (index : Nat)
    (called : Except ε Unit) : KeyedMutexState κ ε α :=
  { mutex with
    runs := Function.update mutex.runs index
      ((mutex.runs index).map ({ · with called := some called })) }

/-- The function of a run is called: it may call `run` itself, and then throws
or returns a promise. -/
def callFn (mutex : KeyedMutexState κ ε α) (index : Nat) (nested : List κ)
    (called : Except ε Unit) : KeyedMutexState κ ε α :=
  let mutex := nested.foldl run
    { mutex with started := mutex.started ++ [index] }
  let promises := match called with
    | .ok _ => mutex.promises.enqueue (.adopt (.next index) (.returned index))
    | .error error => mutex.promises.settle (.next index) (.error error)
  { mutex with promises }.setCalled index called

/-- The `finally` block, and the end of the call. -/
def finish (mutex : KeyedMutexState κ ε α) (index : Nat)
    (result : Except ε (Option α)) : KeyedMutexState κ ε α :=
  match mutex.runs index with
  | some run =>
      { mutex with
        tails :=
          if mutex.tails run.key = some (.tail index) then
            Function.update mutex.tails run.key none
          else mutex.tails
        runs := Function.update mutex.runs index
          (some { run with result := some result }) }
  | none => mutex

/-- The microtask in front of the queue; `nested` and `called` are what a
function does that it calls. -/
def microtask (mutex : KeyedMutexState κ ε α) (nested : List κ)
    (called : Except ε Unit) : Option (KeyedMutexState κ ε α) :=
  let promises := mutex.promises.dequeue
  mutex.promises.jobs.head?.map fun
    | .adopt target thenable =>
        { mutex with promises := promises.react thenable (.resolve target) }
    | .react (.resolve target) result =>
        { mutex with promises := promises.settle target result }
    | .react (.call (.swallow index)) result =>
        { mutex with
          promises := promises.settle (.tail index) (.ok (match result with
            | .ok value => value
            | .error _ => none)) }
    | .react (.call (.fn index)) _ =>
        { mutex with promises }.callFn index nested called
    | .react (.call (.resume index)) result =>
        { mutex with promises }.finish index result

/-- The promise that a function has returned settles. -/
def settleFn (mutex : KeyedMutexState κ ε α) (index : Nat)
    (result : Except ε (Option α)) : Option (KeyedMutexState κ ε α) :=
  match (mutex.runs index).bind (·.called) with
  | some (.ok _) => some
      { mutex with promises := mutex.promises.settle (.returned index) result }
  | _ => none

/-- How the function of a run has ended. -/
def fnResult (mutex : KeyedMutexState κ ε α) (index : Nat) :
    Option (Except ε (Option α)) :=
  match (mutex.runs index).bind (·.called) with
  | some (.ok _) => mutex.promises.result (.returned index)
  | some (.error error) => some (.error error)
  | none => none

end KeyedMutexState

/-- What happens to the mutex: somebody calls `run`, a function ends, or the
next microtask is run. -/
inductive MutexMove (κ ε α : Type) where
  | run (key : κ)
  | settleFn (index : Nat) (result : Except ε (Option α))
  | microtask (nested : List κ) (called : Except ε Unit)

def KeyedMutexState.step {κ ε α : Type} [DecidableEq κ]
    (mutex : KeyedMutexState κ ε α) :
    MutexMove κ ε α → Option (KeyedMutexState κ ε α)
  | .run key => some (mutex.run key)
  | .settleFn index result => mutex.settleFn index result
  | .microtask nested called => mutex.microtask nested called

/-- The mutex after some moves. -/
inductive KeyedMutexState.Reachable {κ ε α : Type} [DecidableEq κ] :
    KeyedMutexState κ ε α → Prop where
  | initial : Reachable {}
  | step {mutex next : KeyedMutexState κ ε α} {move : MutexMove κ ε α} :
      Reachable mutex → mutex.step move = some next → Reachable next

end FluxIP
