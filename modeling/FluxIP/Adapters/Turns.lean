import FluxIP.Adapters.Steps
import FluxIP.Async.Traces
import FluxIP.Domain.ProviderStore
import Mathlib.Data.List.Induction

/-!
# Taking turns at a mutex

What a program has awaited tells where it stands at each mutex.  As long as
every program joins, waits and leaves in that order, at most one of them is
inside.
-/

namespace FluxIP

open Async

/-- Where a program stands at a mutex; `since` is what it has awaited since its
turn came. -/
inductive Seat where
  | away
  | queued (ticket : Nat)
  | inside (ticket : Nat) (since : BackendHistory)

namespace Seat

def ticket? : Seat → Option Nat
  | away => none
  | queued ticket => some ticket
  | inside ticket _ => some ticket

/-- The ticket and what was awaited since, inside the mutex. -/
def inside? : Seat → Option (Nat × BackendHistory)
  | inside ticket since => some (ticket, since)
  | _ => none

/-- A step that does not concern the mutex. -/
def record (answered : Answered backend Err) : Seat → Seat
  | inside ticket since => inside ticket (since ++ [answered])
  | seat => seat

/-- What an answer means for the seat at this mutex. -/
def next (key : MutexKey) (seat : Seat) : Answered backend Err → Seat
  | ⟨.memory (.join other), .ok ticket⟩ =>
      if other = key then queued ticket
      else seat.record ⟨.memory (.join other), .ok ticket⟩
  | ⟨.memory (.turn other ticket), .ok value⟩ =>
      if other = key then inside ticket []
      else seat.record ⟨.memory (.turn other ticket), .ok value⟩
  | ⟨.memory (.turn other ticket), .error error⟩ =>
      if other = key then away
      else seat.record ⟨.memory (.turn other ticket), .error error⟩
  | ⟨.memory (.leave other ticket), answer⟩ =>
      if other = key then away
      else seat.record ⟨.memory (.leave other ticket), answer⟩
  | answered => seat.record answered

end Seat

/-- The seat of a program with this history. -/
def seatAt (key : MutexKey) (history : BackendHistory) : Seat :=
  history.foldl (Seat.next key) .away

@[simp] theorem seatAt_nil (key : MutexKey) : seatAt key [] = .away := rfl

@[simp] theorem seatAt_append (key : MutexKey) (history : BackendHistory)
    (answered : Answered backend Err) :
    seatAt key (history ++ [answered]) =
      (seatAt key history).next key answered := by
  simp [seatAt]

/-- The call is a step on this mutex. -/
def Call.stepsOn (key : MutexKey) : Call → Bool
  | .memory (.join other) => other = key
  | .memory (.turn other _) => other = key
  | .memory (.leave other _) => other = key
  | _ => false

theorem Seat.next_of_aside {key : MutexKey} {seat : Seat} {call : Call}
    {answer : Except Err call.Answer} (aside : call.stepsOn key = false) :
    seat.next key ⟨call, answer⟩ = seat.record ⟨call, answer⟩ := by
  cases call with
  | memory call =>
      cases call <;> cases answer <;>
        simp_all [Seat.next, Call.stepsOn]
  | _ => rfl

theorem Seat.next_join (key : MutexKey) (seat : Seat) (ticket : Nat) :
    seat.next key (@Answered.mk backend Err (.memory (.join key))
      (.ok ticket)) = .queued ticket :=
  if_pos rfl

theorem Seat.next_turn (key : MutexKey) (seat : Seat) (ticket : Nat)
    (value : Unit) :
    seat.next key (@Answered.mk backend Err (.memory (.turn key ticket))
      (.ok value)) = .inside ticket [] :=
  if_pos rfl

theorem Seat.next_leave (key : MutexKey) (seat : Seat) (ticket : Nat)
    (answer : Except Err Unit) :
    seat.next key (@Answered.mk backend Err (.memory (.leave key ticket))
      answer) = .away :=
  if_pos rfl

theorem seatAt_join (key : MutexKey) (history : BackendHistory)
    (ticket : Nat) :
    seatAt key (history ++ [@Answered.mk backend Err (.memory (.join key))
      (.ok ticket)]) = .queued ticket := by
  rw [seatAt_append, Seat.next_join]

theorem seatAt_turn (key : MutexKey) (history : BackendHistory)
    (ticket : Nat) (value : Unit) :
    seatAt key (history ++ [@Answered.mk backend Err
      (.memory (.turn key ticket)) (.ok value)]) = .inside ticket [] := by
  rw [seatAt_append, Seat.next_turn]

theorem seatAt_leave (key : MutexKey) (history : BackendHistory)
    (ticket : Nat) (answer : Except Err Unit) :
    seatAt key (history ++ [@Answered.mk backend Err
      (.memory (.leave key ticket)) answer]) = .away := by
  rw [seatAt_append, Seat.next_leave]

theorem Seat.record_inside {seat : Seat} {answered : Answered backend Err}
    {ticket : Nat} {since : BackendHistory}
    (inside : seat.record answered = .inside ticket since) :
    ∃ earlier, seat = .inside ticket earlier ∧
      since = earlier ++ [answered] := by
  cases seat with
  | away => cases inside
  | queued own => cases inside
  | inside own earlier =>
      cases inside
      exact ⟨earlier, rfl, rfl⟩

/-- A program is inside because its turn has come, or goes on being there. -/
theorem Seat.next_inside {key : MutexKey} {seat : Seat}
    {answered : Answered backend Err} {ticket : Nat} {since : BackendHistory}
    (inside : seat.next key answered = .inside ticket since) :
    since = [] ∨ ∃ earlier, seat = .inside ticket earlier ∧
      since = earlier ++ [answered] := by
  unfold Seat.next at inside
  split at inside
  · split at inside
    · cases inside
    · exact .inr (Seat.record_inside inside)
  · split at inside
    · cases inside
      exact .inl rfl
    · exact .inr (Seat.record_inside inside)
  · split at inside
    · cases inside
    · exact .inr (Seat.record_inside inside)
  · split at inside
    · cases inside
    · exact .inr (Seat.record_inside inside)
  · exact .inr (Seat.record_inside inside)

/-- What was awaited since the turn came is part of the history. -/
theorem mem_of_inside {key : MutexKey} {history since : BackendHistory}
    {ticket : Nat} (inside : seatAt key history = .inside ticket since) :
    ∀ answered ∈ since, answered ∈ history := by
  induction history using List.reverseRecOn generalizing ticket since with
  | nil => cases inside
  | append_singleton history last ih =>
      intro answered member
      rw [seatAt_append] at inside
      rcases Seat.next_inside inside with rfl | ⟨earlier, before, rfl⟩
      · cases member
      · rcases List.mem_append.mp member with old | new
        · exact List.mem_append_left _ (ih before answered old)
        · exact List.mem_append_right _ new

/-- Join first, then wait for the turn, then leave. -/
structure TakesTurns (key : MutexKey) (history : BackendHistory)
    (call : Call) : Prop where
  joins : call = .memory (.join key) → seatAt key history = .away
  waits : ∀ ticket, call = .memory (.turn key ticket) →
    seatAt key history = .queued ticket
  leaves : ∀ ticket, call = .memory (.leave key ticket) →
    ∃ since, seatAt key history = .inside ticket since

theorem takesTurns_of_aside {key : MutexKey} {history : BackendHistory}
    {call : Call} (aside : call.stepsOn key = false) :
    TakesTurns key history call := by
  constructor
  · rintro rfl
    simp [Call.stepsOn] at aside
  · rintro ticket rfl
    simp [Call.stepsOn] at aside
  · rintro ticket rfl
    simp [Call.stepsOn] at aside

/-! ## What a call does to the line -/

section

variable {choice : Choice} {world after : World} {key : MutexKey}

theorem mutexes_frame {call : Call} {answer : Except Err call.Answer}
    (result : semantics call choice world = some (answer, after))
    (aside : call.takesTurns = false) : after.mutexes = world.mutexes := by
  refine semantics_frame World.mutexes (fun _ _ => rfl) ?_ result
  cases call with
  | store call => cases call <;> exact fun _ => rfl
  | redis call => exact call.effect_keeps _ fun _ _ => rfl
  | queue call => cases call <;> exact fun _ => rfl
  | hetzner call => exact call.effect_keeps _ fun _ _ => rfl
  | send channelType message => exact fun _ => rfl
  | clock call => exact fun _ _ _ => ClockCall.effect_keeps _ fun _ _ => rfl
  | process call => cases call <;> exact fun _ => rfl
  | memory call =>
      intro before answer next effect
      cases call with
      | join other => cases aside
      | turn other ticket => cases aside
      | leave other ticket => cases aside
      | closed sessionId =>
          simp only [MemoryCall.effect] at effect
          split at effect
          · cases effect
          · cases effect; rfl
      | _ => cases effect; rfl

theorem join_step {answer : Except Err Nat}
    (result : semantics (.memory (.join key)) choice world =
      some (answer, after)) :
    answer = .ok world.mutexes.nextTicket ∧
      after.mutexes =
        { world.mutexes.setLine key
            (world.mutexes.waiting key ++ [world.mutexes.nextTicket]) with
          nextTicket := world.mutexes.nextTicket + 1 } := by
  cases result
  exact ⟨rfl, rfl⟩

theorem turn_step {ticket : Nat} {answer : Except Err Unit}
    (result : semantics (.memory (.turn key ticket)) choice world =
      some (answer, after)) :
    answer = .ok () ∧ (world.mutexes.waiting key).head? = some ticket ∧
      after.mutexes = world.mutexes := by
  obtain ⟨⟨value, next⟩, effect, same⟩ := Option.map_eq_some_iff.mp result
  cases same
  simp only [MemoryCall.effect] at effect
  split at effect
  · rename_i head
    cases effect
    exact ⟨rfl, head, rfl⟩
  · cases effect

theorem leave_step {ticket : Nat} {answer : Except Err Unit}
    (result : semantics (.memory (.leave key ticket)) choice world =
      some (answer, after)) :
    answer = .ok () ∧
      after.mutexes = world.mutexes.setLine key
        ((world.mutexes.waiting key).erase ticket) := by
  cases result
  exact ⟨rfl, rfl⟩

/-- What a call that is no step on this mutex does to its line. -/
theorem line_aside {call : Call} {answer : Except Err call.Answer}
    (result : semantics call choice world = some (answer, after))
    (aside : call.stepsOn key = false) :
    after.mutexes.waiting key = world.mutexes.waiting key ∧
      world.mutexes.nextTicket ≤ after.mutexes.nextTicket := by
  cases turns : call.takesTurns with
  | false =>
      have same := mutexes_frame result turns
      rw [same]
      exact ⟨rfl, le_rfl⟩
  | true =>
      cases call with
      | memory call =>
          cases call with
          | join other =>
              have apart : key ≠ other := by
                rintro rfl
                simp [Call.stepsOn] at aside
              obtain ⟨-, same⟩ := join_step result
              rw [same]
              exact ⟨by simp [Mutexes.setLine, apart], Nat.le_succ _⟩
          | turn other ticket =>
              obtain ⟨-, -, same⟩ := turn_step result
              rw [same]
              exact ⟨rfl, le_rfl⟩
          | leave other ticket =>
              have apart : key ≠ other := by
                rintro rfl
                simp [Call.stepsOn] at aside
              obtain ⟨-, same⟩ := leave_step result
              rw [same]
              exact ⟨by simp [Mutexes.setLine, apart], le_rfl⟩
          | _ => cases turns
      | _ => cases turns

end

/-! ## The line at a mutex -/

/-- The tickets in line, the next one to be drawn, and the seats of the
programs. -/
structure Lined (line : List Nat) (nextTicket : Nat) (seats : Nat → Seat) :
    Prop where
  drawn : ∀ ticket ∈ line, ticket < nextTicket
  distinct : line.Nodup
  present : ∀ index ticket, (seats index).ticket? = some ticket →
    ticket ∈ line
  first : ∀ index ticket since, seats index = .inside ticket since →
    line.head? = some ticket
  apart : ∀ left right ticket, (seats left).ticket? = some ticket →
    (seats right).ticket? = some ticket → left = right

namespace Lined

variable {line : List Nat} {nextTicket later index ticket : Nat}
variable {seats : Nat → Seat}

/-- At most one program is inside. -/
theorem alone (lined : Lined line nextTicket seats) {left right other : Nat}
    {since awaited : BackendHistory}
    (insideLeft : seats left = .inside ticket since)
    (insideRight : seats right = .inside other awaited) : left = right := by
  have headLeft := lined.first left ticket since insideLeft
  have headRight := lined.first right other awaited insideRight
  rw [headLeft] at headRight
  cases headRight
  apply lined.apart left right ticket
  · rw [insideLeft]
    rfl
  · rw [insideRight]
    rfl

theorem initial (nextTicket : Nat) :
    Lined [] nextTicket fun _ => .away where
  drawn ticket member := by cases member
  distinct := .nil
  present index ticket seated := by cases seated
  first index ticket since inside := by cases inside
  apart left right ticket seated := by cases seated

/-- Programs that keep their tickets and are inside no more than before. -/
theorem reseat {after : Nat → Seat} (lined : Lined line nextTicket seats)
    (grows : nextTicket ≤ later)
    (tickets : ∀ index, (after index).ticket? = (seats index).ticket?)
    (inside : ∀ index ticket since, after index = .inside ticket since →
      line.head? = some ticket) :
    Lined line later after where
  drawn ticket member := (lined.drawn ticket member).trans_le grows
  distinct := lined.distinct
  present index ticket seated := by
    rw [tickets] at seated
    exact lined.present index ticket seated
  first := inside
  apart left right ticket seatedLeft seatedRight := by
    rw [tickets] at seatedLeft seatedRight
    exact lined.apart left right ticket seatedLeft seatedRight

theorem record (lined : Lined line nextTicket seats)
    (grows : nextTicket ≤ later) (index : Nat)
    (answered : Answered backend Err) :
    Lined line later
      (Function.update seats index ((seats index).record answered)) := by
  apply lined.reseat grows
  · intro other
    by_cases same : other = index
    · subst same
      rw [Function.update_self]
      cases seats other <;> rfl
    · rw [Function.update_of_ne same]
  · intro other ticket since inside
    by_cases same : other = index
    · subst same
      rw [Function.update_self] at inside
      cases seat : seats other with
      | away => rw [seat] at inside; cases inside
      | queued own => rw [seat] at inside; cases inside
      | inside own awaited =>
          rw [seat] at inside
          cases inside
          exact lined.first other ticket awaited seat
    · rw [Function.update_of_ne same] at inside
      exact lined.first other ticket since inside

theorem turn (lined : Lined line nextTicket seats)
    (queued : seats index = .queued ticket)
    (head : line.head? = some ticket) :
    Lined line nextTicket
      (Function.update seats index (.inside ticket [])) := by
  apply lined.reseat le_rfl
  · intro other
    by_cases same : other = index
    · subst same
      rw [Function.update_self, queued]
      rfl
    · rw [Function.update_of_ne same]
  · intro other own since inside
    by_cases same : other = index
    · subst same
      rw [Function.update_self] at inside
      cases inside
      exact head
    · rw [Function.update_of_ne same] at inside
      exact lined.first other own since inside

theorem join (lined : Lined line nextTicket seats) :
    Lined (line ++ [nextTicket]) (nextTicket + 1)
      (Function.update seats index (.queued nextTicket)) := by
  have unseated : ∀ other, (seats other).ticket? ≠ some nextTicket := by
    intro other seated
    have drawn := lined.drawn _ (lined.present other nextTicket seated)
    exact Nat.lt_irrefl _ drawn
  constructor
  · intro ticket member
    rcases List.mem_append.mp member with earlier | last
    · exact Nat.lt_succ_of_lt (lined.drawn ticket earlier)
    · cases List.mem_singleton.mp last
      exact Nat.lt_succ_self _
  · apply List.nodup_append.mpr
    refine ⟨lined.distinct, List.nodup_singleton _, ?_⟩
    intro ticket member other last
    cases List.mem_singleton.mp last
    exact (lined.drawn ticket member).ne
  · intro other ticket seated
    by_cases same : other = index
    · subst same
      rw [Function.update_self] at seated
      cases seated
      exact List.mem_append_right _ (List.mem_singleton_self _)
    · rw [Function.update_of_ne same] at seated
      exact List.mem_append_left _ (lined.present other ticket seated)
  · intro other ticket since inside
    by_cases same : other = index
    · subst same
      rw [Function.update_self] at inside
      cases inside
    · rw [Function.update_of_ne same] at inside
      have head := lined.first other ticket since inside
      rw [List.head?_append, head]
      rfl
  · intro left right ticket seatedLeft seatedRight
    by_cases ownLeft : left = index <;> by_cases ownRight : right = index
    · rw [ownLeft, ownRight]
    · subst ownLeft
      rw [Function.update_self] at seatedLeft
      rw [Function.update_of_ne ownRight] at seatedRight
      cases seatedLeft
      exact absurd seatedRight (unseated right)
    · subst ownRight
      rw [Function.update_self] at seatedRight
      rw [Function.update_of_ne ownLeft] at seatedLeft
      cases seatedRight
      exact absurd seatedLeft (unseated left)
    · rw [Function.update_of_ne ownLeft] at seatedLeft
      rw [Function.update_of_ne ownRight] at seatedRight
      exact lined.apart left right ticket seatedLeft seatedRight

theorem leave (lined : Lined line nextTicket seats)
    {since : BackendHistory} (inside : seats index = .inside ticket since) :
    Lined (line.erase ticket) nextTicket
      (Function.update seats index .away) := by
  have others : ∀ other own, other ≠ index →
      (seats other).ticket? = some own → own ≠ ticket := by
    rintro other own apart seated rfl
    apply apart
    apply lined.apart other index own seated
    rw [inside]
    rfl
  constructor
  · intro other member
    exact lined.drawn other (List.mem_of_mem_erase member)
  · exact lined.distinct.erase ticket
  · intro other own seated
    by_cases same : other = index
    · subst same
      rw [Function.update_self] at seated
      cases seated
    · rw [Function.update_of_ne same] at seated
      apply (List.mem_erase_of_ne (others other own same seated)).mpr
      exact lined.present other own seated
  · intro other own awaited seated
    by_cases same : other = index
    · subst same
      rw [Function.update_self] at seated
      cases seated
    · rw [Function.update_of_ne same] at seated
      exact absurd (lined.alone seated inside) same
  · intro left right own seatedLeft seatedRight
    by_cases ownLeft : left = index
    · subst ownLeft
      rw [Function.update_self] at seatedLeft
      cases seatedLeft
    · by_cases ownRight : right = index
      · subst ownRight
        rw [Function.update_self] at seatedRight
        cases seatedRight
      · rw [Function.update_of_ne ownLeft] at seatedLeft
        rw [Function.update_of_ne ownRight] at seatedRight
        exact lined.apart left right own seatedLeft seatedRight

end Lined

/-! ## The line at a mutex of a pool -/

section

variable {ι α : Type} [DecidableEq ι] {key : MutexKey}
variable {pool next : Pool backend Err ι α World}

/-- The seat of the program with this index. -/
def seatOf (key : MutexKey) (pool : Pool backend Err ι α World)
    (index : Nat) : Seat :=
  (pool.threads[index]?).elim .away (seatAt key ·.history)

/-- The programs of the pool are in line at the mutex. -/
def LinedUp (key : MutexKey) (pool : Pool backend Err ι α World) : Prop :=
  Lined (pool.state.mutexes.waiting key) pool.state.mutexes.nextTicket
    (seatOf key pool)

omit [DecidableEq ι] in
theorem seatOf_of_found {index : Nat} {thread : Thread backend Err ι α}
    (found : pool.threads[index]? = some thread) :
    seatOf key pool index = seatAt key thread.history := by
  simp [seatOf, found]

omit [DecidableEq ι] in
theorem LinedUp.initial {world : World}
    (empty : world.mutexes.waiting key = []) :
    LinedUp key (⟨world, []⟩ : Pool backend Err ι α World) := by
  have lined := Lined.initial world.mutexes.nextTicket
  unfold LinedUp
  rw [empty]
  exact lined

omit [DecidableEq ι] in
theorem seatOf_start (thread : Thread backend Err ι α)
    (fresh : thread.history = []) (state : World) :
    seatOf key ⟨state, pool.threads ++ [thread]⟩ = seatOf key pool := by
  funext index
  simp only [seatOf]
  by_cases old : index < pool.threads.length
  · rw [List.getElem?_append_left old]
  · have outside : pool.threads[index]? = none :=
      List.getElem?_eq_none (Nat.not_lt.mp old)
    rw [outside, List.getElem?_append_right (Nat.not_lt.mp old)]
    cases index - pool.threads.length with
    | zero => simp [fresh]
    | succ distance => rfl

omit [DecidableEq ι] in
theorem seatOf_advance {index : Nat} {thread : Thread backend Err ι α}
    (found : pool.threads[index]? = some thread)
    (answered : Answered backend Err) (program : Program backend Err α)
    (state : World) :
    seatOf key ⟨state, pool.threads.set index
        ⟨thread.request, thread.history ++ [answered], program⟩⟩ =
      Function.update (seatOf key pool) index
        ((seatOf key pool index).next key answered) := by
  have bound := (List.getElem?_eq_some_iff.mp found).1
  funext other
  by_cases same : other = index
  · subst same
    rw [Function.update_self, seatOf_of_found found]
    simp [seatOf, bound]
  · rw [Function.update_of_ne same]
    simp only [seatOf]
    rw [List.getElem?_set_ne (Ne.symm same)]

theorem LinedUp.step {service : Service backend Err ι α Choice World}
    (means : service.semantics = semantics)
    {allowed : ι → BackendHistory → Call → Prop}
    (takes : ∀ request history call, allowed request history call →
      TakesTurns key history call)
    {move : Move ι Choice} (lined : LinedUp key pool)
    (traced : pool.Traced allowed)
    (moved : pool.step service move = some next) : LinedUp key next := by
  cases move with
  | start request =>
      obtain ⟨-, -, rfl⟩ := Pool.step_start moved
      unfold LinedUp
      rw [seatOf_start _ rfl]
      exact lined
  | advance index choice =>
      obtain ⟨request, history, call, resume, answer, world, found, result,
        rfl⟩ := Pool.step_advance moved
      rw [means] at result
      have turns := takes _ _ _ (traced _ (List.mem_of_getElem? found)).1
      have seat : seatOf key pool index = seatAt key history :=
        seatOf_of_found found
      unfold LinedUp
      rw [seatOf_advance found]
      cases aside : call.stepsOn key with
      | false =>
          obtain ⟨sameLine, grows⟩ := line_aside result aside
          rw [Seat.next_of_aside aside, sameLine]
          exact lined.record grows index _
      | true =>
          cases call with
          | memory call =>
              cases call with
              | join other =>
                  have same : other = key := by simpa [Call.stepsOn] using aside
                  subst same
                  obtain ⟨rfl, mutexes⟩ := join_step result
                  erw [Seat.next_join]
                  rw [mutexes]
                  simpa [Mutexes.setLine] using lined.join
              | turn other ticket =>
                  have same : other = key := by simpa [Call.stepsOn] using aside
                  subst same
                  obtain ⟨rfl, head, mutexes⟩ := turn_step result
                  erw [Seat.next_turn]
                  rw [mutexes]
                  exact lined.turn (seat.trans (turns.waits ticket rfl)) head
              | leave other ticket =>
                  have same : other = key := by simpa [Call.stepsOn] using aside
                  subst same
                  obtain ⟨rfl, mutexes⟩ := leave_step result
                  obtain ⟨since, inside⟩ := turns.leaves ticket rfl
                  erw [Seat.next_leave]
                  rw [mutexes]
                  simpa [Mutexes.setLine] using
                    lined.leave (seat.trans inside)
              | _ => cases aside
          | _ => cases aside

end

end FluxIP
