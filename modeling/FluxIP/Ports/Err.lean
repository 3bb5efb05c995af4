import FluxIP.Domain.Events

/-!
# Exceptions
-/

namespace FluxIP

/-- What a `catch` can receive: the conflict of an optimistic append, or any
other error, of which only the message is ever looked at. -/
inductive Err where
  | concurrency (aggregateType : AggregateType) (aggregateId : Id)
      (expectedSequenceNumber : Nat)
  | thrown (message : String)
  deriving DecidableEq, Repr

def Err.message : Err → String
  | .concurrency aggregateType aggregateId expectedSequenceNumber =>
      "Concurrency conflict appending to " ++ aggregateType.name ++ "/" ++
        toString aggregateId ++ " at sequence " ++
        toString expectedSequenceNumber
  | .thrown message => message

end FluxIP
