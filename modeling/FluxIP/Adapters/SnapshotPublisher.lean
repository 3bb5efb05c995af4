import FluxIP.Domain.ProviderStore
import FluxIP.Domain.Snapshot

/-!
# Publishing snapshots
-/

namespace FluxIP

open Async

/-- `contentHash` and `approxBytes` are the SHA-256 and the byte length of the
content's JSON. -/
structure SnapshotPublisherDeps where
  text : SnapshotText
  contentHash : SnapshotContent → String
  approxBytes : SnapshotContent → Nat
  agentSnapshotMaxBytes : Nat

structure PublishResult where
  snapshot : SnapshotPayload
  changed : Bool
  deriving DecidableEq, Repr

namespace SnapshotPublisher

def publishNew (deps : SnapshotPublisherDeps) (accountId providerId : Id)
    (content : SnapshotContent) (correlationId : Id)
    (absorbedCausationIds : List Id) (now : Timestamp) :
    Backend (Option PublishResult) :=
  if deps.agentSnapshotMaxBytes < deps.approxBytes content then do
    let _ ← ProviderStore.append accountId providerId
      (.snapshotPublishFailed
        { reason := .tooLarge
          correlationId
          absorbedCausationIds
          failedAt := now })
    pure none
  else do
    let event ← ProviderStore.append accountId providerId
      (.snapshotPublished
        { contentHash := deps.contentHash content
          groupCount := content.groups.length
          entryCount := snapshotEntryCount content
          correlationId
          absorbedCausationIds
          publishedAt := now })
    pure (some
      { changed := true
        snapshot :=
          { content with
            version := event.sequenceNumber
            correlationId
            generatedAt := now } })

/-- `causationId ?? ulid()` -/
def correlationIdOf : Option Id → Backend Id
  | some causationId => pure causationId
  | none => Backend.ulid

/-- The snapshot last published, if it has this content. -/
def unchanged (deps : SnapshotPublisherDeps) (state : TraefikProviderState)
    (content : SnapshotContent) : Option PublishResult :=
  match state.lastPublished with
  | none => none
  | some last =>
      if last.contentHash = deps.contentHash content then some
        { changed := false
          snapshot :=
            { content with
              version := last.version
              correlationId := last.correlationId
              generatedAt := last.publishedAt } }
      else none

/-- The function `publish` runs under its mutex. -/
def publishCurrent (deps : SnapshotPublisherDeps) (accountId providerId : Id)
    (causationId : Option Id) (absorbedCausationIds : List Id)
    (now : Timestamp) : Backend (Option PublishResult) := do
  let loaded ← ProviderStore.loadActive accountId providerId
  match loaded with
  | none => pure none
  | some loaded =>
      let content ← buildSnapshotContent deps.text accountId providerId
        loaded.state.name
      match unchanged deps loaded.state content with
      | some result => pure (some result)
      | none =>
          let correlationId ← correlationIdOf causationId
          publishNew deps accountId providerId content correlationId
            absorbedCausationIds now

def publish (deps : SnapshotPublisherDeps) (accountId providerId : Id)
    (causationId : Option Id) (absorbedCausationIds : List Id)
    (now : Timestamp) : Backend (Option PublishResult) :=
  KeyedMutex.run (.publisher providerId)
    (publishCurrent deps accountId providerId causationId
      absorbedCausationIds now)

def publishNow (deps : SnapshotPublisherDeps) (accountId providerId : Id)
    (now : Timestamp) : Backend (Option SnapshotPayload) := do
  let result ← publish deps accountId providerId none [] now
  pure (result.map (·.snapshot))

end SnapshotPublisher

end FluxIP
