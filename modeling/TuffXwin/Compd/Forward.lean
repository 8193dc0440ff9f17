import TuffXwin.Compd.Relay
import TuffXwin.Lib.Channel

/-! How compd forwards a scene to displayd: the direct commit, the snapshot it
falls back on, and the reconciliation after a lost connection. The service
behind the link is left open. -/

namespace TuffXwin.Compd
open Lib

structure SceneCommitReceipt where
  surfaceCount : Nat
  commitId : Nat
  deriving DecidableEq, Repr

def displayReconnectRetryLimit : Nat := 3

/-- The link to displayd, one connection for each request. -/
abbrev DisplayLink (σ ι κ : Type) := Channel σ ι κ DisplayCommand DisplayEvent

def sceneCommittedEvent (relay : RelayScene) (receipt : SceneCommitReceipt) : DisplayEvent :=
  .sceneCommitted (.output relay.scene.targetOutput) relay.scene.focus relay.scene.selection
    receipt.surfaceCount receipt.commitId

/-- The snapshot compd takes for the relayed scene: target and version agree. -/
def snapshotMatches (relay : RelayScene) (snapshot : CommittedSceneState) : Bool :=
  snapshot.target.name = relay.scene.targetOutput ∧
    snapshot.sceneEpoch = relay.scene.sceneEpoch ∧
    snapshot.sceneGeneration = relay.scene.sceneGeneration

def reconciliationCommitId (snapshot : Option CommittedSceneState) (relay : RelayScene) :
    Except String Nat :=
  match snapshot with
  | none => .error "displayd reconciliation produced no scene snapshot"
  | some snapshot =>
    if snapshot.target.name ≠ relay.scene.targetOutput then
      .error ("displayd reconciliation snapshot target mismatch: " ++ snapshot.target.name ++
        " != " ++ relay.scene.targetOutput)
    else if snapshot.sceneEpoch ≠ relay.scene.sceneEpoch ∨
        snapshot.sceneGeneration ≠ relay.scene.sceneGeneration then
      .error ("displayd reconciliation snapshot version mismatch: epoch=" ++
        toString snapshot.sceneEpoch ++ " generation=" ++ toString snapshot.sceneGeneration ++
        " expected epoch=" ++ toString relay.scene.sceneEpoch ++ " generation=" ++
        toString relay.scene.sceneGeneration)
    else if snapshot.commitId = 0 then
      .error "displayd reconciliation snapshot has invalid commit id"
    else .ok snapshot.commitId

section Link

variable {σ ι κ : Type} (S : Service σ ι κ DisplayCommand DisplayEvent)

def querySceneSnapshotFromDisplayd (link : DisplayLink σ ι κ) (output : Option String) :
    DisplayLink σ ι κ × Except String (Option CommittedSceneState) :=
  match S.send link (.getSceneSnapshot output) with
  | (link, .error reason) => (link, .error reason)
  | (link, .ok (.sceneSnapshot snapshot)) => (link, .ok snapshot)
  | (link, .ok (.rejected reason)) =>
    (link, .error ("displayd rejected scene snapshot query: " ++ reason))
  | (link, .ok _) => (link, .error "unexpected displayd response")

def matchingSnapshotReceipt (relay : RelayScene) (link : DisplayLink σ ι κ) :
    DisplayLink σ ι κ × Except String (Option SceneCommitReceipt) :=
  match querySceneSnapshotFromDisplayd S link (some relay.scene.targetOutput) with
  | (link, .error reason) => (link, .error reason)
  | (link, .ok none) => (link, .ok none)
  | (link, .ok (some snapshot)) =>
    if !snapshotMatches relay snapshot then (link, .ok none)
    else if snapshot.commitId = 0 then
      (link, .error "matching displayd scene snapshot has invalid commit id")
    else (link, .ok (some ⟨snapshot.surfaces.length, snapshot.commitId⟩))

/-- How one attempt of the reconciliation ends: for good, or to be tried again. -/
inductive Attempt
  | finished (receipt : Except String SceneCommitReceipt)
  | again (reason : String)

/-- The snapshot that closes a reconciliation displayd has reported done. -/
def reconciledReceipt (relay : RelayScene) (link : DisplayLink σ ι κ) :
    DisplayLink σ ι κ × Except String SceneCommitReceipt :=
  match querySceneSnapshotFromDisplayd S link (some relay.scene.targetOutput) with
  | (link, .error reason) => (link, .error reason)
  | (link, .ok snapshot) =>
    (link, (reconciliationCommitId snapshot relay).map fun commitId =>
      ⟨relay.scene.surfaces.length, commitId⟩)

/-- The scene is sent again under the epoch displayd has named. -/
def reconcileScene (relay : RelayScene) (epoch : Nat) (link : DisplayLink σ ι κ) :
    DisplayLink σ ι κ × Attempt :=
  match S.send link (.reconcileScene epoch relay.toCommit) with
  | (link, .error _) =>
    match matchingSnapshotReceipt S relay link with
    | (link, .ok (some receipt)) => (link, .finished (.ok receipt))
    | (link, _) => (link, .again "failed scene reconciliation")
  | (link, .ok (.reconciled accepted sceneGeneration _)) =>
    if accepted = epoch ∧ sceneGeneration = relay.scene.sceneGeneration then
      let result := reconciledReceipt S relay link
      (result.1, .finished result.2)
    else (link, .finished (.error "unexpected scene reconciliation response"))
  | (link, .ok (.rejected reason)) =>
    match matchingSnapshotReceipt S relay link with
    | (link, .ok (some receipt)) => (link, .finished (.ok receipt))
    | (link, _) =>
      (link, .finished (.error ("displayd rejected scene reconciliation: " ++ reason)))
  | (link, .ok _) => (link, .finished (.error "unexpected scene reconciliation response"))

def beginReconciliation (relay : RelayScene) (epoch : Nat) (link : DisplayLink σ ι κ) :
    DisplayLink σ ι κ × Attempt :=
  match S.send link (.beginReconciliation epoch) with
  | (link, .error _) => (link, .again "failed reconciliation begin")
  | (link, .ok (.reconciliation accepted _)) =>
    if accepted = epoch then reconcileScene S relay epoch link
    else (link, .finished (.error "unexpected reconciliation begin response"))
  | (link, .ok (.rejected reason)) =>
    (link, .finished (.error ("displayd rejected reconciliation begin: " ++ reason)))
  | (link, .ok _) => (link, .finished (.error "unexpected reconciliation begin response"))

def reconcileAttempt (relay : RelayScene) (link : DisplayLink σ ι κ) :
    DisplayLink σ ι κ × Attempt :=
  match S.send link .getReconciliation with
  | (link, .error _) => (link, .again "failed reconciliation query")
  | (link, .ok (.reconciliation epoch _)) => beginReconciliation S relay epoch link
  | (link, .ok (.rejected reason)) =>
    (link, .finished (.error ("displayd rejected reconciliation query: " ++ reason)))
  | (link, .ok _) => (link, .finished (.error "unexpected reconciliation response"))

/-- The attempts left, with the error of the last one. -/
def reconcileLoop (relay : RelayScene) :
    Nat → Option String → DisplayLink σ ι κ →
      DisplayLink σ ι κ × Except String SceneCommitReceipt
  | 0, lastError, link =>
    (link, .error (lastError.getD "displayd reconnect retry budget exhausted"))
  | attempts + 1, _, link =>
    match reconcileAttempt S relay link with
    | (link, .finished receipt) => (link, receipt)
    | (link, .again reason) => reconcileLoop relay attempts (some reason) link

def reconcileRelaySceneToDisplayd (relay : RelayScene) (link : DisplayLink σ ι κ) :
    DisplayLink σ ι κ × Except String SceneCommitReceipt :=
  reconcileLoop S relay displayReconnectRetryLimit none link

/-- compd after one command, with the event or the error it comes to. -/
structure Forwarded (σ ι κ : Type) where
  link : DisplayLink σ ι κ
  relayState : CompdRelayState
  result : Except String DisplayEvent

def acknowledge (relay : RelayScene) (receipt : SceneCommitReceipt)
    (relayState : CompdRelayState) (link : DisplayLink σ ι κ) : Forwarded σ ι κ :=
  ⟨link, relayState.noteForwarded relay, .ok (sceneCommittedEvent relay receipt)⟩

def deferredReason (transportError reconcileError : String) : String :=
  "compd deferred latest scene after displayd transport loss: " ++ transportError ++
    "; reconciliation failed: " ++ reconcileError

/-- The reconciliation after the direct commit was lost. -/
def recoverScene (relay : RelayScene) (relayState : CompdRelayState) (transportError : String)
    (link : DisplayLink σ ι κ) : Forwarded σ ι κ :=
  match reconcileRelaySceneToDisplayd S relay link with
  | (link, .ok receipt) => acknowledge relay receipt relayState link
  | (link, .error reconcileError) =>
    let reason := deferredReason transportError reconcileError
    ⟨link, relayState.deferLatest relay reason, .ok (.rejected reason)⟩

def commitScene (relay : RelayScene) (relayState : CompdRelayState)
    (link : DisplayLink σ ι κ) : Forwarded σ ι κ :=
  match S.send link (.commitScene relay.toCommit) with
  | (link, .ok (.sceneCommitted target focus selection surfaceCount commitId)) =>
    ⟨link, relayState.noteForwarded relay,
      .ok (.sceneCommitted target focus selection surfaceCount commitId)⟩
  | (link, .ok (.rejected reason)) =>
    match matchingSnapshotReceipt S relay link with
    | (link, .ok (some receipt)) => acknowledge relay receipt relayState link
    | (link, _) => ⟨link, relayState, .ok (.rejected reason)⟩
  | (link, .ok _) => ⟨link, relayState, .error "displayd returned unexpected scene response"⟩
  | (link, .error transportError) => recoverScene S relay relayState transportError link

def retryingDeferredVersion (relayState : CompdRelayState) (relay : RelayScene) : Bool :=
  (relayState.pending.map fun pending => decide (pending.version = relay.version)).getD false

/-- A deferred version that comes again may already have arrived. -/
def checkDeferred (relay : RelayScene) (relayState : CompdRelayState)
    (link : DisplayLink σ ι κ) :
    DisplayLink σ ι κ × Except String (Option SceneCommitReceipt) :=
  if retryingDeferredVersion relayState relay then matchingSnapshotReceipt S relay link
  else (link, .ok none)

def staleSceneReason (kind : String) (relay : RelayScene) (relayState : CompdRelayState) :
    String :=
  "compd rejected stale " ++ kind ++ " epoch=" ++ toString relay.scene.sceneEpoch ++
    " generation=" ++ toString relay.scene.sceneGeneration ++ " floor=(" ++
    toString (ofLex relayState.versionFloor).1 ++ ", " ++
    toString (ofLex relayState.versionFloor).2 ++ ")"

def forwardCommitScene (scene : SceneCommit) (relayState : CompdRelayState)
    (link : DisplayLink σ ι κ) : Forwarded σ ι κ :=
  let relay := canonicalizeRelayScene (.ofCommit scene)
  match validateRelayScene relay true with
  | .error reason =>
    ⟨link, relayState, .ok (.rejected ("compd rejected malformed scene: " ++ reason))⟩
  | .ok _ =>
    if relayState.shouldRejectVersion relay.version then
      ⟨link, relayState, .ok (.rejected (staleSceneReason "scene" relay relayState))⟩
    else
      match checkDeferred S relay relayState link with
      | (link, .ok (some receipt)) => acknowledge relay receipt relayState link
      | (link, _) => commitScene S relay relayState link

def forwardReconcileScene (epoch : Nat) (scene : SceneCommit) (relayState : CompdRelayState)
    (link : DisplayLink σ ι κ) : Forwarded σ ι κ :=
  let relay := canonicalizeRelayScene (.ofCommit scene)
  match validateRelayScene relay true with
  | .error reason =>
    ⟨link, relayState,
      .ok (.rejected ("compd rejected malformed reconciliation scene: " ++ reason))⟩
  | .ok _ =>
    if relayState.shouldRejectVersion relay.version then
      ⟨link, relayState,
        .ok (.rejected (staleSceneReason "reconciliation scene" relay relayState))⟩
    else
      match S.send link (.reconcileScene epoch relay.toCommit) with
      | (link, .ok (.reconciled accepted sceneGeneration payloadCount)) =>
        ⟨link, relayState.noteForwarded relay,
          .ok (.reconciled accepted sceneGeneration payloadCount)⟩
      | (link, .ok event) => ⟨link, relayState, .ok event⟩
      | (link, .error reason) =>
        let reason := "compd reconciliation forward failed: " ++ reason
        ⟨link, relayState.deferLatest relay reason, .ok (.rejected reason)⟩

def forwardDisplayCommand (relayState : CompdRelayState) (link : DisplayLink σ ι κ) :
    DisplayCommand → Forwarded σ ι κ
  | .commitScene scene => forwardCommitScene S scene relayState link
  | .reconcileScene epoch scene => forwardReconcileScene S epoch scene relayState link
  | command =>
    let sent := S.send link command
    ⟨sent.1, relayState, sent.2⟩

/-- `build_response`: an error is answered as a rejection. -/
def Forwarded.response (f : Forwarded σ ι κ) : DisplayEvent :=
  match f.result with
  | .ok event => event
  | .error reason => .rejected reason

end Link

end TuffXwin.Compd
