import TuffXwin.Lib.Reach
import TuffXwin.Waylandd.Scene

/-! The client threads of waylandd on the shared scene. One step is what a thread
does under the scene lock; in between the others run, and the commit permit lets
one publication be under way at a time. -/

namespace TuffXwin.Waylandd
open Lib

/-- Where a client thread is, between two steps on the scene. `removed` and `leaving`
are the stages of the finalizer that runs when the thread ends for any reason. -/
inductive ClientPhase
  | idle | owing | due | exiting | removed | leaving
  deriving DecidableEq, Repr

/-- `changed` is a specification variable: the client has changed the scene and not
begun a commit since. -/
structure SceneClient where
  phase : ClientPhase := .idle
  changed : Bool := false
  deriving DecidableEq, Repr

/-- A commit that holds the permit, with the outcome of the budget check. -/
structure RunningCommit where
  clientId : Nat
  publication : ScenePublication
  admission : Except String SceneResourceUsage

def RunningCommit.admitted (run : RunningCommit) : Bool :=
  match run.admission with
  | .ok _ => true
  | .error _ => false

/-- A scene beyond its budget is never published, whatever the services would answer. -/
def RunningCommit.result (run : RunningCommit)
    (answer : Except CommitProductionSceneError DisplayEvent) :
    Except CommitProductionSceneError DisplayEvent :=
  match run.admission with
  | .ok _ => answer
  | .error reason => .error (.fatal reason)

/-- `handed` and `fatal` are specification variables: the publications tried, newest
first, and the generations whose commit failed fatally. -/
structure SceneService where
  sceneEpoch : Nat
  scene : CanonicalSceneState := {}
  pixelTransport : PixelTransportStore := {}
  nextClientId : Nat := 1
  clients : OrdMap Nat SceneClient := OrdMap.empty
  running : Option RunningCommit := none
  handed : List ScenePublication := []
  fatal : List Nat := []

inductive SceneInput
  | connect
  | upsert (clientId : Nat) (surfaces : List SurfaceSnapshot)
      (payloads : List PixelTransportPayload)
  /-- The thread ends, by a closed connection or an error. -/
  | exit (clientId : Nat)
  | remove (clientId : Nat)
  | invalidate (clientId : Nat)
  | lookAtRetry (clientId now : Nat)
  | begin (clientId : Nat)
  | finish (now : Nat) (answer : Except CommitProductionSceneError DisplayEvent)

/-- The next stop of a thread whose commit is over. -/
def ClientPhase.concluded (failed : Bool) : ClientPhase → Option ClientPhase
  | .leaving => none
  | _ => some (if failed then .exiting else .idle)

def isFatal : Except CommitProductionSceneError DisplayEvent → Bool
  | .error (.fatal _) => true
  | _ => false

namespace SceneService

def runs (w : SceneService) (clientId : Nat) : Bool :=
  match w.running with
  | none => false
  | some run => run.clientId = clientId

def setClient (w : SceneService) (clientId : Nat) (client : SceneClient) : SceneService :=
  { w with clients := w.clients.insert clientId client }

def conclude (w : SceneService) (clientId : Nat) (failed : Bool) : SceneService :=
  match w.clients.get? clientId with
  | none => w
  | some client =>
    match client.phase.concluded failed with
    | none => { w with clients := w.clients.erase clientId }
    | some phase => w.setClient clientId { client with phase := phase, changed := false }

def upsert (w : SceneService) (clientId : Nat) (surfaces : List SurfaceSnapshot)
    (payloads : List PixelTransportPayload) : SceneService :=
  match w.clients.get? clientId with
  | some ⟨.idle, changed⟩ =>
    match upsertClientScene w.scene w.pixelTransport clientId surfaces payloads with
    | .error _ => w.setClient clientId ⟨.exiting, changed⟩
    | .ok (scene, store) =>
      { w with scene := scene, pixelTransport := store }.setClient clientId ⟨.owing, true⟩
  | _ => w

def exit (w : SceneService) (clientId : Nat) : SceneService :=
  match w.clients.get? clientId with
  | some ⟨.idle, changed⟩ => w.setClient clientId ⟨.exiting, changed⟩
  | some ⟨.owing, changed⟩ =>
    if w.runs clientId then w else w.setClient clientId ⟨.exiting, changed⟩
  | _ => w

def remove (w : SceneService) (clientId : Nat) : SceneService :=
  match w.clients.get? clientId with
  | some ⟨.exiting, changed⟩ =>
    { w with scene := removeClientScene w.scene clientId }.setClient clientId
      ⟨.removed, changed || w.scene.clients.contains clientId⟩
  | _ => w

def invalidate (w : SceneService) (clientId : Nat) : SceneService :=
  match w.clients.get? clientId with
  | some ⟨.removed, changed⟩ =>
    { w with pixelTransport := w.pixelTransport.invalidateClient clientId }.setClient clientId
      ⟨.leaving, changed⟩
  | _ => w

def lookAtRetry (w : SceneService) (clientId now : Nat) : SceneService :=
  match w.clients.get? clientId with
  | some ⟨.idle, changed⟩ =>
    if retryIsDue w.scene now then w.setClient clientId ⟨.due, changed⟩ else w
  | _ => w

def CommitsNext : ClientPhase → Prop
  | .owing | .due | .leaving => True
  | _ => False

instance (phase : ClientPhase) : Decidable (CommitsNext phase) := by
  cases phase <;> unfold CommitsNext <;> infer_instance

/-- The snapshot of `commit_canonical_scene`, once the permit is free. -/
def begin (w : SceneService) (clientId : Nat) : SceneService :=
  match w.running, w.clients.get? clientId with
  | none, some client =>
    if CommitsNext client.phase then
      let scene := dropOlderPending w.scene
      match cachedPresentation scene with
      | some _ => { w with scene := scene }.conclude clientId false
      | none =>
        let publication := snapshotScene scene w.pixelTransport w.sceneEpoch
        let run : RunningCommit :=
          { clientId := clientId
            publication := publication
            admission := validateSceneBudget publication.surfaces publication.pixelPayloads }
        { w with
          scene := scene
          running := some run
          handed := if run.admitted then publication :: w.handed else w.handed }.setClient
            clientId { client with changed := false }
    else w
  | _, _ => w

def finish (w : SceneService) (now : Nat)
    (answer : Except CommitProductionSceneError DisplayEvent) : SceneService :=
  match w.running with
  | none => w
  | some run =>
    let result := run.result answer
    { w with
      scene := finishCommit w.scene now run.publication result
      running := none
      fatal := if isFatal result then run.publication.sceneGeneration :: w.fatal
        else w.fatal }.conclude run.clientId (isFatal result)

def step (w : SceneService) : SceneInput → SceneService
  | .connect =>
    { w with nextClientId := w.nextClientId + 1 }.setClient w.nextClientId {}
  | .upsert clientId surfaces payloads => w.upsert clientId surfaces payloads
  | .exit clientId => w.exit clientId
  | .remove clientId => w.remove clientId
  | .invalidate clientId => w.invalidate clientId
  | .lookAtRetry clientId now => w.lookAtRetry clientId now
  | .begin clientId => w.begin clientId
  | .finish now answer => w.finish now answer

def system : System SceneService SceneInput where
  init w := ∃ epoch, w = { sceneEpoch := epoch }
  next := step

end SceneService

end TuffXwin.Waylandd
