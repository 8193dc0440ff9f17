import TuffXwin.Lib.Machine
import TuffXwin.Lib.Reach
import TuffXwin.Watchdog.Inspection

/-! The processes of a profile. A component that exits is started again until its limit, and
a failed spawn is final; the watchdog asks for the degraded profile after three exits. Both
agree on the components that stay down only when they go down that late. -/

namespace TuffXwin.Sessiond
open Lib Watchdog

variable {restartLimit : Nat}
variable {spawned : Option Nat}

/-- A component, its reported state and the process that runs it. -/
structure RuntimeComponent where
  component : DesktopComponent
  state : SessionLaunchComponentState
  child : Option Nat := none
  deriving DecidableEq, Repr

variable {components : List RuntimeComponent} {runtime : RuntimeComponent}

/-- The state before any start; `resolved` is where the command was found. -/
def baseComponentState (component : DesktopComponent) (resolved : Option String) :
    SessionLaunchComponentState :=
  { id := component.id
    role := component.role
    critical := component.critical
    command := component.command
    resolvedCommand := resolved
    state := if resolved.isSome then .ready else .missing
    pid := none
    restartCount := 0
    lastExitStatus := none }

/-- What `try_wait` says about a process. -/
inductive TryWait
  | running | exited (code : Option Int) | error (text : String)
  deriving DecidableEq, Repr

/-- `restart_count += 1` on the word of the count. -/
def bump (count : Nat) : Nat := (count + 1) % (u32Max + 1)

namespace RuntimeComponent

def new (component : DesktopComponent) (resolved : Option String) : RuntimeComponent :=
  { component, state := baseComponentState component resolved }

/-- `spawned` is the process, if one could be started. -/
def spawn (spawned : Option Nat) (runtime : RuntimeComponent) : RuntimeComponent :=
  match runtime.state.resolvedCommand with
  | none => { runtime with state := { runtime.state with state := .missing, pid := none } }
  | some _ =>
    match spawned with
    | some pid =>
      { runtime with
        state := { runtime.state with state := .spawned, pid := some pid }
        child := some pid }
    | none =>
      { runtime with
        state := { runtime.state with state := .failed, pid := none, lastExitStatus := some (-1) }
        child := none }

def noteExit (code : Option Int) (runtime : RuntimeComponent) : RuntimeComponent :=
  { runtime with
    state :=
      { runtime.state with
        pid := none
        lastExitStatus := code
        restartCount := bump runtime.state.restartCount }
    child := none }

def fail (runtime : RuntimeComponent) : RuntimeComponent :=
  { runtime with state := { runtime.state with state := .failed } }

/-- Whether there was an event, and the component after it. -/
def pollAndRestart (restartLimit : Nat) (wait : TryWait) (spawned : Option Nat)
    (runtime : RuntimeComponent) : Except String (Bool × RuntimeComponent) :=
  match runtime.child with
  | none => .ok (false, runtime)
  | some _ =>
    match wait with
    | .error text => .error text
    | .running => .ok (false, runtime)
    | .exited code =>
      let exited := runtime.noteExit code
      if runtime.component.critical ∧ exited.state.restartCount ≤ restartLimit then
        .ok (true, exited.spawn spawned)
      else
        .ok (true, exited.fail)

def stop (runtime : RuntimeComponent) : RuntimeComponent :=
  { runtime with state := { runtime.state with pid := none }, child := none }

end RuntimeComponent

/-! The runs of the components of a session. -/

/-- What happens to the components: a start when the profile becomes active, a look at the
process, a restart asked for from outside, and the components of another profile. -/
inductive ComponentEvent
  | activated (index : Nat) (spawned : Option Nat)
  | polled (index : Nat) (wait : TryWait) (spawned : Option Nat)
  | recovered (index : Nat) (spawned : Option Nat)
  | switched (profile : DesktopProfile) (resolve : DesktopComponent → Option String)
  deriving Inhabited

def freshComponents (profile : DesktopProfile) (resolve : DesktopComponent → Option String) :
    List RuntimeComponent :=
  profile.sessionComponents.map fun component => .new component (resolve component)

/-- A component whose process cannot be looked at is left as it is. -/
def polledComponent (restartLimit : Nat) (wait : TryWait) (spawned : Option Nat)
    (runtime : RuntimeComponent) : RuntimeComponent :=
  match runtime.pollAndRestart restartLimit wait spawned with
  | .ok polled => polled.2
  | .error _ => runtime

def componentRuns (restartLimit : Nat) : System (List RuntimeComponent) ComponentEvent where
  init components := ∃ profile resolve, components = freshComponents profile resolve
  next components event :=
    match event with
    | .activated index spawned => components.modify index (·.spawn spawned)
    | .polled index wait spawned =>
      components.modify index (polledComponent restartLimit wait spawned)
    | .recovered index spawned => components.modify index fun runtime => runtime.stop.spawn spawned
    | .switched profile resolve => freshComponents profile resolve

/-- A critical component that stays down: nothing starts it again. -/
def RuntimeComponent.Abandoned (runtime : RuntimeComponent) : Prop :=
  runtime.component.critical = true ∧ runtime.state.state = .failed ∧ runtime.child = none

/-- The watchdog asks for the degraded profile on every component that stays down. -/
def Escalates (components : List RuntimeComponent) : Prop :=
  ∀ runtime ∈ components, runtime.Abandoned →
    ∀ alive, (inspectComponent alive runtime.state).action = .degradedProfile

/-- A failed spawn is one of a component that exited three times. -/
def SpawnsLate (spawned : Option Nat) (runtime : RuntimeComponent) : Prop :=
  spawned = none → runtime.component.critical = true → 3 ≤ runtime.state.restartCount

/-- An exit that is not followed by a process is the third one or a later one. -/
def ExitsLate (restartLimit : Nat) (spawned : Option Nat) (runtime : RuntimeComponent) : Prop :=
  runtime.component.critical = true →
    restartLimit < bump runtime.state.restartCount ∨ spawned = none →
      3 ≤ bump runtime.state.restartCount

def LeavesLate (restartLimit : Nat) (components : List RuntimeComponent) :
    ComponentEvent → Prop
  | .activated index spawned | .recovered index spawned =>
    ∀ runtime ∈ components[index]?, SpawnsLate spawned runtime
  | .polled index (.exited _) spawned =>
    ∀ runtime ∈ components[index]?, ExitsLate restartLimit spawned runtime
  | .polled _ _ _ | .switched _ _ => True

/-- The state tells the component's own criticality, and it counts the exits of one that
stays down. -/
structure RuntimeComponent.Counted (runtime : RuntimeComponent) : Prop where
  critical : runtime.state.critical = runtime.component.critical
  late : runtime.Abandoned → 3 ≤ runtime.state.restartCount

namespace RuntimeComponent.Counted

theorem new (component : DesktopComponent) (resolved : Option String) :
    (RuntimeComponent.new component resolved).Counted := by
  refine ⟨rfl, ?_⟩
  rintro ⟨-, hfailed, -⟩
  cases resolved <;> cases hfailed

/-- Whatever was before it, a start leaves a component up or says that it stays down. -/
theorem spawn (hcritical : runtime.state.critical = runtime.component.critical)
    (hlate : SpawnsLate spawned runtime) : (runtime.spawn spawned).Counted := by
  unfold RuntimeComponent.spawn
  cases runtime.state.resolvedCommand with
  | none => exact ⟨hcritical, fun habandoned => by cases habandoned.2.1⟩
  | some command =>
    cases spawned with
    | some pid => exact ⟨hcritical, fun habandoned => by cases habandoned.2.1⟩
    | none => exact ⟨hcritical, fun habandoned => hlate rfl habandoned.1⟩

theorem polled {wait : TryWait} (h : runtime.Counted)
    (hlate : ∀ code, wait = .exited code → ExitsLate restartLimit spawned runtime) :
    (polledComponent restartLimit wait spawned runtime).Counted := by
  unfold polledComponent RuntimeComponent.pollAndRestart
  cases runtime.child with
  | none => exact h
  | some pid =>
    cases wait with
    | error text => exact h
    | running => exact h
    | exited code =>
      have hexits : ExitsLate restartLimit spawned runtime := hlate code rfl
      dsimp only
      split_ifs with hrestart
      · exact spawn h.critical fun hspawned hcritical => hexits hcritical (.inr hspawned)
      · refine ⟨h.critical, fun habandoned => ?_⟩
        have hcritical : runtime.component.critical = true := habandoned.1
        refine hexits hcritical (.inl ?_)
        by_contra hlimit
        exact hrestart ⟨hcritical, not_lt.mp hlimit⟩

end RuntimeComponent.Counted

def AllCounted (components : List RuntimeComponent) : Prop :=
  ∀ runtime ∈ components, runtime.Counted

theorem counted_fresh (profile : DesktopProfile) (resolve : DesktopComponent → Option String) :
    AllCounted (freshComponents profile resolve) := by
  intro runtime hmem
  obtain ⟨component, -, rfl⟩ := List.mem_map.mp hmem
  exact .new component (resolve component)

theorem counted_modify {index : Nat} {change : RuntimeComponent → RuntimeComponent}
    (h : AllCounted components)
    (hchange : ∀ runtime ∈ components[index]?, runtime.Counted → (change runtime).Counted) :
    AllCounted (components.modify index change) := by
  intro runtime hmem
  obtain ⟨position, hposition⟩ := List.mem_iff_getElem?.mp hmem
  rw [List.getElem?_modify] at hposition
  split_ifs at hposition with hindex
  · obtain ⟨before, hbefore, rfl⟩ := Option.map_eq_some_iff.mp hposition
    exact hchange before (hindex ▸ hbefore) (h before (List.mem_of_getElem? hbefore))
  · exact h runtime (List.mem_of_getElem? (by simpa using hposition))

theorem counted_next {event : ComponentEvent} (h : AllCounted components)
    (hlate : LeavesLate restartLimit components event) :
    AllCounted ((componentRuns restartLimit).next components event) := by
  cases event with
  | activated index spawned =>
    exact counted_modify h fun runtime hmem hcounted => .spawn hcounted.critical (hlate runtime hmem)
  | polled index wait spawned =>
    refine counted_modify h fun runtime hmem hcounted => hcounted.polled ?_
    rintro code rfl
    exact hlate runtime hmem
  | recovered index spawned =>
    refine counted_modify h fun runtime hmem hcounted => ?_
    exact .spawn hcounted.critical fun hspawned => hlate runtime hmem hspawned
  | switched profile resolve => exact counted_fresh profile resolve

theorem escalates_of_counted (h : AllCounted components) : Escalates components := by
  intro runtime hmem habandoned alive
  have hcounted := h runtime hmem
  rw [inspectComponent_failed (hcounted.critical.trans habandoned.1) habandoned.2.1]
  exact hcounted.late habandoned

theorem reach_counted
    (h : (componentRuns restartLimit).Reach (LeavesLate restartLimit) components) :
    AllCounted components := by
  refine h.invariant (fun start hstart => ?_) fun before event hcounted hlate => ?_
  · obtain ⟨profile, resolve, rfl⟩ := hstart
    exact counted_fresh profile resolve
  · exact counted_next hcounted hlate

theorem reach_escalates {restartLimit : Nat} {components : List RuntimeComponent}
    (h : (componentRuns restartLimit).Reach (LeavesLate restartLimit) components) :
    Escalates components :=
  escalates_of_counted (reach_counted h)

/-- One critical component, installed. -/
def soleProfile : DesktopProfile :=
  { id := "seat-shell"
    displayName := "Seat shell"
    protocol := .waylandNative
    summary := "one shell"
    degradedProfileId := some "rescue"
    brokerServices := [.sessiond]
    sessionComponents :=
      [{ id := "shell", role := .shell, command := ["shell"], critical := true }] }

def installed (component : DesktopComponent) : Option String :=
  component.command.head?.map ("/usr/bin/" ++ ·)

/-- Three exits, the last one beyond a limit of two. -/
def crashes : List ComponentEvent :=
  [.activated 0 (some 100), .polled 0 (.exited (some 1)) (some 101),
    .polled 0 (.exited (some 1)) (some 102), .polled 0 (.exited (some 1)) none]

theorem crashes_escalate :
    Escalates ((componentRuns 2).run (freshComponents soleProfile installed) crashes) := by
  have hstart : (componentRuns 2).Reach (LeavesLate 2) (freshComponents soleProfile installed) :=
    .init ⟨soleProfile, installed, rfl⟩
  refine reach_escalates ((((hstart.next (.activated 0 (some 100)) ?_).next
    (.polled 0 (.exited (some 1)) (some 101)) ?_).next
    (.polled 0 (.exited (some 1)) (some 102)) ?_).next (.polled 0 (.exited (some 1)) none) ?_)
  all_goals
    intro runtime hmem
    obtain rfl := Option.some.inj hmem
  · intro hspawned
    cases hspawned
  · intro _
    decide
  · intro _
    decide
  · intro _
    decide

theorem spawnFailure_not_escalates :
    ∃ restartLimit components,
      (componentRuns restartLimit).Reachable components ∧ ¬ Escalates components := by
  have hinit : (componentRuns 2).Reachable (freshComponents soleProfile installed) :=
    .init ⟨soleProfile, installed, rfl⟩
  refine ⟨2, _, hinit.run [.activated 0 none], fun hescalates => ?_⟩
  have habandoned : RuntimeComponent.Abandoned
      ((RuntimeComponent.new
        { id := "shell", role := .shell, command := ["shell"], critical := true }
        (some "/usr/bin/shell")).spawn none) := ⟨rfl, rfl, rfl⟩
  have haction := hescalates _ List.mem_cons_self habandoned fun _ => true
  cases haction

end TuffXwin.Sessiond
