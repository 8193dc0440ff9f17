import TuffXwin.Displayd.Obligations

/-! Runs of displayd. A step of the process is a sequence of moves of its state,
so what every move preserves holds in every state of every run whose commands
the policy allows. -/

namespace TuffXwin.Displayd
open Lib

variable {β : Type}
variable {srv : Server β}

namespace Server

theorem publishTopologyDelta_display (srv : Server β) (accepting : Nat → Bool)
    (event : BackendOutputEvent) :
    (srv.publishTopologyDelta accepting event).1.display = srv.display := by
  unfold publishTopologyDelta
  dsimp only
  split
  · rfl
  · rfl

theorem subscribe_display (srv : Server β) (epoch sequence : Nat) :
    (srv.subscribe epoch sequence).1.display = srv.display := by
  unfold subscribe
  dsimp only
  split_ifs
  · rfl
  · rfl
  · rfl

variable [DisplayBackend β] {P : MovePolicy}

theorem applyEvents_moves (hreg : P.registry) (accepting : Nat → Bool) (srv : Server β)
    (events : List BackendOutputEvent) :
    Moves P srv.display.state (applyEvents accepting srv events).1.display.state := by
  induction events generalizing srv with
  | nil => exact .refl
  | cons event rest ih =>
    have happly := applyBackendOutputEvent_moves hreg srv.display event
    unfold applyEvents
    split
    · rename_i hd
      rw [hd] at happly
      exact happly
    · rename_i d _ hd
      rw [hd] at happly
      have hpublish := publishTopologyDelta_display { srv with display := d } accepting event
      split
      · rename_i hp
        rw [hp] at hpublish
        exact hpublish ▸ happly
      · rename_i srv' _ hp
        rw [hp] at hpublish
        dsimp only at hpublish
        have hrest := ih srv'
        rw [hpublish] at hrest
        exact happly.trans hrest

/-- What the policy asks of one step: of the command of a connection, in the
state its backend events leave. -/
def StepAllowed (P : MovePolicy) (srv : Server β) : Input β → Prop
  | .client conn =>
    ∀ srv' command, srv.halted = false →
      applyEvents conn.accepting srv.polled.1 srv.polled.2 = (srv', .ok ()) →
      conn.request = some (.command command) →
      CommandAllowed P srv'.display conn.env conn.source command
  | .restart .. => True

theorem handleClient_moves (hreg : P.registry) (srv : Server β) (conn : Connection)
    (hone : SingleOutput srv.display.state)
    (hP : ∀ srv' command, applyEvents conn.accepting srv.polled.1 srv.polled.2 = (srv', .ok ()) →
      conn.request = some (.command command) →
      CommandAllowed P srv'.display conn.env conn.source command) :
    Moves P srv.display.state (srv.handleClient conn).1.display.state := by
  have hevents := applyEvents_moves hreg conn.accepting srv.polled.1 srv.polled.2
  unfold handleClient
  dsimp only
  split
  · rename_i he
    rw [he] at hevents
    exact hevents
  · rename_i srv' _ he
    rw [he] at hevents
    have hone' : SingleOutput srv'.display.state :=
      hevents.invariant (fun _ _ h hm => h.move hm) hone
    split
    · exact hevents
    · rename_i request hrequest
      cases request with
      | subscribe epoch sequence =>
        dsimp only [handleRequest]
        rw [subscribe_display]
        exact hevents
      | command command =>
        exact hevents.trans (handleDisplayCommand_moves srv'.display conn.env conn.source
          srv'.topologySequence command hone' (hP srv' command he hrequest))

theorem step_moves (hreg : P.registry) {input : Input β} (hone : SingleOutput srv.display.state)
    (hP : StepAllowed P srv input) : Moves P srv.display.state (srv.step input).display.state := by
  cases input with
  | client conn =>
    unfold step
    dsimp only
    split_ifs with hhalted
    · exact .refl
    · exact handleClient_moves hreg srv conn hone fun srv' command he hrequest =>
        hP srv' command ((Bool.not_eq_true _).mp hhalted) he hrequest
  | restart epoch keeps backend => exact .single (.restart hreg)

/-- The runs of displayd whose commands the policy allows. -/
def Run (P : MovePolicy) : Server β → Prop := (system β).Reach (StepAllowed P)

theorem singleOutput_run (hreg : P.registry) (h : Run P srv) : SingleOutput srv.display.state := by
  refine System.Reach.invariant (I := fun srv => SingleOutput srv.display.state) ?_ ?_ h
  · rintro _ ⟨epoch, keeps, backend, rfl⟩ c o ho
    cases ho
  · intro srv input hone hP
    exact (step_moves hreg hone hP).invariant (fun _ _ h hm => h.move hm) hone

/-- What holds at first and what every move preserves holds throughout a run. -/
theorem Run.invariant (hreg : P.registry) {I : DisplayState → Prop}
    (hinit : ∀ epoch keeps, I (DisplayState.load epoch (startOutputs keeps) none []))
    (hmove : ∀ s s', SingleOutput s → I s → Move P s s' → I s') (h : Run P srv) :
    I srv.display.state := by
  refine System.Reach.invariant_with (I := fun srv => I srv.display.state)
    (fun _ => singleOutput_run hreg) ?_ ?_ h
  · rintro _ ⟨epoch, keeps, backend, rfl⟩
    exact hinit epoch keeps
  · intro srv input hone hI hP
    have hmoves := step_moves hreg hone hP
    have hboth := hmoves.invariant (fun s s' (h : SingleOutput s ∧ I s) hm =>
      ⟨h.1.move hm, hmove s s' h.1 h.2 hm⟩) ⟨hone, hI⟩
    exact hboth.2

/-- No policy leaves out any run. -/
theorem Run.any (h : (system β).Reachable srv) : Run anyMove srv := by
  refine h.mono fun srv input _ => ?_
  cases input with
  | restart => trivial
  | client conn => exact fun srv' command _ _ _ => commandAllowed_freely fun _ => trivial

/-- The state after a fresh start on a backend and a list of requests. -/
def serve (backend : β) (requests : List Request) : Server β :=
  (system β).run (start 1 false backend none [])
    (requests.map fun request => .client { request := some request })

theorem serve_reachable (backend : β) (requests : List Request) :
    (system β).Reachable (serve backend requests) := by
  have hinit : (system β).init (start 1 false backend none []) := ⟨1, false, backend, rfl⟩
  exact System.Reachable.run (.init hinit) _

end Server

end TuffXwin.Displayd
