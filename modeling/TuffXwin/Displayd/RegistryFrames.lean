import TuffXwin.Displayd.Runs

/-! What output events do to the state of displayd, said once for every relation between
the states before and after: they register, disable and drop outputs, adopt an epoch
and note their sequence. -/

namespace TuffXwin.Displayd
open Lib

/-- A relation kept by everything an output event does. -/
structure RegistryRelation (R : DisplayState → DisplayState → Prop) : Prop where
  refl : ∀ s, R s s
  trans : ∀ {a b c}, R a b → R b c → R a c
  adopted : ∀ s epoch, R s { s with displayEpoch := epoch }
  noted : ∀ s event, R s (Display.noteSequence s event)
  registered : ∀ s id state bounds hb instanceId cadence,
    R s (registerOutput s id (connectedRuntime s state bounds hb instanceId cadence))
  disabled : ∀ s id, R s (s.modifyOutput id Display.disableRuntime)
  dropped : ∀ s id, R s { s with outputs := s.outputs.erase id }

namespace RegistryRelation

variable {β : Type} [DisplayBackend β] {R : DisplayState → DisplayState → Prop}
  (hR : RegistryRelation R)

include hR

theorem connectOutput (d : Display β) (instanceId : Nat) (id : String)
    (geometry : OutputGeometry) (cadence : PresentationCadence) :
    R d.state (d.connectOutput instanceId id geometry cadence).1.state := by
  unfold Display.connectOutput
  split
  · exact hR.refl _
  · split
    · exact hR.refl _
    · split
      · exact hR.refl _
      · exact hR.registered ..

theorem resetBackend (d : Display β) (i : Nat) : R d.state (d.resetBackend i).state := by
  unfold Display.resetBackend
  generalize (d.state.outputs.filter fun _ r => r.backendInstanceId = i).entries = entries
  induction entries generalizing d with
  | nil => exact hR.refl _
  | cons e rest ih => exact hR.trans (hR.dropped d.state e.1) (ih (d.dropOutput e.1 e.2))

theorem applyLifecycle (d : Display β) (event : BackendOutputEvent) :
    R d.state (d.applyLifecycle event).1.state := by
  cases event with
  | connected i id q geometry cadence => exact hR.connectOutput d i id geometry cadence
  | reconfigured i id q geometry cadence => exact hR.connectOutput d i id geometry cadence
  | disabled i id q generation =>
    dsimp only [Display.applyLifecycle]
    unfold Display.disableOutput
    split
    · exact hR.refl _
    · split_ifs
      · exact hR.refl _
      · exact hR.disabled ..
  | disconnected i id q generation =>
    dsimp only [Display.applyLifecycle]
    unfold Display.disconnectOutput
    split
    · exact hR.refl _
    · split_ifs
      · exact hR.refl _
      · exact hR.dropped ..
  | backendReset i q => exact hR.resetBackend d i

theorem adoptEpoch {s s' : DisplayState} {i : Nat} (h : adoptEpoch s i = some s') : R s s' := by
  unfold Displayd.adoptEpoch at h
  split_ifs at h
  · obtain rfl := Option.some.inj h
    exact hR.adopted s i
  · obtain rfl := Option.some.inj h
    exact hR.refl s

theorem applyInSequence (d : Display β) (event : BackendOutputEvent) :
    R d.state (d.applyInSequence event).1.state := by
  have hlifecycle := hR.applyLifecycle d event
  unfold Display.applyInSequence
  split
  · rename_i hl
    rw [hl] at hlifecycle
    exact hlifecycle
  · rename_i hl
    rw [hl] at hlifecycle
    exact hR.trans hlifecycle (hR.noted _ event)

theorem applyBackendOutputEvent (d : Display β) (event : BackendOutputEvent) :
    R d.state (d.applyBackendOutputEvent event).1.state := by
  unfold Display.applyBackendOutputEvent
  split
  · exact hR.refl _
  · rename_i s hadopt
    have hs := hR.adoptEpoch hadopt
    have hsequence := hR.applyInSequence (⟨s, d.backend⟩ : Display β) event
    dsimp only
    split
    · exact hR.trans hs hsequence
    · split_ifs
      · exact hs
      · exact hs
      · exact hR.trans hs hsequence

theorem outputCommand (d : Display β) (event : BackendOutputEvent) (done : DisplayEvent) :
    R d.state (d.outputCommand event done).1.state := by
  have happly := hR.applyBackendOutputEvent d event
  unfold Display.outputCommand
  split
  all_goals
    rename_i hd
    rw [hd] at happly
    exact happly

theorem applyEvents (accepting : Nat → Bool) (srv : Server β)
    (events : List BackendOutputEvent) :
    R srv.display.state (Server.applyEvents accepting srv events).1.display.state := by
  induction events generalizing srv with
  | nil => exact hR.refl _
  | cons event rest ih =>
    have happly := hR.applyBackendOutputEvent srv.display event
    unfold Server.applyEvents
    split
    · rename_i hd
      rw [hd] at happly
      exact happly
    · rename_i d _ hd
      rw [hd] at happly
      have hpublish := Server.publishTopologyDelta_display { srv with display := d } accepting
        event
      split
      · rename_i hp
        rw [hp] at hpublish
        exact hpublish ▸ happly
      · rename_i srv' _ hp
        rw [hp] at hpublish
        dsimp only at hpublish
        have hrest := ih srv'
        rw [hpublish] at hrest
        exact hR.trans happly hrest

end RegistryRelation

end TuffXwin.Displayd
