import TuffXwin.Headless.Destruction

/-! What keeps the core of a client from a panic. Its payloads are never too short for what a
handler reads and its tables never lack an object that is live, so nothing is left but the sums
of coordinates, the bytes of a row and the ids and names the core hands out. -/

namespace TuffXwin.Headless
open Lib
open WaylandWire (WaylandMessage readU32 writeU32 displayId)

/-- The request computes nothing beyond the words it is computed in. -/
def RequestFits (core : HeadlessWireCore) (interface : Interface) (r : Request) : Prop :=
  match interface with
  | .wlSurface => r.opcode = 6 → OutputEdgesFit core
  | .wlDataDevice =>
    (r.opcode = 0 → ServerIdsLeft core 1) ∧
      (r.opcode = 1 → readU32 r.payload ≠ 0 → ∀ seatId,
        core.dataDevice.devices.get? r.id = some seatId →
          ServerIdsLeft core (core.devicesOfSeat seatId).length)
  | .zwlrScreencopyManagerV1 => r.opcode = 1 → RegionFits r
  | .zwlrLayerShellV1 => r.opcode = 0 → NewPlacementFits core r
  | .zwlrLayerSurfaceV1 => ∀ f, placementChange r = some f →
    core.layerShell.ChangeFits r.id f core.output
  | _ => True

def Operation.Fits (core : HeadlessWireCore) : Operation → Prop
  | .dispatch message fds environment => ∀ object args,
    core.object? message.header.objectId = some object →
      RequestFits (core.readied fds) object.interface (requestOf message args environment)
  | .acknowledge _ => True
  | .addOutput _ => core.nextGlobalName < u32Max
  | .reconfigureOutput output _ => OutputEdgesFit (core.reconfigured output)
  | .removeOutput .. => OutputEdgesFit core
  | .recalculate _ => OutputEdgesFit core

def calmTerms : Terms where
  level := .off fun _ => false
  safe := True

/-- Every live input method has its entry. -/
def Methodical (f : Frame) : Prop := Mirrors f.objects .zwpInputMethodV2 f.methods

section Methodical

variable {f : Frame} {id : Nat}

theorem Methodical.registered (h : Methodical f) {object : WireObject}
    (havailable : f.registry.Available id) (hne : object.interface ≠ .zwpInputMethodV2) :
    Methodical (f.registered id object) :=
  Mirrors.registered h havailable.none hne

theorem Methodical.retired (h : Methodical f) {interface : Interface}
    (hlive : LiveAs f.objects interface id) (hne : interface ≠ .zwpInputMethodV2) :
    Methodical (f.retired id) := by
  obtain ⟨object, hobject, rfl⟩ := hlive
  exact Mirrors.retired h hobject hne

theorem methodical_stable : Stable calmTerms Methodical where
  sent := fun _ _ h _ => h
  registered := fun _ _ _ _ h havailable hplain =>
    h.registered havailable (Interface.plain_ne hplain rfl)
  retired := fun _ _ object h hobject hplain =>
    h.retired ⟨object, hobject, rfl⟩ (Interface.plain_ne hplain rfl)
  served := fun _ h _ => h
  announced := by
    intro f h
    obtain ⟨_, _, heq⟩ := f.announced_eq
    rw [heq]
    exact h
  surfaces := fun _ _ h _ => h
  outputs := fun _ _ h _ => h
  roles := fun _ _ h _ => h
  serials := fun _ _ h _ => h
  created := fun _ _ _ h havailable _ => h.registered havailable (by simp)
  destroyed := fun _ _ h hlive _ => h.retired hlive (by simp)
  moved := by
    intro f id current h _ _ _
    obtain ⟨_, _, heq⟩ := f.moved_eq id current
    rw [heq]
    exact h
  bound := fun _ _ _ _ h _ _ => h
  outputEvent := fun _ _ _ _ _ _ hbanned => absurd hbanned.2 (by simp)
  method := fun _ _ _ seat h havailable => Mirrors.added h havailable.none rfl seat
  unmade := fun _ _ _ _ hlasting => hlasting.elim
  pool := fun _ _ _ _ _ h havailable _ => h.registered havailable (by simp)
  poolResized := fun _ _ _ _ _ h _ => h
  poolGone := fun _ _ _ h hlive _ => h.retired hlive (by simp)
  buffer := fun _ _ _ _ _ _ _ _ _ _ h havailable _ => h.registered havailable (by simp)
  bufferGone := fun _ _ _ h hlive _ => h.retired hlive (by simp)
  undone := by
    intro f id object h havailable
    have hsame : (f.registry.objects.insert id object).erase id = f.registry.objects :=
      erase_insert havailable.none
    change Mirrors ((f.registry.objects.insert id object).erase id) .zwpInputMethodV2 f.methods
    rw [hsame]
    exact h
  seat := fun _ _ h => h
  pointer := fun _ _ _ _ _ h havailable _ _ => h.registered havailable (by simp)
  pointerGone := fun _ _ _ h hlive _ => h.retired hlive (by simp)
  keyboard := fun _ _ _ _ _ h havailable _ => h.registered havailable (by simp)

theorem methodical_lasting : Lasting Methodical where
  fresh := fun _ _ => freshCore_mirrors .zwpInputMethodV2 (by simp) _ _
  readied := fun _ h => h
  topology := fun _ _ h => h
  acknowledged := by
    intro f id registry h hregistry
    change Mirrors registry.objects .zwpInputMethodV2 f.methods
    rw [acknowledgeDeleteId_objects hregistry]
    exact h

end Methodical

variable {core : HeadlessWireCore}

theorem target_off (interface : Interface) (id : Nat) :
    Target (.off fun _ => false) core interface id :=
  fun _ _ hbanned => absurd hbanned.2 (by simp)

theorem RequestFits.admits {interface : Interface} {r : Request}
    (h : RequestFits core interface r)
    (hmethod : interface = .zwpInputMethodV2 → core.inputMethod.methods.contains r.id = true) :
    Admits calmTerms core interface r := by
  have hlevel : calmTerms.level ≠ .declared := by simp [calmTerms]
  cases interface with
  | wlSurface => exact ⟨fun _ _ _ _ => trivial, fun hopcode _ => h hopcode⟩
  | wlDataDevice =>
    exact ⟨fun hopcode => ⟨fun hon => absurd hon hlevel, fun _ => h.1 hopcode⟩, fun hopcode =>
      ⟨fun _ _ _ _ => target_off _ _, fun hon => absurd hon hlevel, fun _ seatId hseat hsource =>
        h.2 hopcode hsource seatId hseat⟩⟩
  | wlDataOffer =>
    exact fun _ => ⟨fun _ _ => target_off _ _, fun _ hon => absurd hon hlevel,
      fun _ hon => absurd hon hlevel⟩
  | zwpTextInputV3 => exact fun _ hon => absurd hon hlevel
  | zwpInputMethodV2 => exact ⟨fun _ => hmethod rfl, fun _ hon => absurd hon hlevel⟩
  | zxdgOutputManagerV1 => exact fun _ _ hon => absurd hon hlevel
  | zwlrScreencopyManagerV1 => exact fun _ hopcode => h hopcode
  | wlSubcompositor => exact fun _ _ _ _ => trivial
  | xdgWmBase => exact fun _ _ _ _ => trivial
  | zwlrLayerShellV1 => exact ⟨fun _ hopcode => h hopcode, fun _ _ _ _ => trivial⟩
  | zwlrLayerSurfaceV1 => exact fun _ => h
  | wlRegistry => exact fun _ => trivial
  | wlCompositor => exact fun _ => trivial
  | wlSeat => exact fun _ => trivial
  | xdgSurface => exact fun _ => trivial
  | _ => trivial

theorem Operation.Fits.admitted {operation : Operation} (h : operation.Fits core)
    (hmethods : Methodical core.frame) : operation.Admitted calmTerms core := by
  cases operation with
  | dispatch message fds environment =>
    intro object args hobject
    refine (h object args hobject).admits fun hinterface => ?_
    exact (hmethods _).mp ⟨object, hobject, hinterface⟩
  | acknowledge event => trivial
  | addOutput output => exact fun _ => h
  | reconfigureOutput output environment => exact ⟨fun _ => trivial, fun _ => h⟩
  | removeOutput name environment => exact fun _ => h
  | recalculate environment => exact fun _ => h

/-- A client whose operations stay within the bounds never makes the core panic. -/
theorem clients_never_panic {client : Client}
    (h : clients.Reach (fun client operation => operation.Fits client.core) client) :
    client.fault ≠ some .panicked := by
  have hsound : Sound calmTerms Methodical client :=
    h.invariant (fun _ => Sound.fresh methodical_lasting) fun client operation hsound hfits =>
      hsound.after fun hfault => perform_kept methodical_stable methodical_lasting
        (hsound.holds hfault) (hfits.admitted (hsound.holds hfault).kept)
  exact hsound.calm trivial

theorem Operation.Fits.at {message : WaylandMessage} {fds : List Nat} {environment : Environment}
    (object : WireObject) (hobject : core.object? message.header.objectId = some object)
    (h : ∀ args, RequestFits (core.readied fds) object.interface
      (requestOf message args environment)) :
    (Operation.dispatch message fds environment).Fits core := by
  intro found args hfound
  obtain rfl : object = found := Option.some.inj (hobject.symm.trans hfound)
  exact h args

theorem layerClient_never_panics : layerClient.fault ≠ some .panicked := by
  refine clients_never_panic
    (.next _ (.next _ (.next _ (.next _ (.next _ (.init ⟨true, true, rfl⟩) ?_) ?_) ?_) ?_) ?_)
  · exact .at ⟨.wlDisplay, 1⟩ (by decide +kernel) fun _ => trivial
  · exact .at ⟨.wlRegistry, 1⟩ (by decide +kernel) fun _ => trivial
  · exact .at ⟨.wlRegistry, 1⟩ (by decide +kernel) fun _ => trivial
  · exact .at ⟨.wlCompositor, 4⟩ (by decide +kernel) fun _ => trivial
  · refine .at ⟨.zwlrLayerShellV1, 4⟩ (by decide +kernel) fun _ _ => ?_
    change PlacementFits ⟨0, 0, 1920, 1080⟩ {} none (0, 0)
    constructor <;> decide

end TuffXwin.Headless
