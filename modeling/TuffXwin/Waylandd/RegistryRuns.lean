import TuffXwin.Headless.Managers
import TuffXwin.Lib.Reach
import TuffXwin.Waylandd.SceneStore
import TuffXwin.Waylandd.SelectionHandoff

/-! The surface registry of the waylandd process. The threads of the clients change it under
its lock. A connection of another service works on a copy of it that it made before it had
read its request, and a handoff that it applies puts the copy back. -/

namespace TuffXwin.Waylandd
open Lib

variable {clientId other : Nat}
variable {surface : WaylandSurfaceState} {now : Nat}

def clientStart (clientId : Nat) : String := "client-" ++ toString clientId ++ "-"

/-- The id of the surface starts as those of this client do. -/
def ofClient (clientId : Nat) (surface : WaylandSurfaceState) : Bool :=
  (clientStart clientId).toList.isPrefixOf surface.id.toList

/-- What the registry reads of a client's core; the surfaces come in any order. -/
structure RegistryCore where
  surfaces : List (Nat × SurfaceInstance)
  roles : OrdMap Nat Headless.SurfaceRoleKind := OrdMap.empty

def registryRole : Option Headless.SurfaceRoleKind → WaylandSurfaceRole
  | some .xdgSurface => .toplevel
  | some .popup => .popup
  | some .layerSurface => .layer {}
  | _ => .toplevel

def registrySurface (clientId : Nat) (core : RegistryCore) (entry : Nat × SurfaceInstance) :
    WaylandSurfaceState where
  id := clientStart clientId ++ ("surface-" ++ toString entry.1)
  appId := "production-app"
  role := registryRole (core.roles.get? entry.1)
  mapped := entry.2.bufferId.isSome
  bufferAttached := entry.2.bufferId.isSome
  bufferHandle := entry.2.bufferId.map toString
  bufferGeneration := entry.2.bufferId.getD 0
  damageRects := entry.2.damage

def clientSurfaces (clientId : Nat) (core : RegistryCore) : List WaylandSurfaceState :=
  core.surfaces.map (registrySurface clientId core)

def syncCoreToGlobalRegistry (registry : SurfaceRegistrySnapshot) (clientId : Nat)
    (core : RegistryCore) (now : Nat) : SurfaceRegistrySnapshot :=
  { registry with
    surfaces := registry.surfaces.filter (!ofClient clientId ·) ++ clientSurfaces clientId core
    generation := satAdd registry.generation 1
    unixTimestamp := now }

def removeClientFromGlobalRegistry (registry : SurfaceRegistrySnapshot) (clientId now : Nat) :
    SurfaceRegistrySnapshot :=
  let surfaces := registry.surfaces.filter (!ofClient clientId ·)
  if surfaces.length ≠ registry.surfaces.length then
    { registry with
      surfaces := surfaces
      generation := satAdd registry.generation 1
      unixTimestamp := now }
  else { registry with surfaces := surfaces }

/-- The requests of a connection that use the registry. -/
inductive WaylandRequest
  | getSurfaceRegistry
  | applySelectionHandoff (handoff : WaylandSelectionHandoff)

variable {request : WaylandRequest}

def buildResponse (registry : SurfaceRegistrySnapshot) (now : Nat) :
    WaylandRequest → SurfaceRegistrySnapshot × WaylandEvent × Bool
  | .getSurfaceRegistry => (registry, .surfaceRegistry registry, false)
  | .applySelectionHandoff handoff => applySelectionHandoff handoff registry now

/-- The process: the registry, and the copy of the connection that is served, of which there
is one at a time. The other fields are specification variables: of each client its last sync
or that it was removed since, the selection of the last handoff answered as applied, and the
registries so far, newest first. -/
structure RegistryProcess where
  registry : SurfaceRegistrySnapshot
  served : Option SurfaceRegistrySnapshot := none
  synced : OrdMap Nat (Option RegistryCore) := OrdMap.empty
  answered : WaylandSelectionState
  history : List SurfaceRegistrySnapshot

variable {p : RegistryProcess}

/-! The ids of one client are those of no other. -/

theorem clientStart_toList (clientId : Nat) : (clientStart clientId).toList =
    "client-".toList ++ (Nat.toDigits 10 clientId ++ ['-']) := by
  unfold clientStart
  rw [String.toList_append, String.toList_append, List.append_assoc]
  congr 2
  exact String.toList_ofList

theorem digits_takeWhile (n : Nat) (rest : List Char) :
    (Nat.toDigits 10 n ++ '-' :: rest).takeWhile Char.isDigit = Nat.toDigits 10 n := by
  have hdigits : ∀ c ∈ Nat.toDigits 10 n, c.isDigit = true := fun c hc =>
    Nat.isDigit_of_mem_toDigits (by decide) (by decide) hc
  rw [List.takeWhile_append_of_pos hdigits, List.takeWhile_cons_of_neg (by decide),
    List.append_nil]

theorem toDigits_injective {m n : Nat} (h : Nat.toDigits 10 m = Nat.toDigits 10 n) : m = n := by
  have hread := congrArg (Nat.ofDigitChars 10 · 0) h
  simpa only [Nat.ofDigitChars_ten_toDigits] using hread

theorem ofClient_iff :
    ofClient clientId surface = true ↔ ∃ rest, surface.id.toList =
      "client-".toList ++ (Nat.toDigits 10 clientId ++ '-' :: rest) := by
  unfold ofClient
  rw [List.isPrefixOf_iff_prefix, clientStart_toList]
  constructor
  · rintro ⟨rest, hrest⟩
    exact ⟨rest, by simp [← hrest]⟩
  · rintro ⟨rest, hrest⟩
    exact ⟨rest, by simp [hrest]⟩

theorem ofClient_unique (h : ofClient clientId surface = true)
    (h' : ofClient other surface = true) : clientId = other := by
  obtain ⟨rest, hrest⟩ := ofClient_iff.mp h
  obtain ⟨rest', hrest'⟩ := ofClient_iff.mp h'
  have hsame := List.append_cancel_left (hrest.symm.trans hrest')
  have hdigits := congrArg (List.takeWhile Char.isDigit) hsame
  rw [digits_takeWhile, digits_takeWhile] at hdigits
  exact toDigits_injective hdigits

theorem ofClient_registrySurface (clientId : Nat) (core : RegistryCore)
    (entry : Nat × SurfaceInstance) : ofClient clientId (registrySurface clientId core entry) := by
  unfold ofClient registrySurface
  rw [List.isPrefixOf_iff_prefix, String.toList_append]
  exact List.prefix_append _ _

/-! What the three changes leave of each client. -/

theorem filter_others {surfaces : List WaylandSurfaceState} (hne : other ≠ clientId) :
    (surfaces.filter (!ofClient clientId ·)).filter (ofClient other ·) =
      surfaces.filter (ofClient other ·) := by
  rw [List.filter_filter]
  refine List.filter_congr fun surface _ => ?_
  cases hother : ofClient other surface with
  | false => rfl
  | true =>
    have hnot : ofClient clientId surface = false := by
      rw [Bool.eq_false_iff]
      exact fun hown => hne (ofClient_unique hother hown)
    rw [hnot]
    rfl

theorem filter_own (clientId : Nat) (surfaces : List WaylandSurfaceState) :
    (surfaces.filter (!ofClient clientId ·)).filter (ofClient clientId ·) = [] := by
  rw [List.filter_filter, List.filter_eq_nil_iff]
  intro surface _
  cases ofClient clientId surface <;> simp

theorem clientSurfaces_own (clientId : Nat) (core : RegistryCore) :
    (clientSurfaces clientId core).filter (ofClient clientId ·) =
      clientSurfaces clientId core := by
  refine List.filter_eq_self.mpr fun surface hsurface => ?_
  obtain ⟨entry, -, rfl⟩ := List.mem_map.mp hsurface
  exact ofClient_registrySurface clientId core entry

theorem clientSurfaces_others (core : RegistryCore) (hne : other ≠ clientId) :
    (clientSurfaces clientId core).filter (ofClient other ·) = [] := by
  refine List.filter_eq_nil_iff.mpr fun surface hsurface hother => ?_
  obtain ⟨entry, -, rfl⟩ := List.mem_map.mp hsurface
  exact hne (ofClient_unique hother (ofClient_registrySurface clientId core entry))

theorem sync_surfaces (registry : SurfaceRegistrySnapshot) (clientId : Nat)
    (core : RegistryCore) (now other : Nat) :
    (syncCoreToGlobalRegistry registry clientId core now).surfaces.filter (ofClient other ·) =
      if other = clientId then clientSurfaces clientId core
      else registry.surfaces.filter (ofClient other ·) := by
  unfold syncCoreToGlobalRegistry
  rw [List.filter_append]
  split_ifs with heq
  · subst heq
    rw [filter_own, clientSurfaces_own, List.nil_append]
  · rw [filter_others heq, clientSurfaces_others core heq, List.append_nil]

theorem remove_surfaces (registry : SurfaceRegistrySnapshot) (clientId now other : Nat) :
    (removeClientFromGlobalRegistry registry clientId now).surfaces.filter (ofClient other ·) =
      if other = clientId then [] else registry.surfaces.filter (ofClient other ·) := by
  have hsurfaces : (removeClientFromGlobalRegistry registry clientId now).surfaces =
      registry.surfaces.filter (!ofClient clientId ·) := by
    unfold removeClientFromGlobalRegistry
    dsimp only
    split_ifs
    · rfl
    · rfl
  rw [hsurfaces]
  split_ifs with heq
  · subst heq
    exact filter_own other registry.surfaces
  · exact filter_others heq

theorem remove_selection (registry : SurfaceRegistrySnapshot) (clientId now : Nat) :
    (removeClientFromGlobalRegistry registry clientId now).selection = registry.selection := by
  unfold removeClientFromGlobalRegistry
  dsimp only
  split_ifs
  · rfl
  · rfl

/-- A registry that follows another is the same or has the next generation. -/
def Follows (registry registry' : SurfaceRegistrySnapshot) : Prop :=
  registry' = registry ∨ registry'.generation = satAdd registry.generation 1

theorem remove_follows (registry : SurfaceRegistrySnapshot) (clientId now : Nat) :
    Follows registry (removeClientFromGlobalRegistry registry clientId now) := by
  unfold removeClientFromGlobalRegistry
  dsimp only
  split_ifs with hchanged
  · exact .inr rfl
  · refine .inl ?_
    have hkept : registry.surfaces.filter (!ofClient clientId ·) = registry.surfaces :=
      List.filter_sublist.eq_of_length (not_not.mp hchanged)
    rw [hkept]

/-- A handoff that is applied: the registry it leaves, and its answer. -/
theorem buildResponse_changed {copy : SurfaceRegistrySnapshot}
    (h : (buildResponse copy now request).2.2 = true) :
    ∃ handoff, request = .applySelectionHandoff handoff ∧
      validateSelectionHandoff handoff copy = .ok () ∧
      buildResponse copy now request =
        ({ copy with
            selection := handoff.selection
            generation := satAdd copy.generation 1
            unixTimestamp := now },
          .selectionHandoffApplied (satAdd copy.generation 1) handoff, true) := by
  cases request with
  | getSurfaceRegistry => cases h
  | applySelectionHandoff handoff =>
    change (applySelectionHandoff handoff copy now).2.2 = true at h
    have hvalid : validateSelectionHandoff handoff copy = .ok () := by
      cases hresult : validateSelectionHandoff handoff copy with
      | error reason =>
        rw [applySelectionHandoff, hresult] at h
        cases h
      | ok _ => rfl
    refine ⟨handoff, rfl, hvalid, ?_⟩
    change applySelectionHandoff handoff copy now = _
    rw [applySelectionHandoff, hvalid]

namespace RegistryProcess

/-- What runs between two points at which other threads run. -/
inductive Turn
  | sync (clientId : Nat) (core : RegistryCore) (now : Nat)
  | remove (clientId now : Nat)
  /-- A connection copies the registry. -/
  | accept
  /-- It ends without a request, or with one that does not use the registry. -/
  | hangUp
  /-- Its request is answered; the file of the registry can be written or not. -/
  | answer (request : WaylandRequest) (now : Nat) (written : Bool)

def put (p : RegistryProcess) (registry : SurfaceRegistrySnapshot) : RegistryProcess :=
  { p with registry := registry, history := registry :: p.history }

/-- The selection the answer says was applied. -/
def appliedSelection (answered : WaylandSelectionState) : WaylandEvent → WaylandSelectionState
  | .selectionHandoffApplied _ handoff => handoff.selection
  | _ => answered

/-- `handle_client` from the request on. -/
def answerRequest (p : RegistryProcess) (copy : SurfaceRegistrySnapshot)
    (request : WaylandRequest) (now : Nat) (written : Bool) : RegistryProcess :=
  let response := buildResponse copy now request
  if response.2.2 && written then
    { p.put response.1 with
      served := none
      answered := appliedSelection p.answered response.2.1 }
  else { p with served := none }

def step (p : RegistryProcess) : Turn → RegistryProcess
  | .sync clientId core now =>
    { p.put (syncCoreToGlobalRegistry p.registry clientId core now) with
      synced := p.synced.insert clientId (some core) }
  | .remove clientId now =>
    { p.put (removeClientFromGlobalRegistry p.registry clientId now) with
      synced := p.synced.insert clientId none }
  | .accept => { p with served := some p.registry }
  | .hangUp => { p with served := none }
  | .answer request now written =>
    match p.served with
    | none => p
    | some copy => p.answerRequest copy request now written

/-- The process starts from the registry it has loaded, whatever that is. -/
def runs : System RegistryProcess Turn where
  init p := ∃ registry, registry.generation ≤ u64Max ∧
    p = { registry := registry, answered := registry.selection, history := [registry] }
  next := step

/-- Every update is still there: the surfaces of the clients, the selection, and the order
of the generations. -/
structure NoUpdateLost (p : RegistryProcess) : Prop where
  live : ∀ clientId core, p.synced.get? clientId = some (some core) →
    p.registry.surfaces.filter (ofClient clientId ·) = clientSurfaces clientId core
  removed : ∀ clientId, p.synced.get? clientId = some none →
    p.registry.surfaces.filter (ofClient clientId ·) = []
  selection : p.registry.selection = p.answered
  current : p.history.head? = some p.registry
  generations : p.history.Pairwise fun newer older => older.generation ≤ newer.generation ∧
    (newer.generation < u64Max → older.generation = newer.generation → older = newer)

/-- A connection applies no handoff to a copy of a registry that has changed since. -/
def Undisturbed (p : RegistryProcess) : Turn → Prop
  | .answer (.applySelectionHandoff handoff) _ true =>
    ∀ copy, p.served = some copy → validateSelectionHandoff handoff copy = .ok () →
      copy = p.registry
  | _ => True

/-- What every change of the registry keeps: generations are at most `u64::MAX`. -/
structure Kept (p : RegistryProcess) : Prop extends NoUpdateLost p where
  bounded : ∀ registry ∈ p.history, registry.generation ≤ u64Max

theorem Kept.generations_put (h : Kept p) {registry : SurfaceRegistrySnapshot}
    (hfollows : Follows p.registry registry) :
    ((p.put registry).history.Pairwise fun newer older =>
        older.generation ≤ newer.generation ∧
          (newer.generation < u64Max → older.generation = newer.generation → older = newer)) ∧
      ∀ other ∈ (p.put registry).history, other.generation ≤ u64Max := by
  obtain ⟨older, hhistory⟩ := List.head?_eq_some_iff.mp h.current
  have hbound : p.registry.generation ≤ u64Max :=
    h.bounded p.registry (by rw [hhistory]; exact List.mem_cons_self)
  have hpast := h.generations
  rw [hhistory, List.pairwise_cons] at hpast
  have hnew : ∀ other ∈ p.history, other.generation ≤ registry.generation ∧
      (registry.generation < u64Max → other.generation = registry.generation →
        other = registry) := by
    intro other hother
    have hbelow : other.generation ≤ p.registry.generation := by
      rw [hhistory] at hother
      cases List.mem_cons.mp hother with
      | inl hsame => rw [hsame]
      | inr hold => exact (hpast.1 other hold).1
    cases hfollows with
    | inl hsame =>
      subst hsame
      rw [hhistory] at hother
      cases List.mem_cons.mp hother with
      | inl hsame => exact ⟨hbelow, fun _ _ => hsame⟩
      | inr hold => exact hpast.1 other hold
    | inr hnext =>
      unfold satAdd at hnext
      refine ⟨by omega, fun hbelowMax hsame => ?_⟩
      omega
  have hregistry : registry.generation ≤ u64Max := by
    cases hfollows with
    | inl hsame =>
      rw [hsame]
      exact hbound
    | inr hnext =>
      rw [hnext]
      exact satAdd_le_max hbound
  exact ⟨List.pairwise_cons.mpr ⟨hnew, h.generations⟩,
    List.forall_mem_cons.mpr ⟨hregistry, h.bounded⟩⟩

theorem Kept.sync (h : Kept p) (clientId : Nat) (core : RegistryCore) (now : Nat) :
    Kept (p.step (.sync clientId core now)) := by
  have hfollows : Follows p.registry
      (syncCoreToGlobalRegistry p.registry clientId core now) := .inr rfl
  obtain ⟨hgenerations, hbounded⟩ := h.generations_put hfollows
  refine ⟨⟨?_, ?_, h.selection, rfl, hgenerations⟩, hbounded⟩
  · intro other core' hsynced
    refine (sync_surfaces p.registry clientId core now other).trans ?_
    simp only [step, OrdMap.get?_insert] at hsynced
    split_ifs at hsynced ⊢ with heq
    · obtain rfl := Option.some.inj (Option.some.inj hsynced)
      rw [heq]
    · exact h.live other core' hsynced
  · intro other hsynced
    refine (sync_surfaces p.registry clientId core now other).trans ?_
    simp only [step, OrdMap.get?_insert] at hsynced
    split_ifs at hsynced ⊢ with heq
    · cases hsynced
    · exact h.removed other hsynced

theorem Kept.remove (h : Kept p) (clientId now : Nat) : Kept (p.step (.remove clientId now)) := by
  obtain ⟨hgenerations, hbounded⟩ := h.generations_put (remove_follows p.registry clientId now)
  have hselection := (remove_selection p.registry clientId now).trans h.selection
  refine ⟨⟨?_, ?_, hselection, rfl, hgenerations⟩, hbounded⟩
  · intro other core hsynced
    refine (remove_surfaces p.registry clientId now other).trans ?_
    simp only [step, OrdMap.get?_insert] at hsynced
    split_ifs at hsynced ⊢ with heq
    · cases hsynced
    · exact h.live other core hsynced
  · intro other hsynced
    refine (remove_surfaces p.registry clientId now other).trans ?_
    simp only [step, OrdMap.get?_insert] at hsynced
    split_ifs at hsynced ⊢ with heq
    · rfl
    · exact h.removed other hsynced

/-- A handoff over the present registry changes the selection and nothing else. -/
theorem Kept.answer (h : Kept p) {written : Bool}
    (hgood : Undisturbed p (.answer request now written)) :
    Kept (p.step (.answer request now written)) := by
  unfold step
  cases hserved : p.served with
  | none => exact h
  | some copy =>
    dsimp only
    unfold answerRequest
    dsimp only
    split_ifs with hwritten
    · rw [Bool.and_eq_true] at hwritten
      obtain ⟨hchanged, rfl⟩ := hwritten
      obtain ⟨handoff, rfl, hvalid, hresponse⟩ := buildResponse_changed hchanged
      obtain rfl := hgood copy hserved hvalid
      rw [hresponse]
      have hfollows : Follows p.registry { p.registry with
          selection := handoff.selection
          generation := satAdd p.registry.generation 1
          unixTimestamp := now } := .inr rfl
      obtain ⟨hgenerations, hbounded⟩ := h.generations_put hfollows
      exact ⟨⟨h.live, h.removed, rfl, rfl, hgenerations⟩, hbounded⟩
    · exact ⟨⟨h.live, h.removed, h.selection, h.current, h.generations⟩, h.bounded⟩

/-- In a run in which no handoff is applied to a copy that is out of date, no update of the
registry is lost. -/
theorem registry_loses_nothing {p : RegistryProcess} (h : runs.Reach Undisturbed p) :
    NoUpdateLost p := by
  refine Kept.toNoUpdateLost (h.invariant ?_ ?_)
  · rintro _ ⟨registry, hbound, rfl⟩
    refine ⟨⟨fun clientId core hsynced => ?_, fun clientId hsynced => ?_, rfl, rfl,
      List.pairwise_singleton _ _⟩, ?_⟩
    · rw [OrdMap.get?_empty] at hsynced
      cases hsynced
    · rw [OrdMap.get?_empty] at hsynced
      cases hsynced
    · simpa using hbound
  · intro p turn hkept hgood
    cases turn with
    | sync clientId core now => exact hkept.sync clientId core now
    | remove clientId now => exact hkept.remove clientId now
    | accept =>
      exact ⟨⟨hkept.live, hkept.removed, hkept.selection, hkept.current, hkept.generations⟩,
        hkept.bounded⟩
    | hangUp =>
      exact ⟨⟨hkept.live, hkept.removed, hkept.selection, hkept.current, hkept.generations⟩,
        hkept.bounded⟩
    | answer request now written => exact hkept.answer hgood

section sample

/-- One window of a client. -/
def windowCore : RegistryCore where
  surfaces := [(3, ⟨some 5, 0, 0, []⟩)]

/-- A handoff that gives up both selections. -/
def emptyHandoff : WaylandSelectionHandoff := ⟨.none, {}⟩

def emptyProcess : RegistryProcess where
  registry := ⟨1, [], {}, 0⟩
  answered := {}
  history := [⟨1, [], {}, 0⟩]

theorem emptyProcess_starts : runs.init emptyProcess := ⟨⟨1, [], {}, 0⟩, by decide, rfl⟩

/-- The client synchronises before the connection copies the registry. -/
theorem registry_loses_nothing_orderly :
    NoUpdateLost (runs.run emptyProcess [.sync 1 windowCore 0, .accept,
      .answer (.applySelectionHandoff emptyHandoff) 0 true, .remove 1 0]) := by
  refine registry_loses_nothing (.next (.remove 1 0) (.next _ (.next .accept
    (.next (.sync 1 windowCore 0) (.init emptyProcess_starts) trivial) trivial) ?_) trivial)
  intro copy hserved _
  exact (Option.some.inj hserved).symm

/-- The client synchronises while the request is read: its window is lost again. -/
theorem handoff_loses_window : ∃ p, runs.Reachable p ∧ ¬ NoUpdateLost p := by
  refine ⟨runs.run emptyProcess [.accept, .sync 1 windowCore 0,
    .answer (.applySelectionHandoff emptyHandoff) 0 true],
    System.Reachable.run (.init emptyProcess_starts) _, fun h => ?_⟩
  have hlive := h.live 1 windowCore rfl
  exact absurd (congrArg List.length hlive) (by decide +kernel)

end sample

end RegistryProcess

end TuffXwin.Waylandd
