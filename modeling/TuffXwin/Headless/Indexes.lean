import TuffXwin.Headless.Rules
import TuffXwin.Lib.Fold
import TuffXwin.Lib.Reach
import TuffXwin.Lib.SecondaryIndex

/-! The indexes that pointer constraints, idle inhibitors and relative pointers keep beside their
tables agree with them in every run, whatever entries a surface or a pointer takes along. -/

namespace TuffXwin.Headless
open Lib

variable {pair : Nat × Nat}

inductive PointerConstraintKind
  | locked | confined
  deriving DecidableEq, Repr

namespace PointerConstraintsState

def pairOf (state : PointerConstraintState) : Nat × Nat := (state.surfaceId, state.pointerId)

def table (m : PointerConstraintsState) :
    PointerConstraintKind → OrdMap Nat PointerConstraintState
  | .locked => m.locked
  | .confined => m.confined

/-- The pair of a live constraint. -/
def held (m : PointerConstraintsState) (key : PointerConstraintKind × Nat) : Option (Nat × Nat) :=
  ((m.table key.1).get? key.2).map pairOf

/-- Every active pair is that of one live constraint, and there are no others. -/
def Paired (m : PointerConstraintsState) : Prop := HeldOnce m.held m.activePairs

def create (m : PointerConstraintsState) :
    PointerConstraintKind → Nat → PointerConstraintState → Fallible PointerConstraintsState
  | .locked => m.createLocked
  | .confined => m.createConfined

def destroy (m : PointerConstraintsState) :
    PointerConstraintKind → Nat → Fallible PointerConstraintsState
  | .locked => m.destroyLocked
  | .confined => m.destroyConfined

variable {m m' : PointerConstraintsState} {kind : PointerConstraintKind} {id : Nat}
  {state : PointerConstraintState}

theorem held_eq_some {key : PointerConstraintKind × Nat} :
    m.held key = some pair ↔ ∃ state, (m.table key.1).get? key.2 = some state ∧
      pairOf state = pair := Option.map_eq_some_iff

theorem create_eq_ok (h : m.create kind id state = .ok m') :
    pairOf state ∉ m.activePairs ∧ m'.activePairs = pairOf state :: m.activePairs ∧
      m'.held (kind, id) = some (pairOf state) ∧
      ∀ key, key ≠ (kind, id) → m'.held key = m.held key := by
  have hfree : pairOf state ∉ m.activePairs := by
    intro hmem
    have hrefused : m.validatePair state.surfaceId state.pointerId = .error _ := if_pos hmem
    cases kind <;> simp [create, createLocked, createConfined, hrefused, bind, Except.bind] at h
  have hvalid : m.validatePair state.surfaceId state.pointerId = .ok () := if_neg hfree
  cases kind
  all_goals
    simp only [create, createLocked, createConfined, hvalid, bind, Except.bind, pure,
      Except.pure, Except.ok.injEq] at h
    subst h
    refine ⟨hfree, rfl, ?_, ?_⟩
    · simp [held, table]
    · rintro ⟨kind', id'⟩ hne
      cases kind' <;> simp_all [held, table, OrdMap.get?_insert]

theorem destroy_eq_ok (h : m.destroy kind id = .ok m') :
    ∃ state, (m.table kind).get? id = some state ∧
      m'.activePairs = releasePair m.activePairs state ∧
      ∀ key, m'.held key = if key = (kind, id) then none else m.held key := by
  cases kind
  all_goals
    obtain ⟨state, hstate, h⟩ := bind_eq_ok.mp h
    obtain rfl := Except.ok.inj h
    refine ⟨state, orInvalid_eq_ok.mp hstate, rfl, ?_⟩
    rintro ⟨kind', id'⟩
    cases kind' <;> simp only [held, table, OrdMap.get?_erase, Prod.mk.injEq] <;>
      split_ifs <;> simp_all

theorem mem_foldl_releasePair {removed : List PointerConstraintState} {pairs : List (Nat × Nat)} :
    pair ∈ removed.foldl releasePair pairs ↔
      pair ∈ pairs ∧ ∀ state ∈ removed, pair ≠ pairOf state := by
  induction removed generalizing pairs with
  | nil => simp
  | cons state rest ih => simp [ih, releasePair, pairOf, and_assoc]

theorem Paired.create (h : m.Paired) (hfresh : (m.table kind).get? id = none)
    (hok : m.create kind id state = .ok m') : m'.Paired := by
  obtain ⟨hfree, hpairs, hheld, hothers⟩ := create_eq_ok hok
  unfold Paired
  rw [hpairs]
  exact h.added (by simp [held, hfresh]) hfree hheld hothers

theorem Paired.destroy (h : m.Paired) (hok : m.destroy kind id = .ok m') : m'.Paired := by
  obtain ⟨state, hstate, hpairs, hheld⟩ := destroy_eq_ok hok
  have hentry : m.held (kind, id) = some (pairOf state) := held_eq_some.mpr ⟨state, hstate, rfl⟩
  refine h.removed (· = (kind, id)) (fun key pair => ?_) fun pair => ?_
  · rw [hheld]
    split_ifs with heq <;> simp [heq]
  · rw [hpairs, releasePair, List.mem_filter]
    refine and_congr_right fun _ => ?_
    simp only [decide_eq_true_eq, forall_eq, hentry, ne_eq, Option.some.injEq]
    exact ne_comm

/-- Whatever constraints a surface or a pointer takes along, in whatever order. -/
theorem Paired.removeWhere (h : m.Paired) (visit : List Nat → List Nat)
    (chosen : PointerConstraintState → Bool) : (m.removeWhere visit chosen).2.Paired := by
  have htable (kind : PointerConstraintKind) : (m.removeWhere visit chosen).2.table kind =
      (m.table kind).filter fun _ state => !chosen state := by
    cases kind <;> rfl
  refine h.removed (fun key => ∃ state, (m.table key.1).get? key.2 = some state ∧
    chosen state = true) (fun key pair => ?_) fun pair => ?_
  · rw [held_eq_some, held_eq_some, htable]
    constructor
    · rintro ⟨state, hstate, hpair⟩
      obtain ⟨hstate, hkept⟩ := OrdMap.get?_filter_eq_some.mp hstate
      refine ⟨⟨state, hstate, hpair⟩, ?_⟩
      rintro ⟨other, hother, hchosen⟩
      obtain rfl := Option.some.inj (hstate.symm.trans hother)
      simp [hchosen] at hkept
    · rintro ⟨⟨state, hstate, hpair⟩, hstays⟩
      refine ⟨state, OrdMap.get?_filter_eq_some.mpr ⟨hstate, ?_⟩, hpair⟩
      simpa using fun hchosen => hstays ⟨state, hstate, hchosen⟩
  · have hremoved (state : PointerConstraintState) :
        state ∈ (m.locked.filter fun _ state => chosen state).values ++
            (m.confined.filter fun _ state => chosen state).values ↔
          ∃ key : PointerConstraintKind × Nat,
            (m.table key.1).get? key.2 = some state ∧ chosen state = true := by
      simp only [List.mem_append, OrdMap.mem_values, OrdMap.get?_filter_eq_some]
      constructor
      · rintro (⟨id, hstate⟩ | ⟨id, hstate⟩)
        · exact ⟨(.locked, id), hstate⟩
        · exact ⟨(.confined, id), hstate⟩
      · rintro ⟨⟨kind, id⟩, hstate⟩
        cases kind
        · exact .inl ⟨id, hstate⟩
        · exact .inr ⟨id, hstate⟩
    refine mem_foldl_releasePair.trans (and_congr_right fun _ => ⟨fun hkept key => ?_, ?_⟩)
    · rintro ⟨state, hstate, hchosen⟩ hheld
      obtain ⟨other, hother, hpair⟩ := held_eq_some.mp hheld
      obtain rfl := Option.some.inj (hstate.symm.trans hother)
      exact hkept state ((hremoved state).mpr ⟨key, hstate, hchosen⟩) hpair.symm
    · intro hkept state hstate heq
      obtain ⟨key, hget, hchosen⟩ := (hremoved state).mp hstate
      exact hkept key ⟨state, hget, hchosen⟩ (held_eq_some.mpr ⟨state, hget, heq.symm⟩)

theorem modify_pairOf (table : OrdMap Nat PointerConstraintState) (id other : Nat)
    {f : PointerConstraintState → PointerConstraintState}
    (hf : ∀ state, pairOf (f state) = pairOf state) :
    ((table.modify id f).get? other).map pairOf = (table.get? other).map pairOf := by
  rw [OrdMap.get?_modify]
  split_ifs
  · cases table.get? other with
    | none => rfl
    | some state => exact congrArg some (hf state)
  · rfl

theorem Paired.setCursorPositionHint {x y : Int} (h : m.Paired)
    (hok : m.setCursorPositionHint id x y = .ok m') : m'.Paired := by
  unfold PointerConstraintsState.setCursorPositionHint at hok
  split_ifs at hok
  obtain rfl := Except.ok.inj hok
  refine HeldOnce.of_same h (fun ⟨kind, other⟩ => ?_) rfl
  cases kind with
  | locked => exact modify_pairOf _ _ _ fun _ => rfl
  | confined => rfl

theorem Paired.setRegion {region : Option Nat} (h : m.Paired)
    (hok : m.setRegion id region = .ok m') : m'.Paired := by
  unfold PointerConstraintsState.setRegion at hok
  split_ifs at hok
  all_goals
    obtain rfl := Except.ok.inj hok
    refine HeldOnce.of_same h (fun ⟨kind, other⟩ => ?_) rfl
  · cases kind with
    | locked => exact modify_pairOf _ _ _ fun _ => rfl
    | confined => rfl
  · cases kind with
    | locked => rfl
    | confined => exact modify_pairOf _ _ _ fun _ => rfl

end PointerConstraintsState

namespace IdleInhibitState

/-- The counts are those of the inhibitors of each surface, and the flag says if there is one. -/
structure Consistent (m : IdleInhibitState) : Prop where
  counted : Counted m.inhibitors m.surfaceCounts
  inhibited : m.inhibited = true ↔ ∃ id surfaceId, m.inhibitors.get? id = some surfaceId

variable {m m' : IdleInhibitState}

theorem not_isEmpty_iff {table : OrdMap Nat Nat} :
    (!table.isEmpty) = true ↔ ∃ id surfaceId, table.get? id = some surfaceId := by
  rw [Bool.not_eq_true', OrdMap.isEmpty, List.isEmpty_eq_false_iff_exists_mem]
  constructor
  · rintro ⟨⟨id, surfaceId⟩, hmem⟩
    exact ⟨id, surfaceId, OrdMap.mem_entries.mp hmem⟩
  · rintro ⟨id, surfaceId, hget⟩
    exact ⟨(id, surfaceId), OrdMap.mem_entries.mpr hget⟩

theorem Consistent.createInhibitor (h : m.Consistent) {id : Nat} (surfaceId : Nat)
    (hfresh : m.inhibitors.get? id = none) : (m.createInhibitor id surfaceId).Consistent :=
  ⟨h.counted.added hfresh, fun _ => ⟨id, surfaceId, OrdMap.get?_insert_self _ _ _⟩, fun _ => rfl⟩

theorem releaseCount_get? (counts : OrdMap Nat Nat) (surfaceId other : Nat) :
    (releaseCount counts surfaceId).get? other =
      if other = surfaceId then
        (counts.get? surfaceId).bind fun count => if count - 1 = 0 then none else some (count - 1)
      else counts.get? other := by
  unfold releaseCount
  cases hcount : counts.get? surfaceId with
  | none =>
    split_ifs with heq
    · rw [heq, hcount]
      rfl
    · rfl
  | some count =>
    dsimp only
    split_ifs <;> simp_all [OrdMap.get?_erase, OrdMap.get?_insert]

theorem Consistent.destroyInhibitor (h : m.Consistent) {id : Nat}
    (hok : m.destroyInhibitor id = .ok m') : m'.Consistent := by
  obtain ⟨surfaceId, hsurface, hok⟩ := bind_eq_ok.mp hok
  obtain rfl := Except.ok.inj hok
  have hentry := orInvalid_eq_ok.mp hsurface
  refine ⟨h.counted.removed hentry ?_ fun other hother => ?_, not_isEmpty_iff⟩
  · rw [releaseCount_get?, if_pos rfl, h.counted surfaceId]
    have hholds := OrdMap.holders_erase hentry surfaceId
    rw [if_pos rfl] at hholds
    rw [if_neg (by omega)]
    rfl
  · rw [releaseCount_get?, if_neg hother]

theorem Consistent.surfaceDestroyed (h : m.Consistent) (surfaceId : Nat) :
    (m.surfaceDestroyed surfaceId).2.Consistent :=
  ⟨h.counted.dropped surfaceId, not_isEmpty_iff⟩

end IdleInhibitState

namespace RelativePointerState

/-- The lists have each binding once, under its pointer, and none is empty. -/
def Listed (m : RelativePointerState) : Prop := Bucketed m.bindings m.bindingsByPointer

variable {m m' : RelativePointerState} {id pointerId : Nat}

theorem Listed.createRelativePointer (h : m.Listed)
    (hok : m.createRelativePointer id pointerId = .ok m') : m'.Listed := by
  unfold RelativePointerState.createRelativePointer at hok
  split_ifs at hok with hknown
  obtain rfl := Except.ok.inj hok
  exact h.added (by simpa [OrdMap.contains] using hknown)

theorem unlist_get? (lists : OrdMap Nat (List Nat)) (pointerId id : Nat) :
    (unlist lists pointerId id).get? pointerId =
      if ((lists.get? pointerId).getD []).filter (· ≠ id) = [] then none
      else some (((lists.get? pointerId).getD []).filter (· ≠ id)) := by
  unfold unlist
  cases hids : lists.get? pointerId with
  | none => exact hids
  | some ids =>
    dsimp only [Option.getD_some]
    split_ifs with hempty
    · rw [OrdMap.get?_erase, if_pos rfl]
    · exact OrdMap.get?_insert_self _ _ _

theorem unlist_others (lists : OrdMap Nat (List Nat)) {pointerId other : Nat} (id : Nat)
    (hother : other ≠ pointerId) : (unlist lists pointerId id).get? other = lists.get? other := by
  unfold unlist
  cases lists.get? pointerId with
  | none => rfl
  | some ids =>
    dsimp only
    split_ifs
    · exact (OrdMap.get?_erase _ _ _).trans (if_neg hother)
    · exact OrdMap.get?_insert_ne _ _ hother

theorem Listed.destroy (h : m.Listed) (hok : m.destroy id = .ok m') : m'.Listed := by
  obtain ⟨pointerId, hpointer, hok⟩ := bind_eq_ok.mp hok
  obtain rfl := Except.ok.inj hok
  exact h.removed (orInvalid_eq_ok.mp hpointer) (unlist_get? _ _ _)
    fun _ hother => unlist_others _ _ hother

theorem Listed.pointerReleased (h : m.Listed) (pointerId : Nat) :
    (m.pointerReleased pointerId).Listed := h.dropped pointerId

end RelativePointerState

/-! The three managers together, of which a surface or a pointer that goes takes entries. -/

structure IndexedManagers where
  constraints : PointerConstraintsState := {}
  inhibit : IdleInhibitState := {}
  relative : RelativePointerState := {}

/-- An operation of a manager, or the end of a surface or a pointer; `visit` is the order in which
the tables are gone through. -/
inductive IndexOperation
  | createConstraint (kind : PointerConstraintKind) (id : Nat) (state : PointerConstraintState)
  | destroyConstraint (kind : PointerConstraintKind) (id : Nat)
  | setCursorPositionHint (id : Nat) (x y : Int)
  | setRegion (id : Nat) (region : Option Nat)
  | createInhibitor (id surfaceId : Nat)
  | destroyInhibitor (id : Nat)
  | createRelativePointer (id pointerId : Nat)
  | destroyRelativePointer (id : Nat)
  | surfaceDestroyed (surfaceId : Nat) (visit : List Nat → List Nat)
  | pointerReleased (pointerId : Nat) (visit : List Nat → List Nat)

namespace IndexedManagers

/-- An operation that fails leaves its manager as it was. -/
def orSame {α : Type} (m : α) : Fallible α → α
  | .ok m' => m'
  | .error _ => m

def apply (m : IndexedManagers) : IndexOperation → IndexedManagers
  | .createConstraint kind id state =>
    { m with constraints := orSame m.constraints (m.constraints.create kind id state) }
  | .destroyConstraint kind id =>
    { m with constraints := orSame m.constraints (m.constraints.destroy kind id) }
  | .setCursorPositionHint id x y =>
    { m with constraints := orSame m.constraints (m.constraints.setCursorPositionHint id x y) }
  | .setRegion id region =>
    { m with constraints := orSame m.constraints (m.constraints.setRegion id region) }
  | .createInhibitor id surfaceId =>
    { m with inhibit := m.inhibit.createInhibitor id surfaceId }
  | .destroyInhibitor id => { m with inhibit := orSame m.inhibit (m.inhibit.destroyInhibitor id) }
  | .createRelativePointer id pointerId =>
    { m with relative := orSame m.relative (m.relative.createRelativePointer id pointerId) }
  | .destroyRelativePointer id => { m with relative := orSame m.relative (m.relative.destroy id) }
  | .surfaceDestroyed surfaceId visit =>
    { m with
      constraints := (m.constraints.surfaceDestroyed visit surfaceId).2
      inhibit := (m.inhibit.surfaceDestroyed surfaceId).2 }
  | .pointerReleased pointerId visit =>
    { m with
      constraints := (m.constraints.pointerReleased visit pointerId).2
      relative := m.relative.pointerReleased pointerId }

def system : System IndexedManagers IndexOperation where
  init m := m = {}
  next := apply

/-- What is created has an id that is not in use. -/
def FreshId (m : IndexedManagers) : IndexOperation → Prop
  | .createConstraint kind id _ => (m.constraints.table kind).get? id = none
  | .createInhibitor id _ => m.inhibit.inhibitors.get? id = none
  | .createRelativePointer id _ => m.relative.bindings.get? id = none
  | _ => True

structure Indexed (m : IndexedManagers) : Prop where
  paired : m.constraints.Paired
  consistent : m.inhibit.Consistent
  listed : m.relative.Listed

theorem orSame_of {α : Type} {P : α → Prop} {m : α} {result : Fallible α} (h : P m)
    (hok : ∀ m', result = .ok m' → P m') : P (orSame m result) := by
  cases result with
  | ok m' => exact hok m' rfl
  | error fault => exact h

theorem indexed_empty : Indexed {} where
  paired := by
    refine ⟨fun pair => iff_of_false List.not_mem_nil ?_, ?_⟩
    · rintro ⟨⟨kind, id⟩, hheld⟩
      cases kind <;> cases hheld
    · rintro ⟨kind, id⟩ _ _ hheld
      cases kind <;> cases hheld
  consistent := by
    refine ⟨fun _ => rfl, iff_of_false Bool.false_ne_true ?_⟩
    rintro ⟨_, _, hget⟩
    cases hget
  listed := by
    refine ⟨fun id pointerId => iff_of_false ?_ ?_, fun _ _ hget => ?_, fun _ _ hget => ?_⟩
    · exact fun hget => by cases hget
    · rintro ⟨_, hget, -⟩
      cases hget
    · cases hget
    · cases hget

variable {m : IndexedManagers}

/-- One operation keeps the indexes in step with their tables. -/
theorem Indexed.apply (h : m.Indexed) {operation : IndexOperation} (hfresh : m.FreshId operation) :
    (m.apply operation).Indexed := by
  obtain ⟨hpaired, hconsistent, hlisted⟩ := h
  cases operation with
  | createConstraint kind id state =>
    exact ⟨orSame_of hpaired fun _ => hpaired.create hfresh, hconsistent, hlisted⟩
  | destroyConstraint kind id =>
    exact ⟨orSame_of hpaired fun _ => hpaired.destroy, hconsistent, hlisted⟩
  | setCursorPositionHint id x y =>
    exact ⟨orSame_of hpaired fun _ => hpaired.setCursorPositionHint, hconsistent, hlisted⟩
  | setRegion id region =>
    exact ⟨orSame_of hpaired fun _ => hpaired.setRegion, hconsistent, hlisted⟩
  | createInhibitor id surfaceId =>
    exact ⟨hpaired, hconsistent.createInhibitor surfaceId hfresh, hlisted⟩
  | destroyInhibitor id =>
    exact ⟨hpaired, orSame_of hconsistent fun _ => hconsistent.destroyInhibitor, hlisted⟩
  | createRelativePointer id pointerId =>
    exact ⟨hpaired, hconsistent, orSame_of hlisted fun _ => hlisted.createRelativePointer⟩
  | destroyRelativePointer id =>
    exact ⟨hpaired, hconsistent, orSame_of hlisted fun _ => hlisted.destroy⟩
  | surfaceDestroyed surfaceId visit =>
    exact ⟨hpaired.removeWhere visit _, hconsistent.surfaceDestroyed surfaceId, hlisted⟩
  | pointerReleased pointerId visit =>
    exact ⟨hpaired.removeWhere visit _, hconsistent, hlisted.pointerReleased pointerId⟩

/-- The indexes never drift from their tables. -/
theorem reachable_indexed (h : system.Reach FreshId m) : m.Indexed := by
  refine h.invariant (fun m hm => ?_) fun m operation hindexed hfresh => hindexed.apply hfresh
  obtain rfl : m = {} := hm
  exact indexed_empty

/-! A run in which a surface takes a lock and an inhibitor along. -/

instance (m : IndexedManagers) : (operation : IndexOperation) → Decidable (m.FreshId operation)
  | .createConstraint kind id _ =>
    inferInstanceAs (Decidable ((m.constraints.table kind).get? id = none))
  | .createInhibitor id _ => inferInstanceAs (Decidable (m.inhibit.inhibitors.get? id = none))
  | .createRelativePointer id _ => inferInstanceAs (Decidable (m.relative.bindings.get? id = none))
  | .destroyConstraint .. | .setCursorPositionHint .. | .setRegion .. | .destroyInhibitor ..
  | .destroyRelativePointer .. | .surfaceDestroyed .. | .pointerReleased .. => .isTrue trivial

/-- The surface 1 goes, and the surface 2 and the pointer 3 stay. -/
def surfaceGoes : List IndexOperation :=
  [.createConstraint .locked 10 ⟨1, 3, none, .oneShot, none⟩,
    .createConstraint .confined 11 ⟨2, 3, none, .persistent, none⟩,
    .createInhibitor 12 1, .createInhibitor 13 2, .createRelativePointer 14 3,
    .createRelativePointer 15 3, .surfaceDestroyed 1 id, .destroyRelativePointer 14]

theorem surfaceGoes_indexed : (system.run {} surfaceGoes).Indexed ∧
    (system.run {} surfaceGoes).constraints.activePairs = [(2, 3)] := by
  have hpasses : system.passes (fun m operation => decide (m.FreshId operation)) {} surfaceGoes =
      true := by decide +kernel
  have hinit : system.Reach FreshId {} := .init rfl
  exact ⟨reachable_indexed (hinit.run_passes (fun _ _ => of_decide_eq_true) hpasses),
    by decide +kernel⟩

end IndexedManagers

end TuffXwin.Headless
