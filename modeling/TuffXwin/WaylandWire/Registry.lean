import TuffXwin.Lib.OrdMap
import TuffXwin.WaylandWire.Wire

/-! The objects of one client. A client's id is free again only after `delete_id` was
delivered; until then it is retired. -/

namespace TuffXwin.WaylandWire
open Lib

structure WireObject where
  id : Nat
  interface : String
  version : Nat
  deriving DecidableEq, Repr

structure WireObjectRegistry where
  objects : OrdMap Nat WireObject :=
    OrdMap.empty.insert displayId { id := displayId, interface := "wl_display", version := 1 }
  retiredPendingDelete : OrdSet Nat := OrdMap.empty
  reusableIds : OrdSet Nat := OrdMap.empty
  queuedDeleteIds : OrdSet Nat := OrdMap.empty

namespace WireObjectRegistry

def getObject (r : WireObjectRegistry) (id : Nat) : Except WireError WireObject :=
  match r.objects.get? id with
  | some object => .ok object
  | none => .error (.invalidObjectId id)

def registerClientObject (r : WireObjectRegistry) (id : Nat) (interface : String)
    (version : Nat) : Except WireError WireObjectRegistry :=
  if id = displayId ∨ r.objects.contains id ∨ r.retiredPendingDelete.contains id then
    .error (.invalidObjectId id)
  else
    .ok { r with
      objects := r.objects.insert id { id := id, interface := interface, version := version }
      reusableIds := r.reusableIds.erase id }

def destroyObject (r : WireObjectRegistry) (id : Nat) : Except WireError WireObjectRegistry :=
  if r.objects.contains id then
    .ok { r with
      objects := r.objects.erase id
      retiredPendingDelete :=
        if id < firstServerId ∧ id ≠ displayId then r.retiredPendingDelete.insert id ()
        else r.retiredPendingDelete }
  else .error (.invalidObjectId id)

def takeDeleteIdEvents (r : WireObjectRegistry) : List Nat × WireObjectRegistry :=
  let ids := r.retiredPendingDelete.difference r.queuedDeleteIds
  (ids, { r with queuedDeleteIds := ids.foldl (fun s id => s.insert id ()) r.queuedDeleteIds })

def acknowledgeDeleteId (r : WireObjectRegistry) (id : Nat) :
    Except WireError WireObjectRegistry :=
  if r.retiredPendingDelete.contains id then
    .ok { r with
      retiredPendingDelete := r.retiredPendingDelete.erase id
      queuedDeleteIds := r.queuedDeleteIds.erase id
      reusableIds := r.reusableIds.insert id () }
  else .error (.invalidObjectId id)

end WireObjectRegistry

end TuffXwin.WaylandWire
