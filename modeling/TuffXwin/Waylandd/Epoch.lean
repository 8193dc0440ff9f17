import TuffXwin.Compd.Relay
import TuffXwin.Displayd.Backends
import TuffXwin.Displayd.Ledger

/-! The scene epoch of a waylandd process, and what a restart of it may publish.
compd and displayd outlive waylandd: whatever the first process published may be
the floor the scenes of the second are compared with. -/

namespace TuffXwin.Compd
open Lib

variable {s : CompdRelayState}

namespace CompdRelayState

variable {published : RelayScene → Prop}

/-- Both versions of the relay state are those of published scenes. -/
structure FromPublished (published : RelayScene → Prop) (s : CompdRelayState) : Prop where
  forwarded : s.forwarded = sceneVersion 0 0 ∨
    ∃ relay, published relay ∧ relay.version = s.forwarded
  pending : ∀ pending, s.pending = some pending →
    ∃ relay, published relay ∧ relay.version = pending.version

theorem FromPublished.floor (h : s.FromPublished published) :
    s.versionFloor = sceneVersion 0 0 ∨
      ∃ relay, published relay ∧ relay.version = s.versionFloor := by
  unfold versionFloor
  split
  · exact h.forwarded
  · rename_i pending hpending
    split_ifs
    · exact .inr (h.pending pending hpending)
    · exact h.forwarded

end CompdRelayState

end TuffXwin.Compd

namespace TuffXwin.Waylandd
open Lib

variable {first generation nanos pid second : Nat}

end TuffXwin.Waylandd
