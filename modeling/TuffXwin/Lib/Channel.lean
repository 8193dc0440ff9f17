import Mathlib.Data.List.Basic
import Mathlib.Tactic.Common

/-! Requests over an unreliable connection. A script decides, request by request,
what the server goes through first, whether the request arrives and whether its
answer comes back; a log keeps every request with the server it left behind. -/

namespace Lib

variable {σ ι κ ρ α : Type}

/-- A server that takes one request at a time and may fail to answer it. -/
structure Service (σ ι κ ρ α : Type) where
  meanwhile : σ → ι → σ
  serve : σ → κ → ρ → σ × Except String α

structure Delivery (ι κ : Type) where
  before : List ι := []
  context : κ
  arrives : Bool := true
  returns : Bool := true
  failure : String := "connection lost"

structure Exchanged (σ ρ α : Type) where
  request : ρ
  answer : Except String α
  server : σ

structure Channel (σ ι κ ρ α : Type) where
  server : σ
  script : List (Delivery ι κ)
  log : List (Exchanged σ ρ α) := []

namespace Service

variable (S : Service σ ι κ ρ α)

def idle (server : σ) (d : Delivery ι κ) : σ := d.before.foldl S.meanwhile server

def deliver (server : σ) (d : Delivery ι κ) (request : ρ) : σ × Except String α :=
  if d.arrives then
    let served := S.serve (S.idle server d) d.context request
    (served.1, if d.returns then served.2 else .error d.failure)
  else (S.idle server d, .error d.failure)

/-- One request. Nobody listens once the script has run out. -/
def send (c : Channel σ ι κ ρ α) (request : ρ) : Channel σ ι κ ρ α × Except String α :=
  match c.script with
  | [] =>
    ({ c with log := ⟨request, .error "connection refused", c.server⟩ :: c.log },
      .error "connection refused")
  | d :: script =>
    let delivered := S.deliver c.server d request
    ({ server := delivered.1
       script := script
       log := ⟨request, delivered.2, delivered.1⟩ :: c.log }, delivered.2)

theorem send_log (c : Channel σ ι κ ρ α) (request : ρ) :
    (S.send c request).1.log =
      ⟨request, (S.send c request).2, (S.send c request).1.server⟩ :: c.log := by
  unfold send
  split
  · rfl
  · rfl

end Service

/-- An answered request took the next delivery of the script. -/
theorem Service.send_ok {S : Service σ ι κ ρ α} {c : Channel σ ι κ ρ α} {request : ρ}
    {answer : α} (h : (S.send c request).2 = .ok answer) :
    ∃ d rest, c.script = d :: rest ∧ (S.send c request).1.script = rest ∧
      S.serve (S.idle c.server d) d.context request =
        ((S.send c request).1.server, .ok answer) := by
  unfold send at h ⊢
  split at h
  · cases h
  · rename_i d rest hscript
    refine ⟨d, rest, hscript, rfl, ?_⟩
    dsimp only at h ⊢
    unfold deliver at h ⊢
    split_ifs at h ⊢ with harrives hreturns
    exact Prod.ext rfl h

theorem Service.idle_keeps {S : Service σ ι κ ρ α} {I : σ → Prop} {q : ι → Prop}
    (hmeanwhile : ∀ s i, q i → I s → I (S.meanwhile s i)) {server : σ}
    {d : Delivery ι κ} (hd : ∀ i ∈ d.before, q i) (hs : I server) : I (S.idle server d) := by
  unfold idle
  obtain ⟨before, _, _, _, _⟩ := d
  dsimp only at hd ⊢
  induction before generalizing server with
  | nil => exact hs
  | cons i rest ih =>
    exact ih (hmeanwhile server i (hd i List.mem_cons_self) hs)
      fun j hj => hd j (List.mem_cons_of_mem _ hj)

end Lib
