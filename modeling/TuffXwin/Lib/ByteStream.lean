import Mathlib.Data.List.Basic
import Mathlib.Tactic.Common

/-! Streams of symbols. A source hands them out in pieces of any size; a decoder takes
from the front of the pieces that are left. A sink keeps what was written to it and may
fail at any call. `Decodes p symbols a` says that `p` reads exactly `symbols`, giving
`a`, however they are cut into pieces, and fails on every proper prefix of them. -/

namespace Lib

variable {σ ε α β : Type}
variable {symbols : List σ} {a : α} {pieces : List (List σ)} {symbol : σ} {bad : Prop} {e eof : ε}
variable {m : Type → Type}

abbrev Decoder (σ ε α : Type) := StateT (List (List σ)) (Except ε) α

/-- Ends with `e` when `bad` holds. -/
def bailIf {m : Type → Type} [Monad m] [MonadExcept ε m] (bad : Prop) [Decidable bad] (e : ε) :
    m Unit :=
  if bad then throw e else pure ()

theorem bailIf_pos [Monad m] [MonadExcept ε m] [Decidable bad] (h : bad) :
    (bailIf bad e : m Unit) = throw e := if_pos h

theorem bailIf_neg [Monad m] [MonadExcept ε m] [Decidable bad] (h : ¬bad) :
    (bailIf bad e : m Unit) = pure () := if_neg h

theorem ok_bind (a : α) (f : α → Except ε β) : (Except.ok a >>= f) = f a := rfl

theorem bailIf_bind_ok [Decidable bad] {f : Unit → Except ε α} :
    (bailIf bad e >>= f) = .ok a ↔ ¬bad ∧ f () = .ok a := by
  by_cases h : bad
  · rw [bailIf_pos h]
    exact ⟨fun hthrow => (by cases hthrow), fun hok => absurd h hok.1⟩
  · rw [bailIf_neg h]
    exact ⟨fun hok => ⟨h, hok⟩, fun hok => hok.2⟩

/-- The symbols that a buffered source shows next; none at the end of the stream. -/
def buffered : List (List σ) → List σ
  | [] => []
  | [] :: rest => buffered rest
  | (symbol :: piece) :: _ => symbol :: piece

/-- Takes the next symbol off the buffered piece. -/
def consumeOne : List (List σ) → List (List σ)
  | [] => []
  | [] :: rest => consumeOne rest
  | (_ :: piece) :: rest => piece :: rest

def takeExact : Nat → List (List σ) → Option (List σ × List (List σ))
  | n, [] => if n = 0 then some ([], []) else none
  | n, piece :: rest =>
    if n ≤ piece.length then some (piece.take n, piece.drop n :: rest)
    else (takeExact (n - piece.length) rest).map fun taken => (piece ++ taken.1, taken.2)

theorem buffered_of_flatten_nil (h : pieces.flatten = []) : buffered pieces = [] := by
  induction pieces with
  | nil => rfl
  | cons piece rest ih =>
    simp only [List.flatten_cons, List.append_eq_nil_iff] at h
    rw [h.1]
    exact ih h.2

theorem buffered_of_flatten (h : pieces.flatten = symbol :: symbols) :
    (buffered pieces).head? = some symbol ∧ (consumeOne pieces).flatten = symbols := by
  induction pieces with
  | nil => simp at h
  | cons piece rest ih =>
    cases piece with
    | nil => simpa [buffered, consumeOne] using ih (by simpa using h)
    | cons first piece =>
      simp only [List.flatten_cons, List.cons_append, List.cons.injEq] at h
      simp [buffered, consumeOne, h.1, h.2]

theorem takeExact_flatten {rest : List σ} (h : pieces.flatten = symbols ++ rest) :
    ∃ left, takeExact symbols.length pieces = some (symbols, left) ∧ left.flatten = rest := by
  induction pieces generalizing symbols with
  | nil =>
    simp only [List.flatten_nil, List.nil_eq, List.append_eq_nil_iff] at h
    exact ⟨[], by simp [takeExact, h.1], by simp [h.2]⟩
  | cons piece pieces ih =>
    simp only [List.flatten_cons] at h
    by_cases hle : symbols.length ≤ piece.length
    · obtain ⟨after, hpiece⟩ := List.prefix_of_prefix_length_le
        ⟨rest, h.symm⟩ (List.prefix_append piece pieces.flatten) hle
      subst hpiece
      simp only [List.append_assoc, List.append_cancel_left_eq] at h
      exact ⟨after :: pieces, by simp [takeExact], by simpa using h⟩
    · obtain ⟨after, hsymbols⟩ := List.prefix_of_prefix_length_le
        (List.prefix_append piece pieces.flatten) ⟨rest, h.symm⟩ (by omega)
      subst hsymbols
      simp only [List.append_assoc, List.append_cancel_left_eq] at h
      obtain ⟨left, htake, hleft⟩ := ih h
      refine ⟨left, ?_, hleft⟩
      rw [takeExact, if_neg hle]
      simp [htake]

theorem takeExact_short {n : Nat} (h : pieces.flatten.length < n) : takeExact n pieces = none := by
  induction pieces generalizing n with
  | nil =>
    simp only [List.flatten_nil, List.length_nil] at h
    simp [takeExact, Nat.pos_iff_ne_zero.mp h]
  | cons piece pieces ih =>
    simp only [List.flatten_cons, List.length_append] at h
    rw [takeExact, if_neg (by omega), ih (by omega)]
    rfl

def orBail (value : Option α) (e : ε) : Decoder σ ε α :=
  match value with
  | some a => pure a
  | none => throw e

/-- The next symbol, left in the stream. -/
def peek (eof : ε) : Decoder σ ε σ := do
  orBail (buffered (← get)).head? eof

/-- Reads `n` symbols, or fails with `eof` when the stream ends before. -/
def readExact (n : Nat) (eof : ε) : Decoder σ ε (List σ) := fun pieces =>
  match takeExact n pieces with
  | some taken => .ok taken
  | none => .error eof

def repeated : Nat → Decoder σ ε α → Decoder σ ε (List α)
  | 0, _ => pure []
  | n + 1, p => do
    let first ← p
    let others ← repeated n p
    pure (first :: others)

structure Decodes (p : Decoder σ ε α) (symbols : List σ) (a : α) : Prop where
  reads : ∀ (pieces : List (List σ)) (rest : List σ), pieces.flatten = symbols ++ rest →
    ∃ left, p pieces = .ok (a, left) ∧ left.flatten = rest
  truncated : ∀ (pieces : List (List σ)) (missing : List σ),
    pieces.flatten ++ missing = symbols → missing ≠ [] → ∃ e, p pieces = .error e

namespace Decodes

variable {f : α → Decoder σ ε β} {b : β}

theorem pure (a : α) : Decodes (Pure.pure a : Decoder σ ε α) [] a where
  reads pieces rest h := ⟨pieces, rfl, by simpa using h⟩
  truncated pieces missing h hmissing := by simp [hmissing] at h

theorem bind {p : Decoder σ ε α} {first second : List σ} (hp : Decodes p first a)
    (hf : Decodes (f a) second b) : Decodes (p >>= f) (first ++ second) b where
  reads pieces rest h := by
    obtain ⟨left, hrun, hleft⟩ := hp.reads pieces (second ++ rest) (by simpa using h)
    obtain ⟨left', hrun', hleft'⟩ := hf.reads left rest hleft
    refine ⟨left', ?_, hleft'⟩
    change (p pieces >>= fun r => f r.1 r.2) = _
    rw [hrun]
    exact hrun'
  truncated pieces missing h hmissing := by
    change ∃ e, (p pieces >>= fun r => f r.1 r.2) = _
    by_cases hlt : pieces.flatten.length < first.length
    · obtain ⟨gap, hgap⟩ := List.prefix_of_prefix_length_le
        ⟨missing, h⟩ (List.prefix_append first second) (by omega)
      have hne : gap ≠ [] := by
        intro hnil
        rw [← hgap, hnil, List.append_nil] at hlt
        omega
      obtain ⟨e, he⟩ := hp.truncated pieces gap hgap hne
      exact ⟨e, by rw [he]; rfl⟩
    · obtain ⟨read, hread⟩ := List.prefix_of_prefix_length_le
        (List.prefix_append first second) ⟨missing, h⟩ (by omega)
      obtain ⟨left, hrun, hleft⟩ := hp.reads pieces read hread.symm
      have hsecond : left.flatten ++ missing = second := by
        rw [← hread, List.append_assoc, List.append_cancel_left_eq] at h
        rw [hleft, h]
      obtain ⟨e, he⟩ := hf.truncated left missing hsecond hmissing
      exact ⟨e, by rw [hrun]; exact he⟩

/-- A step that reads nothing and passes leaves the rest to decode. -/
theorem skip {p : Decoder σ ε α} (hp : p = Pure.pure a) (hf : Decodes (f a) symbols b) :
    Decodes (p >>= f) symbols b := by
  subst hp
  exact (Decodes.pure a).bind hf

theorem readExact (symbols : List σ) (eof : ε) {n : Nat} (hn : n = symbols.length) :
    Decodes (readExact n eof) symbols symbols where
  reads pieces rest h := by
    obtain ⟨left, htake, hleft⟩ := takeExact_flatten h
    exact ⟨left, by simp [Lib.readExact, hn, htake], hleft⟩
  truncated pieces missing h hmissing := by
    have hshort : pieces.flatten.length < n := by
      have := List.length_pos_of_ne_nil hmissing
      rw [hn, ← h, List.length_append]
      omega
    exact ⟨eof, by simp [Lib.readExact, takeExact_short hshort]⟩

theorem peek {k : σ → Decoder σ ε α} (hreads : ∀ (pieces : List (List σ)) (rest : List σ),
      pieces.flatten = symbol :: (symbols ++ rest) →
      ∃ left, k symbol pieces = .ok (a, left) ∧ left.flatten = rest)
    (htruncated : ∀ (pieces : List (List σ)) (front missing : List σ),
      pieces.flatten = symbol :: front → front ++ missing = symbols → missing ≠ [] →
      ∃ e, k symbol pieces = .error e) : Decodes (peek eof >>= k) (symbol :: symbols) a where
  reads pieces rest h := by
    obtain ⟨left, hrun, hleft⟩ := hreads pieces rest h
    refine ⟨left, ?_, hleft⟩
    change ((orBail (buffered pieces).head? eof : Decoder σ ε σ) pieces >>= fun r => k r.1 r.2) = _
    rw [(buffered_of_flatten h).1]
    exact hrun
  truncated pieces missing h hmissing := by
    change ∃ e, ((orBail (buffered pieces).head? eof : Decoder σ ε σ) pieces >>=
      fun r => k r.1 r.2) = _
    cases hfront : pieces.flatten with
    | nil =>
      rw [buffered_of_flatten_nil hfront]
      exact ⟨eof, rfl⟩
    | cons first front =>
      rw [hfront, List.cons_append, List.cons.injEq] at h
      obtain ⟨rfl, hsymbols⟩ := h
      rw [(buffered_of_flatten hfront).1]
      exact htruncated pieces front missing hfront hsymbols hmissing

/-- A choice by the first symbol, which the chosen decoder reads again. -/
theorem peeked {k : σ → Decoder σ ε α} (h : Decodes (k symbol) (symbol :: symbols) a) :
    Decodes (Lib.peek eof >>= k) (symbol :: symbols) a :=
  peek h.reads fun pieces front missing hpieces hsymbols hmissing =>
    h.truncated pieces missing (by rw [hpieces, List.cons_append, hsymbols]) hmissing

/-- A choice by a tag, which is taken off before the chosen decoder reads. -/
theorem tagged {k : σ → Decoder σ ε α} {p : Decoder σ ε α}
    (hk : k symbol = modify consumeOne >>= fun _ => p) (h : Decodes p symbols a) :
    Decodes (Lib.peek eof >>= k) (symbol :: symbols) a := by
  refine peek ?_ ?_
  · intro pieces rest hpieces
    rw [hk]
    exact h.reads (consumeOne pieces) rest (buffered_of_flatten hpieces).2
  · intro pieces front missing hpieces hsymbols hmissing
    rw [hk]
    refine h.truncated (consumeOne pieces) missing ?_ hmissing
    rw [(buffered_of_flatten hpieces).2, hsymbols]

/-- The values of `items`, read one after another. -/
theorem repeated {ι : Type} {p : Decoder σ ε α} {encode : ι → List σ} {value : ι → α}
    {items : List ι} (h : ∀ item ∈ items, Decodes p (encode item) (value item)) :
    Decodes (Lib.repeated items.length p) (items.flatMap encode) (items.map value) := by
  induction items with
  | nil => exact Decodes.pure []
  | cons item items ih =>
    have hrest := ih fun other hother => h other (List.mem_cons_of_mem item hother)
    have hcollect : Decodes
        (Lib.repeated items.length p >>= fun others => Pure.pure (value item :: others))
        (items.flatMap encode ++ []) (value item :: items.map value) :=
      hrest.bind (Decodes.pure _)
    rw [List.append_nil] at hcollect
    exact (h item List.mem_cons_self).bind hcollect

end Decodes

/-- What was written, and how the next calls end: `none` is a call that takes all of its
symbols, `some n` one that fails after `n` of them. Later calls take all. -/
structure Sink (σ : Type) where
  written : List σ := []
  failures : List (Option Nat) := []

inductive WriteError
  | rejected (reason : String)
  | failed (context : String)
  deriving DecidableEq, Repr

abbrev Sending (σ α : Type) := EStateM WriteError (Sink σ) α

def check : Except String α → Sending σ α
  | .ok a => pure a
  | .error reason => throw (.rejected reason)

def writeAll (symbols : List σ) (context : String) : Sending σ Unit := fun sink =>
  match sink.failures with
  | [] => .ok () { sink with written := sink.written ++ symbols }
  | none :: rest => .ok () ⟨sink.written ++ symbols, rest⟩
  | some n :: rest => .error (.failed context) ⟨sink.written ++ symbols.take n, rest⟩

/-- The program writes `symbols` unless the sink fails it; it rejects nothing. -/
structure Writes (p : Sending σ Unit) (symbols : List σ) : Prop where
  run : ∀ sink, match p sink with
    | .ok _ after =>
      after.written = sink.written ++ symbols ∧ (sink.failures = [] → after.failures = [])
    | .error e _ => (∃ context, e = .failed context) ∧ sink.failures ≠ []

namespace Writes

theorem writeAll (symbols : List σ) (context : String) :
    Writes (writeAll symbols context) symbols := by
  refine ⟨fun sink => ?_⟩
  obtain ⟨written, failures⟩ := sink
  cases failures with
  | nil => simp [Lib.writeAll]
  | cons first rest => cases first <;> simp [Lib.writeAll]

/-- A sink that does not fail takes it all. -/
theorem accepted {p : Sending σ Unit} (h : Writes p symbols) (sink : Sink σ)
    (hsink : sink.failures = []) :
    ∃ after, p sink = .ok () after ∧ after.written = sink.written ++ symbols := by
  have hrun := h.run sink
  cases hresult : p sink with
  | ok u after =>
    rw [hresult] at hrun
    exact ⟨after, rfl, hrun.1⟩
  | error e after =>
    rw [hresult] at hrun
    exact absurd hsink hrun.2

theorem pure : Writes (Pure.pure () : Sending σ Unit) [] :=
  ⟨fun _ => ⟨(List.append_nil _).symm, id⟩⟩

theorem bind {p q : Sending σ Unit} {first second : List σ} (hp : Writes p first)
    (hq : Writes q second) : Writes (p >>= fun _ => q) (first ++ second) := by
  refine ⟨fun sink => ?_⟩
  have hfirst := hp.run sink
  change match EStateM.bind p (fun _ => q) sink with
    | .ok _ after =>
      after.written = sink.written ++ (first ++ second) ∧
        (sink.failures = [] → after.failures = [])
    | .error e _ => (∃ context, e = .failed context) ∧ sink.failures ≠ []
  unfold EStateM.bind
  cases hrun : p sink with
  | ok u middle =>
    rw [hrun] at hfirst
    obtain ⟨hwritten, hkept⟩ := hfirst
    have hsecond := hq.run middle
    change match q middle with
      | .ok _ after =>
        after.written = sink.written ++ (first ++ second) ∧
          (sink.failures = [] → after.failures = [])
      | .error e _ => (∃ context, e = .failed context) ∧ sink.failures ≠ []
    cases hrun' : q middle with
    | ok u' after =>
      rw [hrun'] at hsecond
      exact ⟨by rw [hsecond.1, hwritten, List.append_assoc], fun h => hsecond.2 (hkept h)⟩
    | error e after =>
      rw [hrun'] at hsecond
      exact ⟨hsecond.1, fun h => hsecond.2 (hkept h)⟩
  | error e after =>
    rw [hrun] at hfirst
    exact hfirst

theorem forM {ι : Type} {p : ι → Sending σ Unit} {encode : ι → List σ}
    (h : ∀ item, Writes (p item) (encode item)) (items : List ι) :
    Writes (items.forM p) (items.flatMap encode) := by
  induction items with
  | nil => exact pure
  | cons item items ih => exact (h item).bind ih

end Writes

end Lib
