import CanOpen.Message

/-!
# Transports

What a master needs of a bus: it sends messages, receives them one by one and
may let through those of a single node only.  The state of a transport is a
value that every operation hands on.

A transport has a horizon, a bound on the messages that it can still deliver.
Nothing else bounds a transfer with a node that goes on for ever, so the
horizon is what makes every transfer end.

A bus promises no horizon.  But whatever its operations do, cut off after so many
messages they make a transport: `Transport.CutOff` is one for any operations and any
number of messages.
-/

set_option autoImplicit false

namespace CanOpen

/-- A bus as a master sees it, with states `σ` and failures `ε`.  Operations that know no
horizon become a transport by being cut off after any number of receptions. -/
class Transport (σ : Type) (ε : outParam Type) where
  send : Message → σ → Except ε Unit × σ
  receive : σ → Except ε Message × σ
  setNodeFilter : UInt8 → σ → Except ε Unit × σ
  clearNodeFilter : σ → Except ε Unit × σ := fun state => (.ok (), state)
  /-- A bound on the messages still to be received. -/
  horizon : σ → Nat
  horizon_receive_lt : ∀ (state rest : σ) (message : Message),
    receive state = (.ok message, rest) → horizon rest < horizon state
  horizon_send_le : ∀ (message : Message) (state : σ),
    horizon (send message state).2 ≤ horizon state

inductive Reception (σ ε : Type) [Transport σ ε] (bound : Nat) where
  | failed (cause : ε) (rest : σ)
  | arrived (message : Message) (rest : σ) (lower : Transport.horizon rest < bound)

def Reception.ofResult {σ ε : Type} [Transport σ ε] {bound : Nat} (rest : σ) :
    (result : Except ε Message) →
    (∀ message, result = .ok message → Transport.horizon rest < bound) → Reception σ ε bound
  | .error cause, _ => .failed cause rest
  | .ok message, lowers => .arrived message rest (lowers message rfl)

def Transport.reception {σ ε : Type} [Transport σ ε] (state : σ) :
    Reception σ ε (Transport.horizon state) :=
  Reception.ofResult (Transport.receive state).2 (Transport.receive state).1
    fun message arrived =>
      Transport.horizon_receive_lt state (Transport.receive state).2 message
        (Prod.ext arrived rfl)

namespace Transport

structure Operations (σ ε : Type) where
  send : Message → σ → Except ε Unit × σ
  receive : σ → Except ε Message × σ
  setNodeFilter : UInt8 → σ → Except ε Unit × σ
  clearNodeFilter : σ → Except ε Unit × σ

/-- A bus with these operations that can be asked for a message so many times more. -/
structure CutOff {σ ε : Type} (operations : Operations σ ε) (exhausted : ε) where
  state : σ
  left : Nat

instance {σ ε : Type} (operations : Operations σ ε) (exhausted : ε) :
    Transport (CutOff operations exhausted) ε where
  send message bus := (operations.send message bus.state).map id ({ bus with state := · })
  receive bus :=
    match bus.left with
    | 0 => (.error exhausted, bus)
    | left + 1 => (operations.receive bus.state).map id (⟨·, left⟩)
  setNodeFilter node bus :=
    (operations.setNodeFilter node bus.state).map id ({ bus with state := · })
  clearNodeFilter bus := (operations.clearNodeFilter bus.state).map id ({ bus with state := · })
  horizon := CutOff.left
  horizon_receive_lt := by
    rintro ⟨state, _ | left⟩ rest message received
    · cases received
    · obtain ⟨_, rfl⟩ := Prod.mk.inj received
      exact Nat.lt_succ_self left
  horizon_send_le _ bus := Nat.le_refl bus.left

variable {σ ε : Type} [Transport σ ε] {state rest : σ}

theorem reception_of_ok {message : Message} (received : receive state = (.ok message, rest)) :
    ∃ lower, reception state = .arrived message rest lower := by
  have general (result : Except ε Message) (other : σ)
      (lowers : ∀ message, result = .ok message → horizon other < horizon state)
      (same : (result, other) = (.ok message, rest)) :
      ∃ lower, Reception.ofResult other result lowers = .arrived message rest lower := by
    cases same
    exact ⟨lowers message rfl, rfl⟩
  exact general _ _ _ received

theorem reception_of_error {cause : ε} (failed : receive state = (.error cause, rest)) :
    reception state = .failed cause rest := by
  have general (result : Except ε Message) (other : σ)
      (lowers : ∀ message, result = .ok message → horizon other < horizon state)
      (same : (result, other) = (.error cause, rest)) :
      Reception.ofResult other result lowers = .failed cause rest := by
    cases same
    rfl
  exact general _ _ _ failed

end Transport

end CanOpen
