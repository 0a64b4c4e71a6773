import Shyam.Lib.Dict
import Shyam.Lib.Run

/-!
# Registers that publish their changes

A register of named entries publishes an event for every change. The events are a ledger: each fits
the entries that the events before it come to, and all of them together come to the entries that the
register has.
-/

namespace Ledger

open Python Transition

variable {α ε : Type}

/-- How entries are named, and which event stands for which change. -/
structure Kind (α ε : Type) where
  name : α → String
  added : α → ε
  replaced : (entry previous : α) → ε
  removed : String → ε

/-- How a reader of the events takes them: which events it can expect, and what they come to. -/
structure Reader (kind : Kind α ε) where
  Fits : Dict α → ε → Prop
  applyTo : Dict α → ε → Dict α
  added : ∀ {entries : Dict α} {entry : α}, entries.get? (kind.name entry) = none →
    Fits entries (kind.added entry)
      ∧ applyTo entries (kind.added entry) = entries.set (kind.name entry) entry
  replaced : ∀ {entries : Dict α} {entry previous : α},
    entries.get? (kind.name entry) = some previous →
    Fits entries (kind.replaced entry previous)
      ∧ applyTo entries (kind.replaced entry previous) = entries.set (kind.name entry) entry
  removed : ∀ {entries : Dict α} {name : String}, (entries.get? name).isSome →
    Fits entries (kind.removed name) ∧ applyTo entries (kind.removed name) = entries.erase name

/-- The entries, and what was published so far. -/
structure Register (α ε : Type) where
  entries : Dict α := ∅
  published : List ε := []

namespace Register

variable (kind : Kind α ε)

def put (entry : α) (register : Register α ε) : Register α ε where
  entries := register.entries.set (kind.name entry) entry
  published := register.published ++
    [match register.entries.get? (kind.name entry) with
      | some previous => kind.replaced entry previous
      | none => kind.added entry]

def remove (name : String) (register : Register α ε) : Register α ε where
  entries := register.entries.erase name
  published := register.published ++ [kind.removed name]

variable {kind} {register : Register α ε}

/-- The events fit, one after the other, and come to the entries. -/
structure Recorded (reader : Reader kind) (register : Register α ε) : Prop where
  fits : Along reader.applyTo reader.Fits ∅ register.published
  replay : run reader.applyTo ∅ register.published = register.entries

variable {reader : Reader kind}

theorem recorded_empty : Recorded reader {} := ⟨trivial, rfl⟩

/-- One more event that fits. -/
theorem Recorded.publish (h : Recorded reader register) {event : ε} {entries : Dict α}
    (hevent : reader.Fits register.entries event
      ∧ reader.applyTo register.entries event = entries) :
    Recorded reader ⟨entries, register.published ++ [event]⟩ where
  fits := along_append.mpr ⟨h.fits, h.replay ▸ hevent.1, trivial⟩
  replay := by rw [run_append, h.replay, run_cons, run_nil, hevent.2]

theorem Recorded.put (h : Recorded reader register) (entry : α) :
    Recorded reader (register.put kind entry) := by
  rw [Register.put]
  cases hprevious : register.entries.get? (kind.name entry) with
  | none => exact h.publish (reader.added hprevious)
  | some previous => exact h.publish (reader.replaced hprevious)

theorem Recorded.remove (h : Recorded reader register) {name : String}
    (hname : (register.entries.get? name).isSome) :
    Recorded reader (register.remove kind name) := h.publish (reader.removed hname)

theorem get?_put (entry : α) (name : String) : (register.put kind entry).entries.get? name
    = if name = kind.name entry then some entry else register.entries.get? name := Dict.get?_set ..

end Register

end Ledger
