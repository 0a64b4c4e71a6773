import Mathlib.Data.List.Destutter
import Mathlib.Order.Basic
import Mathlib.Data.List.Nodup

/-!
# The continuity lifecycle

The transition table, and a rank that every transition raises. So a path of the table never meets a
state twice.
-/

namespace Shyam

inductive ContinuityState where
  | requested
  | validating
  | targetSelected
  | authorized
  | preparing
  | transferring
  | reconstructing
  | continuing
  | verifying
  | completed
  | failed
  | cancelled
  | unsupported
  | unknown
deriving DecidableEq, Repr

namespace ContinuityState

def value : ContinuityState → String
  | requested => "requested"
  | validating => "validating"
  | targetSelected => "target_selected"
  | authorized => "authorized"
  | preparing => "preparing"
  | transferring => "transferring"
  | reconstructing => "reconstructing"
  | continuing => "continuing"
  | verifying => "verifying"
  | completed => "completed"
  | failed => "failed"
  | cancelled => "cancelled"
  | unsupported => "unsupported"
  | unknown => "unknown"

def validTransitions : ContinuityState → List ContinuityState
  | requested => [validating, failed, cancelled, unsupported]
  | validating => [targetSelected, failed, cancelled, unsupported]
  | targetSelected => [authorized, failed, cancelled]
  | authorized => [preparing, failed, cancelled]
  | preparing => [transferring, failed, cancelled]
  | transferring => [reconstructing, failed, cancelled]
  | reconstructing => [continuing, failed, cancelled]
  | continuing => [verifying, failed, cancelled]
  | verifying => [completed, failed, unknown]
  | completed | failed | cancelled | unsupported | unknown => []

def terminalStates : List ContinuityState := [completed, failed, cancelled, unsupported, unknown]

def isValidTransition (current target : ContinuityState) : Bool :=
  target ∈ current.validTransitions

def isTerminal (state : ContinuityState) : Bool := state ∈ terminalStates

/-- The stage of a state; terminal states come last. -/
def rank : ContinuityState → Nat
  | requested => 0
  | validating => 1
  | targetSelected => 2
  | authorized => 3
  | preparing => 4
  | transferring => 5
  | reconstructing => 6
  | continuing => 7
  | verifying => 8
  | completed | failed | cancelled | unsupported | unknown => 9

theorem rank_lt_of_isValidTransition {current target : ContinuityState}
    (h : isValidTransition current target = true) : current.rank < target.rank := by
  cases current <;> cases target <;> first | decide | exact absurd h (by decide)

theorem not_isValidTransition_of_isTerminal {current : ContinuityState}
    (h : current.isTerminal = true) (target : ContinuityState) :
    isValidTransition current target = false := by
  cases current <;> cases target <;> first | decide | exact absurd h (by decide)

def IsPath (states : List ContinuityState) : Prop :=
  states.IsChain fun current target => isValidTransition current target = true

theorem IsPath.nodup {states : List ContinuityState} (h : IsPath states) : states.Nodup := by
  have hranks : (states.map rank).IsChain (· < ·) :=
    (List.isChain_map rank).mpr (h.imp fun _ _ => rank_lt_of_isValidTransition)
  apply List.Nodup.of_map rank
  apply hranks.pairwise.imp
  intro a b hlt
  exact Nat.ne_of_lt hlt

theorem head?_destutter' (first : ContinuityState) (rest : List ContinuityState) :
    (rest.destutter' (· ≠ ·) first).head? = some first := by
  induction rest with
  | nil => rfl
  | cons second rest ih =>
      rw [List.destutter'_cons]
      split_ifs
      · rfl
      · exact ih

theorem head?_destutter (states : List ContinuityState) :
    (states.destutter (· ≠ ·)).head? = states.head? := by
  cases states with
  | nil => rfl
  | cons first rest => exact head?_destutter' first rest

/-- A sequence that repeats a state or follows the table is a path once repetitions are dropped. -/
theorem isPath_destutter {states : List ContinuityState}
    (h : states.IsChain fun current target =>
      current = target ∨ isValidTransition current target = true) :
    IsPath (states.destutter (· ≠ ·)) := by
  cases states with
  | nil => exact .nil
  | cons first rest =>
      rw [List.destutter_cons']
      induction rest generalizing first with
      | nil => exact .singleton first
      | cons second rest ih =>
          rw [List.isChain_cons_cons] at h
          rw [List.destutter'_cons]
          split_ifs with hne
          · apply List.isChain_cons.mpr
            refine ⟨fun target htarget => ?_, ih second h.2⟩
            rw [head?_destutter', Option.mem_some_iff] at htarget
            exact htarget ▸ h.1.resolve_left hne
          · have hsame : first = second := not_not.mp hne
            exact hsame ▸ ih second h.2

end ContinuityState

end Shyam
