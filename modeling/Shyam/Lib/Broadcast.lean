import Mathlib.Data.List.Basic
import Mathlib.Logic.Function.Basic
import Shyam.Lib.Run

/-!
# Broadcasts over a lossy network

Parties broadcast into the air. What was sent may reach any party at any later time, any number of
times, in any order, or never. What a party believes is judged against all that was ever sent, so a
belief is not given up when more is sent.
-/

namespace Broadcast

open Transition

/-- The parties, and all that was sent so far. -/
structure Lan (ι σ μ : Type) where
  party : ι → σ
  air : List μ

/-- A party sends, a message reaches a party, or a party takes a step of its own. -/
inductive LanAction (ι ω κ α : Type) where
  | send (i : ι) (occasion : ω)
  | deliver (i : ι) (message : ℕ) (circumstance : κ)
  | act (i : ι) (action : α)

/-- What the parties do. -/
structure Parties (ι σ μ ω κ α : Type) where
  emit : ι → ω → Option μ
  receive : ι → κ → μ → σ → σ
  act : ι → α → σ → σ

namespace Lan

variable {ι σ μ ω κ α : Type} [DecidableEq ι] (parties : Parties ι σ μ ω κ α)

def change (i : ι) (f : σ → σ) (lan : Lan ι σ μ) : Lan ι σ μ :=
  { lan with party := Function.update lan.party i (f (lan.party i)) }

def step (lan : Lan ι σ μ) : LanAction ι ω κ α → Lan ι σ μ
  | .send i occasion => { lan with air := lan.air ++ (parties.emit i occasion).toList }
  | .deliver i message circumstance =>
      match lan.air[message]? with
      | some m => lan.change i (parties.receive i circumstance m)
      | none => lan
  | .act i action => lan.change i (parties.act i action)

variable {parties} {Sent : μ → Prop} {Belief : List μ → ι → σ → Prop} {lan : Lan ι σ μ}

/-- Everything in the air is genuine, and every party's belief is backed by it. -/
structure Backed (Sent : μ → Prop) (Belief : List μ → ι → σ → Prop) (lan : Lan ι σ μ) : Prop where
  air : ∀ m ∈ lan.air, Sent m
  party : ∀ i, Belief lan.air i (lan.party i)

theorem Backed.change (h : lan.Backed Sent Belief) {i : ι} {f : σ → σ}
    (hf : Belief lan.air i (f (lan.party i))) : (lan.change i f).Backed Sent Belief where
  air := h.air
  party j := by
    by_cases hj : j = i
    · subst hj
      have hself : (lan.change j f).party j = f (lan.party j) := Function.update_self ..
      rw [hself]
      exact hf
    · have hother : (lan.change i f).party j = lan.party j := Function.update_of_ne hj ..
      rw [hother]
      exact h.party j

/-- What keeps a belief backed. -/
structure Provable (parties : Parties ι σ μ ω κ α) (Sent : μ → Prop)
    (Belief : List μ → ι → σ → Prop) : Prop where
  mono : ∀ {air air' i s}, air ⊆ air' → Belief air i s → Belief air' i s
  emit : ∀ i occasion, ∀ m ∈ parties.emit i occasion, Sent m
  receive : ∀ i circumstance {air m s}, m ∈ air → Sent m → Belief air i s →
    Belief air i (parties.receive i circumstance m s)
  act : ∀ i action {air s}, Belief air i s → Belief air i (parties.act i action s)

theorem Provable.step (hprovable : Provable parties Sent Belief) (h : lan.Backed Sent Belief)
    (action : LanAction ι ω κ α) : (Lan.step parties lan action).Backed Sent Belief := by
  cases action with
  | send i occasion =>
      refine ⟨fun m hm => ?_, fun j => hprovable.mono (List.subset_append_left _ _) (h.party j)⟩
      rcases List.mem_append.mp hm with hm | hm
      · exact h.air m hm
      · exact hprovable.emit i occasion m (Option.mem_toList.mp hm)
  | deliver i message circumstance =>
      rw [Lan.step]
      split
      · next m hm =>
          have hmem : m ∈ lan.air := List.mem_of_getElem? hm
          exact h.change (hprovable.receive i circumstance hmem (h.air m hmem) (h.party i))
      · exact h
  | act i action => exact h.change (hprovable.act i action (h.party i))

/-- **Provenance.** Whatever is lost, repeated or late, what a party believes is
backed by what was sent. -/
theorem Provable.run (hprovable : Provable parties Sent Belief) (h : lan.Backed Sent Belief)
    (actions : List (LanAction ι ω κ α)) :
    (Transition.run (Lan.step parties) lan actions).Backed Sent Belief :=
  run_of_invariant (I := Backed Sent Belief) (fun _ action hs => hprovable.step hs action) actions h

end Lan

end Broadcast
