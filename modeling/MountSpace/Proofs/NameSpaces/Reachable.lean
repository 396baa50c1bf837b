import MountSpace.NameSpace.Command
import MountSpace.Proofs.Effects

/-!
# `MountSpace.Proofs.NameSpaces.Reachable`: name spaces in use

A name space comes about from an empty one by commands in any order, each
of them done or refused. Between commands the world below may change
without the name space: devices are added, or used by somebody else.
`others` says what changes of this kind there can be, and statements that
hold for every `others` hold whatever happens to the world.

`Reachable.holds` is the induction: what holds of empty name spaces, and
is kept by the world and by every command, holds of all of them.
-/

set_option autoImplicit false

namespace MountSpace.Proofs.NameSpaces

open Effects

variable {δ σ : Type} [Driver δ σ]

/-- The name spaces that come about by commands, while the world below
changes as `others` allows. -/
inductive Reachable (others : World δ σ → World δ σ → Prop) :
    NameSpace δ σ → Prop where
  | empty (descriptorLimit : Nat) :
    Reachable others (NameSpace.empty descriptorLimit)
  | outside {space : NameSpace δ σ} (world : World δ σ) :
    Reachable others space → others space.world world →
    Reachable others { space with world }
  | command {space after : NameSpace δ σ} {α : Type}
    (command : Command δ α) :
    Reachable others space →
    ((NameSpace.run command).run space).after? = some after →
    Reachable others after

/-- What is kept from the start on holds always. -/
theorem Reachable.holds {others : World δ σ → World δ σ → Prop}
    {inv : NameSpace δ σ → Prop}
    (start : ∀ descriptorLimit, inv (NameSpace.empty descriptorLimit))
    (outside : ∀ space world, inv space → others space.world world →
      inv { space with world })
    (keeps : ∀ {α : Type} (command : Command δ α),
      Keeps inv (NameSpace.run command))
    {space : NameSpace δ σ} (reachable : Reachable others space) :
    inv space := by
  induction reachable with
  | empty descriptorLimit => exact start descriptorLimit
  | outside world _ change ih => exact outside _ world ih change
  | command command _ left ih => exact (keeps command).of_after? ih left

/-- The name space after commands that answer nothing, unless one of them
stops. -/
def afterAll : List (Command δ Unit) → NameSpace δ σ →
    Option (NameSpace δ σ)
  | [], space => some space
  | command :: rest, space =>
    ((NameSpace.run command).run space).after?.bind (afterAll rest)

theorem Reachable.afterAll {others : World δ σ → World δ σ → Prop}
    {space after : NameSpace δ σ} (reachable : Reachable others space)
    {commands : List (Command δ Unit)}
    (left : afterAll commands space = some after) :
    Reachable others after := by
  induction commands generalizing space with
  | nil => exact Option.some.inj left ▸ reachable
  | cons command rest ih =>
    obtain ⟨next, first, others⟩ := Option.bind_eq_some_iff.mp left
    exact ih (reachable.command command first) others

end MountSpace.Proofs.NameSpaces
