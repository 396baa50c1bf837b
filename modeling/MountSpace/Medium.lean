import MountSpace.Effect
import MountSpace.Event

/-!
# `MountSpace.Medium`: what a driver works on

A driver works on a `Site`: its own state, and a `Medium`, which is its
device together with the list of events noted so far.

* `Medium.ask`, `Medium.note`: one call to the device, one event more.
* `Site.onMedium`: an operation on the medium, which leaves the state of
  the driver alone.
* `Site.hosting`: a driver inside another one.

The lemmas `run_…` say what each of them does.
-/

set_option autoImplicit false

namespace MountSpace

/-- A device, and the events noted so far. -/
structure Medium (σ : Type) where
  device : σ
  /-- The events, the last one first. -/
  events : List Event
  deriving DecidableEq

namespace Medium

variable {σ α : Type}

/-- Calls the device. -/
def ask (call : Call σ α) : Action (Medium σ) α :=
  Action.within Medium.device (fun device medium => { medium with device })
    (Action.ofCall call)

/-- Notes an event. -/
def note (event : Event) : Action (Medium σ) Unit :=
  Action.modify fun medium =>
    { medium with events := event :: medium.events }

@[simp]
theorem run_note (event : Event) (medium : Medium σ) :
    (note event).run medium
      = .done () { medium with events := event :: medium.events } := rfl

theorem run_ask (call : Call σ α) (medium : Medium σ) :
    (ask call).run medium =
      match call.run medium.device with
      | .ok (value, device) => .done value { medium with device }
      | .error trap => .stopped trap := by
  -- The left side looks at the end of the call twice, the right side once.
  simp only [ask, Action.run_within, Action.run_ofCall]
  cases call.run medium.device <;> rfl

end Medium

/-- A driver at work: its state and its medium. -/
structure Site (δ σ : Type) where
  driver : δ
  medium : Medium σ
  deriving DecidableEq

namespace Site

variable {δ σ α : Type}

/-- An operation on the medium alone. -/
def onMedium (action : Action (Medium σ) α) : Action (Site δ σ) α :=
  Action.within Site.medium (fun medium site => { site with medium }) action

/-- The state of the driver. -/
def getDriver : Action (Site δ σ) δ where
  run site := .done site.driver site

/-- Replaces the state of the driver. -/
def setDriver (driver : δ) : Action (Site δ σ) Unit :=
  Action.modify fun site => { site with driver }

/-- Changes the state of the driver. -/
def modifyDriver (change : δ → δ) : Action (Site δ σ) Unit :=
  Action.modify fun site => { site with driver := change site.driver }

/-- An operation of a driver with the state `inner`, as one of a driver
whose state `outer` makes of it. -/
def hosting {ε : Type} (inner : δ) (outer : δ → ε)
    (action : Action (Site δ σ) α) : Action (Site ε σ) α :=
  Action.within (fun site => ⟨inner, site.medium⟩)
    (fun site _ => ⟨outer site.driver, site.medium⟩) action

@[simp]
theorem run_getDriver (site : Site δ σ) :
    (getDriver : Action (Site δ σ) δ).run site = .done site.driver site :=
  rfl

@[simp]
theorem run_setDriver (driver : δ) (site : Site δ σ) :
    (setDriver driver).run site = .done () { site with driver } := rfl

@[simp]
theorem run_modifyDriver (change : δ → δ) (site : Site δ σ) :
    (modifyDriver change).run site
      = .done () { site with driver := change site.driver } := rfl

theorem run_onMedium (action : Action (Medium σ) α) (site : Site δ σ) :
    (onMedium action : Action (Site δ σ) α).run site =
      match action.run site.medium with
      | .done value medium => .done value { site with medium }
      | .refused fault medium => .refused fault { site with medium }
      | .stopped trap => .stopped trap := by
  rw [onMedium, Action.run_within]
  cases action.run site.medium <;> rfl

end Site

end MountSpace
