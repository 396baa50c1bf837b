import MountSpace.Driver

/-!
# `MountSpace.World`: devices, and the drivers at work on them

A world holds all devices and all drivers that have been made, each
under the number it got when it came, and the events noted so far. A
driver works on one device; several drivers may share one. A driver or
device is never taken away, so its number stays good.

`World.call` hands a request to a driver. It touches nothing but that
driver, its device and the events.
-/

set_option autoImplicit false

namespace MountSpace

/-- The number of a device. -/
abbrev DeviceId : Type := Nat

/-- The number of a driver. -/
abbrev DriverId : Type := Nat

/-- A driver, and the device that it works on. -/
structure Installed (δ : Type) where
  driver : δ
  device : DeviceId
  deriving DecidableEq, Repr

/-- Devices, drivers and events. -/
structure World (δ σ : Type) where
  devices : List σ
  drivers : List (Installed δ)
  /-- The events, the last one first. -/
  events : List Event
  deriving DecidableEq

namespace World

variable {δ σ α : Type}

/-- A world without devices. -/
def empty : World δ σ := ⟨[], [], []⟩

/-- Adds a device, and answers its number. -/
def addDevice (device : σ) : Action (World δ σ) DeviceId where
  run world :=
    .done world.devices.length
      { world with devices := world.devices ++ [device] }

/-- Adds a driver for a device, and answers its number. -/
def install (device : DeviceId) (driver : δ) :
    Action (World δ σ) DriverId where
  run world :=
    .done world.drivers.length
      { world with drivers := world.drivers ++ [⟨driver, device⟩] }

/-- Notes an event. -/
def note (event : Event) : Action (World δ σ) Unit :=
  Action.modify fun world =>
    { world with events := event :: world.events }

/-- The events noted so far, the first one first. They are forgotten. -/
def takeEvents : Action (World δ σ) (List Event) where
  run world := .done world.events.reverse { world with events := [] }

/-- Calls a device. -/
def callDevice (device : DeviceId) (call : Call σ α) :
    Action (World δ σ) α where
  run world :=
    match world.devices[device]? with
    | none => .refused .noDevice world
    | some state =>
      (Action.within (fun _ => state)
        (fun state world =>
          { world with devices := world.devices.set device state })
        (Action.ofCall call)).run world

/-- The state of a driver. -/
def driver? (world : World δ σ) (driver : DriverId) : Option δ :=
  world.drivers[driver]?.map Installed.driver

/-- Changes the state of a driver. -/
def mapDriver (driver : DriverId) (change : δ → δ) :
    Action (World δ σ) Unit :=
  Action.modify fun world =>
    { world with
      drivers := world.drivers.modify driver fun installed =>
        { installed with driver := change installed.driver } }

/-- What a driver at work finds: its state, its device, the events. -/
def site? (world : World δ σ) (driver : DriverId) :
    Option (Site δ σ) := do
  let installed ← world.drivers[driver]?
  let device ← world.devices[installed.device]?
  return ⟨installed.driver, ⟨device, world.events⟩⟩

/-- Puts back what a driver has left. -/
def putSite (driver : DriverId) (site : Site δ σ) (world : World δ σ) :
    World δ σ :=
  match world.drivers[driver]? with
  | none => world
  | some installed =>
    { devices := world.devices.set installed.device site.medium.device
      drivers :=
        world.drivers.set driver { installed with driver := site.driver }
      events := site.medium.events }

/-- Hands a request to a driver. -/
def call [Driver δ σ] (driver : DriverId) (request : Request α) :
    Action (World δ σ) α where
  run world :=
    match world.site? driver with
    | none => .refused .noDevice world
    | some site =>
      (Action.within (fun _ => site) (putSite driver)
        (Driver.serve request)).run world

end World

end MountSpace
