import MountSpace.Fault

/-!
# `MountSpace.Event`: what is worth noting down

Volumes and the name space note down what they do, in the order in which
they do it. An event has a level, which says how much it matters, and a
text.
-/

set_option autoImplicit false

namespace MountSpace

/-- How much an event matters. -/
inductive Level where
  | debug
  | info
  | warn
  deriving DecidableEq, Repr

/-- Something worth noting down. -/
inductive Event where
  | typeRegistered (fsType : String)
  | typeUnregistered (fsType : String)
  | formatted (fsType : String)
  | mountRetried (path : String) (fault : Fault)
  | mounted (fsType path : String)
  | unmounted (path : String)
  | unmountFailed (path : String) (fault : Fault)
  | routed (path mountPath rest : String)
  | closeFailed (descriptor : Nat) (fault : Fault)
  | withdrawFailed (fault : Fault)
  | volumeMounted (blockCount blockSize : Nat)
  | volumeMountFailed (fault : Fault)
  | volumeFormatted (blockCount : Nat)
  | imageTooLarge (length capacity : Nat)
  | imageCommitted (length : Nat)
  deriving DecidableEq, Repr

namespace Event

/-- How much an event matters: failures most, look-ups and writes to a
device least. -/
def level : Event → Level
  | routed .. | imageCommitted .. => .debug
  | typeRegistered .. | typeUnregistered .. | formatted .. | mounted ..
  | unmounted .. | volumeMounted .. | volumeFormatted .. => .info
  | mountRetried .. | unmountFailed .. | closeFailed .. | withdrawFailed ..
  | volumeMountFailed .. | imageTooLarge .. => .warn

/-- The text of an event. -/
def text : Event → String
  | typeRegistered fsType => "vfs: register fs type '" ++ fsType ++ "'"
  | typeUnregistered fsType => "vfs: unregister fs type '" ++ fsType ++ "'"
  | formatted fsType => "vfs: mkfs '" ++ fsType ++ "' done"
  | mountRetried path fault =>
    "vfs: mount '" ++ path ++ "' failed (" ++ fault.message
      ++ "), formatting"
  | mounted fsType path => "vfs: mounted '" ++ fsType ++ "' at " ++ path
  | unmounted path => "vfs: unmounted " ++ path
  | unmountFailed path fault =>
    "vfs: driver unmount of " ++ path ++ " failed: " ++ fault.message
  | routed path mountPath rest =>
    "vfs: " ++ path ++ " -> " ++ mountPath ++ " (" ++ rest ++ ")"
  | closeFailed descriptor fault =>
    "vfs: driver close of fd " ++ toString descriptor ++ " failed: "
      ++ fault.message
  | withdrawFailed fault =>
    "vfs: close after failed fd alloc: " ++ fault.message
  | volumeMounted blockCount blockSize =>
    "blockfs: mounted " ++ toString blockCount ++ " x "
      ++ toString blockSize ++ " byte blocks"
  | volumeMountFailed fault => "blockfs: mount failed: " ++ fault.message
  | volumeFormatted blockCount =>
    "blockfs: formatted " ++ toString blockCount ++ " blocks"
  | imageTooLarge length capacity =>
    "blockfs: image of " ++ toString length ++ " bytes exceeds capacity "
      ++ toString capacity
  | imageCommitted length =>
    "blockfs: committed " ++ toString length ++ " byte image"

end Event

end MountSpace
