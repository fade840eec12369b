import ModuleHooks.Journal
/-!
# Registration

The library is installed into a host once. A guard remembers whether that has happened;
whoever takes the guard first registers with the host, and everybody after that is
turned away.

Installing is two steps: taking the guard, and registering. They are separate functions
so that one can speak about what happens between them.
-/

namespace ModuleHooks

/-- The two ways into a host. -/
inductive HostKind where
  /-- Hooks for resolving and loading. -/
  | hooks
  /-- A plugin that is handed files. -/
  | plugin
  deriving DecidableEq, Repr

/-- **A guard and what the hosts behind it received.** -/
structure Registration where
  /-- Whether the guard is taken. -/
  registered : Bool := false
  /-- What the hosts received, in order. -/
  received : List (HostKind × Config) := []
  deriving DecidableEq, Repr

namespace Registration

/-- **Takes the guard**, if it is free, and says whether it was. -/
def take (r : Registration) : Registration × Bool :=
  if r.registered then (r, false) else ({ r with registered := true }, true)

/-- **Registers with a host.** -/
def deliver (r : Registration) (kind : HostKind) (c : Config) : Registration :=
  { r with received := r.received ++ [(kind, c)] }

/-- The note that goes with a registration. -/
def deliveryEvent : HostKind → Event
  | .hooks => .registeringHooks
  | .plugin => .registeringPlugin

/-- **Installs the library**, unless that has happened already, and says whether it
did. -/
def install (r : Registration) (kind : HostKind) (c : Config) : Logged (Registration × Bool) :=
  match r.take with
  | (r, true) => .noted (deliveryEvent kind) (.silent (r.deliver kind c, true))
  | (r, false) => .noted .alreadyRegistered (.silent (r, false))

/-- The configurations with which hooks were registered. -/
def hooks (r : Registration) : List Config :=
  (r.received.filter fun x => x.1 == .hooks).map (·.2)

/-- The configurations with which the plugin was registered. -/
def plugins (r : Registration) : List Config :=
  (r.received.filter fun x => x.1 == .plugin).map (·.2)

end Registration

end ModuleHooks
