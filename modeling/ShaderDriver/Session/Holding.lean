import ShaderDriver.Object.Release

namespace ShaderDriver

/-! The names under which an application holds objects. -/

namespace World

def held? (world : World) (name : String) : Option Held :=
  world.held.lookup name

def withoutName (world : World) (name : String) : World :=
  { world with held := world.held.filter fun entry => entry.1 != name }

def hold (world : World) (name : String) (object : Held) : World :=
  { world with held := (name, object) :: (world.withoutName name).held }

def allocator? (world : World) (name : String) : Option AllocatorRef :=
  match world.held? name with
  | some (.allocator found) => some found
  | _ => none

def compiler? (world : World) (name : String) : Option CompilerRef :=
  match world.held? name with
  | some (.compiler found) => some found
  | _ => none

def buffer? (world : World) (name : String) : Option Buffer :=
  match world.held? name with
  | some (.buffer found) => some found
  | _ => none

def base? (world : World) (name : String) : Option Base :=
  match world.held? name with
  | some (.base found) => some found
  | _ => none

def device? (world : World) (name : String) : Option Device :=
  match world.held? name with
  | some (.device found) => some found
  | _ => none

end World

namespace Session

/-- Holds an object under a name, and lets go of what had the name before. Without a name the object
is let go itself. -/
def keep (into : Option String) (object : Held) : Act Unit :=
  match into with
  | none => object.letGo
  | some name => do
      let before ← Act.read fun world => world.held? name
      Act.change fun world => world.hold name object
      match before with
      | none => pure ()
      | some earlier => earlier.letGo

end Session

end ShaderDriver
