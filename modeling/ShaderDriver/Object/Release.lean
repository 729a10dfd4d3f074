import ShaderDriver.Log.Report
import ShaderDriver.Object.Base

namespace ShaderDriver

/-! The end of objects. Owners release what they own in a fixed order, and a panic on the way does
not keep the rest. A shared object ends when the last reference to it is gone. -/

def Program.destroy (program : Program) : Act Unit := do
  Act.change fun world =>
    { world with
      compilers := world.compilers.set program.compiler.serial
        (world.compilers program.compiler.serial).forget }
  Act.emit (.programDestroyed program.compiler)

def Payload.release : Payload → Act Unit
  | .kernel owned => owned.release
  | .program owned => owned.destroy

/-- The payload, then the container. -/
def Ir.release (ir : Ir) : Act Unit :=
  ir.payload.release.thenRelease ir.container.release

namespace Shader

/-- The entry that a shader leaves in the log. -/
def farewell (shader : Shader) : Log.Record :=
  { severity := .trace
    source := "xgl::Shader"
    message := "Destroying shader (" ++ toString shader.ir.size ++ " bytes of IR)"
    site := none }

/-- An entry in the log, then the shader's form, then its base. -/
def teardown (shader : Shader) : Act Unit := do
  Act.emit (.ending .shader shader.id)
  (Act.log shader.farewell).thenRelease
    (shader.ir.release.thenRelease shader.base.release)

/-- A reference to the shader is gone. -/
def letGo (shader : Shader) : Act Unit := fun world =>
  if world.hasShader shader then (.done (), world) else shader.teardown world

end Shader

namespace Device

def teardown (device : Device) : Act Unit := do
  Act.emit (.ending .device device.id)
  device.base.release

/-- A reference to the device is gone. -/
def letGo (device : Device) : Act Unit := fun world =>
  if world.hasDevice device then (.done (), world) else device.teardown world

end Device

namespace Held

/-- An application lets go of what it held; allocators and compilers are its own. -/
def letGo : Held → Act Unit
  | .allocator _ => pure ()
  | .compiler _ => pure ()
  | .buffer owned => owned.release
  | .base owned => owned.release
  | .device shared => shared.letGo
  | .shader shared => shared.letGo
  | .ir owned => owned.release
  | .program owned => owned.destroy

end Held

end ShaderDriver
