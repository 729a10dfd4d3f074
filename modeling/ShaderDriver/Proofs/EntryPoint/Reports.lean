import ShaderDriver.Proofs.EntryPoint.Outcomes
import ShaderDriver.Proofs.Object.Reports

namespace ShaderDriver.EntryPoint

open Act

/-! Every error that an entry point of the driver finds is entered in the log once, and no other error
is entered. -/

variable {told : Error → Bool} {α : Type}

theorem failLogged_reports {error : Error} (tells : told error = true) :
    Reports told (failLogged error : Act α) := by
  intro world
  have trace : (failLogged error world : Exit α × World).2.trace = world.trace ++
      [.logged (errorRecord error) (world.logger.sink .error)] := by
    rw [failLogged_exit]
    rfl
  refine ⟨_, trace, ?_⟩
  rw [failLogged_exit]
  split
  · trivial
  · exact (if_pos tells).symm

/-- A lock that is poisoned on the way out says nothing more. -/
theorem writing_reports {act : Act α} (kind : ObjectKind) (reports : Reports told act) :
    Reports told (writing kind act) := by
  intro world
  obtain ⟨events, trace, entered⟩ := reports world
  unfold writing
  generalize act world = ran at trace entered ⊢
  obtain ⟨exit, after⟩ := ran
  cases exit with
  | done value => exact ⟨events, trace, entered⟩
  | failed error => exact ⟨events, trace, entered⟩
  | unwound => exact ⟨events, trace, trivial⟩

section

variable (tells : ∀ error : Error, error.isDriverError = true → told error = true)

include tells

theorem registries_reports : Reports told registries := by
  intro world
  cases found : world.registries with
  | none =>
      rw [registries_none found]
      exact failLogged_reports (tells _ rfl) world
  | some all =>
      rw [registries_some found]
      exact Reports.pure all world

theorem unlocked_reports (kind : ObjectKind) (guarded : Guarded α) :
    Reports told (unlocked kind guarded) := by
  unfold unlocked
  split
  · exact failLogged_reports (tells _ rfl)
  · exact .pure _

theorem registerDevice_reports (device : Device) : Reports told (registerDevice device) :=
  .bind (registries_reports tells) fun _ => .bind (unlocked_reports tells _ _) fun _ =>
    .bind (.change fun _ => rfl) fun _ => .pure _

theorem registerShader_reports (owner : Handle .device) (shader : Shader) :
    Reports told (registerShader owner shader) :=
  .bind (registries_reports tells) fun _ => .bind (unlocked_reports tells _ _) fun _ =>
    .bind (.change fun _ => rfl) fun _ => .pure _

theorem device_reports (handle : Handle .device) : Reports told (device handle) := by
  refine .bind (registries_reports tells) fun all => .bind (unlocked_reports tells _ _) fun devices => ?_
  split
  · exact .pure _
  · exact failLogged_reports (tells _ rfl)

theorem shader_reports (handle : Handle .shader) : Reports told (shader handle) := by
  refine .bind (registries_reports tells) fun all => .bind (unlocked_reports tells _ _) fun shaders => ?_
  split
  · exact .pure _
  · exact failLogged_reports (tells _ rfl)

theorem takeOwned_reports (owner : Handle .device) : Reports told (takeOwned owner) :=
  .bind (registries_reports tells) fun _ => .bind (unlocked_reports tells _ _) fun _ =>
    .bind (.change fun _ => rfl) fun _ => .pure _

theorem dismiss_reports (handle : Handle .device) : Reports told (dismiss handle) :=
  .bind (takeOwned_reports tells handle) fun _ =>
    (Reports.note .info _ _).thenRelease (.releaseEach fun shader _ => shader.letGo_discreet)

theorem destroyDevice_reports (handle : Handle .device) : Reports told (destroyDevice handle) := by
  refine .bind (registries_reports tells) fun all => .bind (unlocked_reports tells _ _) fun devices => ?_
  split
  · exact writing_reports .device (failLogged_reports (tells _ rfl))
  · next found _ =>
      exact .bind (.change fun _ => rfl) fun _ =>
        (dismiss_reports tells handle).thenRelease found.letGo_discreet

theorem destroyObject_reports (handle : Handle .shader) : Reports told (destroyObject handle) := by
  refine .bind (registries_reports tells) fun all => .bind (unlocked_reports tells _ _) fun shaders => ?_
  split
  · exact writing_reports .shader (failLogged_reports (tells _ rfl))
  · next entry _ =>
      refine .bind (.change fun _ => rfl) fun _ => .of_discreet entry.shader.letGo_discreet ?_
      exact fun world error failed => absurd failed (entry.shader.letGo_unfailing world error)

end

/-- The driver enters the errors of a device that does not come about. -/
theorem newDevice_reports (config : DeviceConfig) :
    Reports (fun _ => true) ((Device.create config).onFailure logError) := by
  intro world
  obtain ⟨events, start, entered⟩ := Device.create_reports config world
  unfold onFailure
  generalize Device.create config world = ran at start entered ⊢
  obtain ⟨exit, middle⟩ := ran
  cases exit with
  | done device => exact ⟨events, start, entered⟩
  | unwound => exact ⟨events, start, entered⟩
  | failed error =>
      have none : reports events = [] := entered
      have logged : Reports (fun _ => true) (failLogged error : Act Device) := failLogged_reports rfl
      obtain ⟨more, finish, told⟩ := logged middle
      refine ⟨events ++ more, Eq.trans finish ?_, ?_⟩
      · rw [start, List.append_assoc]
      · rw [reports_append, none, List.nil_append]
        exact told

theorem createDevice_reports (config : DeviceConfig) :
    Reports (fun _ => true) (createDevice config) :=
  .bind (.bind (registries_reports fun _ _ => rfl) fun _ => .bind (newDevice_reports config) fun device =>
    .bind ((registerDevice_reports (fun _ _ => rfl) device).orRelease device.teardown_discreet) fun _ =>
      .pure _) fun _ => .bind (.note .info _ _) fun _ => .pure _

/-- Of a shader that does not come about only what the driver itself finds is entered: an error about
the handle of the device, or about the state of the driver. -/
theorem createShader_reports (owner : Handle .device) (info : CreateInfo) (verdict : Verdict) :
    Reports Error.isDriverError (createShader owner info verdict) :=
  .bind (.bind (device_reports (fun _ => id) owner) fun maker =>
    .bind (Shader.create_reports (fun _ => id) maker info verdict) fun shader =>
      .bind ((registerShader_reports (fun _ => id) owner shader).orRelease shader.teardown_discreet)
        fun _ => .pure _) fun _ => .pure _

/-- The entry is the driver's own, and it has the text of the error in it. -/
structure EntryOf (error : Error) (record : Log.Record) : Prop where
  severity : record.severity = .error
  source : record.source = "xgl::Icd"
  site : record.site = some .driver
  message : ∃ lead, record.message = lead ++ error.message

theorem errorRecord_entryOf (error : Error) : EntryOf error (errorRecord error) := by
  refine ⟨rfl, rfl, rfl, ?_⟩
  have plain : ∃ lead, error.message = lead ++ error.message := ⟨"", by simp⟩
  cases error with
  | invalidHandle reason => exact plain
  | initializationFailed reason => exact plain
  | outOfMemory => exact ⟨"ICD error: ", rfl⟩
  | invalidMemorySize => exact ⟨"ICD error: ", rfl⟩
  | badShaderCode => exact ⟨"ICD error: ", rfl⟩

/-- Entry points for devices and for objects enter whatever they fail with, and those that create
shaders what is not the caller's code or memory. -/
structure EntersErrors : Prop where
  createDevice : ∀ config, Reports (fun _ => true) (createDevice config)
  device : ∀ handle, Reports (fun _ => true) (device handle)
  destroyDevice : ∀ handle, Reports (fun _ => true) (destroyDevice handle)
  shader : ∀ handle, Reports (fun _ => true) (shader handle)
  destroyObject : ∀ handle, Reports (fun _ => true) (destroyObject handle)
  createShader : ∀ owner info verdict,
    Reports Error.isDriverError (createShader owner info verdict)
  createShaderFromGlsl : ∀ owner info verdict,
    Reports Error.isDriverError (createShaderFromGlsl owner info verdict)
  entry : ∀ error, EntryOf error (errorRecord error)

/-- In every state of the driver, and whatever the logger does with the entries, an error with which an
entry point fails has been entered once if it is one that is to be told. There is no other entry of an
error, and none at all when the entry point succeeds. -/
theorem errors_are_entered_once : EntersErrors where
  createDevice := createDevice_reports
  device := device_reports fun _ _ => rfl
  destroyDevice := destroyDevice_reports fun _ _ => rfl
  shader := shader_reports fun _ _ => rfl
  destroyObject := destroyObject_reports fun _ _ => rfl
  createShader := createShader_reports
  createShaderFromGlsl := createShader_reports
  entry := errorRecord_entryOf

end ShaderDriver.EntryPoint
