import Forte.Arch.ForteInstance

/-!
# Handle variables over any sequence of calls

`forteStopInstance` takes the device by value: it kills, joins and deletes the `RMT_DEV`, but the
caller's handle variable keeps the pointer. No call of the bootstrap API ever writes a handle
variable that is not null, and device numbers are never reused.

So over any sequence of calls from a reachable process, a handle variable keeps the device it
holds, and a device that is no longer live never becomes live again (`handle_keeps_device`): once
its device is stopped the handle dangles, every start through it is refused with
`FORTE_DEVICE_ALREADY_STARTED`, and a second `forteStopInstance` on it deletes a deleted device,
which the model leaves without an outcome.

`forteStopInstance` returns at once while the architecture is not initialized. So after
`forteGlobalDeinitialize`, until the next `forteGlobalInitialize`, no call stops or starts a
device: every live device keeps running and every handle variable keeps its value
(`uninitialized_keeps_devices`).
-/

set_option autoImplicit false
set_option relaxedAutoImplicit false

namespace Forte.Arch

section Calls

variable (parseCommandLineArguments : List String → String) (checkEndianess : Bool)

/-- A call of the bootstrap API. -/
inductive ForteCall
  | globalInitialize
  | globalDeinitialize
  | start (call : StartCall) (paResultInstance : Option ℕ)
  | stop (paInstance : Option ℕ)
  | join (paInstance : Option ℕ)
  deriving DecidableEq, Repr

/-- One call, if it has an outcome. -/
def ForteProcess.apply (p : ForteProcess) : ForteCall → Option ForteProcess
  | .globalInitialize => some p.forteGlobalInitialize
  | ForteCall.globalDeinitialize => some p.forteGlobalDeinitialize
  | .start call paResultInstance =>
    some (p.start parseCommandLineArguments checkEndianess call paResultInstance).2
  | .stop paInstance => p.forteStopInstance paInstance
  | .join paInstance => p.forteJoinInstance paInstance

/-- The calls made in order, while each has an outcome. -/
def ForteProcess.runCalls : ForteProcess → List ForteCall → Option ForteProcess
  | p, [] => some p
  | p, call :: rest =>
    (p.apply parseCommandLineArguments checkEndianess call).bind fun p' ↦ p'.runCalls rest

/-- What one call can do: initialize or deinitialize the architecture, make a start, delete a
live device of an initialized architecture, or nothing. -/
theorem apply_cases {p p' : ForteProcess} {call : ForteCall}
    (hcall : p.apply parseCommandLineArguments checkEndianess call = some p') :
    (call = .globalInitialize ∧ p' = p.forteGlobalInitialize) ∨
    (call = ForteCall.globalDeinitialize ∧ p' = p.forteGlobalDeinitialize) ∨
    (∃ sc r, call = .start sc r ∧
      p' = (p.start parseCommandLineArguments checkEndianess sc r).2) ∨
    (∃ d, call = .stop (some d) ∧ p.initialized = true ∧ d ∈ p.live ∧
      p' = { p with live := p.live.erase d }) ∨
    p' = p := by
  cases call with
  | globalInitialize => exact .inl ⟨rfl, (Option.some.inj hcall).symm⟩
  | globalDeinitialize => exact .inr (.inl ⟨rfl, (Option.some.inj hcall).symm⟩)
  | start sc r => exact .inr (.inr (.inl ⟨sc, r, rfl, (Option.some.inj hcall).symm⟩))
  | stop paInstance =>
    simp only [ForteProcess.apply, ForteProcess.forteStopInstance] at hcall
    split_ifs at hcall with hinit
    · exact .inr (.inr (.inr (.inr (Option.some.inj hcall).symm)))
    · cases paInstance with
      | none => exact .inr (.inr (.inr (.inr (Option.some.inj hcall).symm)))
      | some d =>
        simp only at hcall
        split_ifs at hcall with hd
        exact .inr (.inr (.inr (.inl ⟨d, rfl, by simpa using hinit, hd,
          (Option.some.inj hcall).symm⟩)))
  | join paInstance =>
    simp only [ForteProcess.apply, ForteProcess.forteJoinInstance] at hcall
    cases paInstance with
    | none => exact .inr (.inr (.inr (.inr (Option.some.inj hcall).symm)))
    | some d =>
      simp only at hcall
      split_ifs at hcall
      exact .inr (.inr (.inr (.inr (Option.some.inj hcall).symm)))

/-- A call keeps every set handle variable, never lowers the next device number, and never
revives a device created before it. -/
theorem apply_frame {p p' : ForteProcess} {call : ForteCall}
    (hcall : p.apply parseCommandLineArguments checkEndianess call = some p') :
    (∀ h d, p.handles h = some d → p'.handles h = some d) ∧ p.nextDev ≤ p'.nextDev ∧
      ∀ d, d < p.nextDev → d ∉ p.live → d ∉ p'.live := by
  rcases apply_cases parseCommandLineArguments checkEndianess hcall with
    ⟨-, rfl⟩ | ⟨-, rfl⟩ | ⟨sc, r, -, rfl⟩ | ⟨d', -, -, -, rfl⟩ | rfl
  · exact ⟨fun _ _ hd ↦ hd, le_rfl, fun _ _ hd ↦ hd⟩
  · exact ⟨fun _ _ hd ↦ hd, le_rfl, fun _ _ hd ↦ hd⟩
  · rcases start_cases parseCommandLineArguments checkEndianess p sc r with
      ⟨h₀, -, hnull, heq⟩ | ⟨-, heq⟩
    · -- a device created in the null handle variable `h₀`, numbered `nextDev`
      rw [heq]
      refine ⟨fun h d hd ↦ ?_, Nat.le_succ _, fun d hlt hd ↦ ?_⟩
      · have hne : h ≠ h₀ := by rintro rfl; simp [hnull] at hd
        simpa [ForteProcess.createDev, Function.update_noteq hne] using hd
      · simp [ForteProcess.createDev, hd, hlt.ne]
    · rw [heq]
      exact ⟨fun _ _ hd ↦ hd, le_rfl, fun _ _ hd ↦ hd⟩
  · exact ⟨fun _ _ hd ↦ hd, le_rfl, fun _ _ hd hmem ↦ hd (List.mem_of_mem_erase hmem)⟩
  · exact ⟨fun _ _ hd ↦ hd, le_rfl, fun _ _ hd ↦ hd⟩

theorem runCalls_frame {p p' : ForteProcess} {calls : List ForteCall}
    (hrun : p.runCalls parseCommandLineArguments checkEndianess calls = some p') :
    (∀ h d, p.handles h = some d → p'.handles h = some d) ∧ p.nextDev ≤ p'.nextDev ∧
      ∀ d, d < p.nextDev → d ∉ p.live → d ∉ p'.live := by
  induction calls generalizing p with
  | nil =>
    cases hrun
    exact ⟨fun _ _ hd ↦ hd, le_rfl, fun _ _ hd ↦ hd⟩
  | cons call rest ih =>
    obtain ⟨p₁, hcall, hrest⟩ := Option.bind_eq_some.mp hrun
    obtain ⟨hh₁, hn₁, hl₁⟩ := apply_frame parseCommandLineArguments checkEndianess hcall
    obtain ⟨hh₂, hn₂, hl₂⟩ := ih hrest
    exact ⟨fun h d hd ↦ hh₂ h d (hh₁ h d hd), hn₁.trans hn₂,
      fun d hlt hd ↦ hl₂ d (lt_of_lt_of_le hlt hn₁) (hl₁ d hlt hd)⟩

/-- Assumes: a reachable process in which handle variable `h` holds device `d`. After any sequence
of calls, `h` still holds `d`; if `d` was not live it never is again; and every start through `h`
is refused with `FORTE_DEVICE_ALREADY_STARTED` once the architecture is ready (for
`forteStartInstance`, with the port in range). -/
theorem handle_keeps_device {p p' : ForteProcess}
    (hp : Reachable parseCommandLineArguments checkEndianess p) {calls : List ForteCall}
    (hrun : p.runCalls parseCommandLineArguments checkEndianess calls = some p') {h d : ℕ}
    (hheld : p.handles h = some d) :
    p'.handles h = some d ∧ (d ∉ p.live → d ∉ p'.live) ∧
      ∀ call, p'.initialized = true → (∀ n, call = StartCall.port n → n ≤ 65535) →
        p'.start parseCommandLineArguments checkEndianess call (some h) =
          (.FORTE_DEVICE_ALREADY_STARTED, p') := by
  obtain ⟨hkeep, -, hdead⟩ := runCalls_frame parseCommandLineArguments checkEndianess hrun
  have hd' := hkeep h d hheld
  have hlt := (devicesHeld_reachable parseCommandLineArguments checkEndianess hp).handles_lt h d
    hheld
  refine ⟨hd', hdead d hlt, fun call hinit hport ↦ ?_⟩
  exact start_of_handle_set parseCommandLineArguments checkEndianess p' call h hinit
    (by simp [hd']) hport

/-- Before `forteGlobalInitialize` every start is refused and changes nothing. -/
theorem start_of_uninitialized (p : ForteProcess) (call : StartCall)
    (paResultInstance : Option ℕ) (hinit : p.initialized = false) :
    (p.start parseCommandLineArguments checkEndianess call paResultInstance).2 = p := by
  cases call <;>
    simp [ForteProcess.start, ForteProcess.forteStartInstance,
      ForteProcess.forteStartInstanceGeneric, hinit, apply_ite Prod.snd]

/-- While the architecture is not initialized, a call other than `forteGlobalInitialize` changes
nothing but, for `forteGlobalDeinitialize`, the flag it leaves cleared. -/
theorem apply_of_uninitialized {p p' : ForteProcess} {call : ForteCall}
    (hcall : p.apply parseCommandLineArguments checkEndianess call = some p')
    (hinit : p.initialized = false) (hcall' : call ≠ .globalInitialize) :
    p' = p ∨ p' = p.forteGlobalDeinitialize := by
  rcases apply_cases parseCommandLineArguments checkEndianess hcall with
    ⟨rfl, -⟩ | ⟨-, rfl⟩ | ⟨sc, r, -, rfl⟩ | ⟨-, -, hinit', -⟩ | rfl
  · exact absurd rfl hcall'
  · exact .inr rfl
  · exact .inl (start_of_uninitialized parseCommandLineArguments checkEndianess p sc r hinit)
  · simp [hinit] at hinit'
  · exact .inl rfl

/-- Assumes: the architecture is not initialized, and none of the calls initializes it. Then no
call starts or stops a device: `forteStopInstance` returns before it kills the device, so every
live device keeps running and every handle variable keeps its value. -/
theorem uninitialized_keeps_devices {p p' : ForteProcess} {calls : List ForteCall}
    (hrun : p.runCalls parseCommandLineArguments checkEndianess calls = some p')
    (hinit : p.initialized = false) (hcalls : ∀ call ∈ calls, call ≠ .globalInitialize) :
    p'.live = p.live ∧ p'.handles = p.handles ∧ p'.nextDev = p.nextDev := by
  induction calls generalizing p with
  | nil => cases hrun; exact ⟨rfl, rfl, rfl⟩
  | cons call rest ih =>
    obtain ⟨p₁, hcall, hrest⟩ := Option.bind_eq_some.mp hrun
    have hcall' := hcalls call (List.mem_cons_self _ _)
    rcases apply_of_uninitialized parseCommandLineArguments checkEndianess hcall hinit hcall'
      with rfl | rfl
    · exact ih hrest hinit fun c hc ↦ hcalls c (List.mem_cons_of_mem _ hc)
    · exact (ih hrest rfl fun c hc ↦ hcalls c (List.mem_cons_of_mem _ hc) :)

end Calls

/-- The device of handle variable `0` stopped: the handle still holds it, it is not live, and a
new start through the handle is refused. -/
theorem handle_keeps_device_after_stop :
    ({ startedOnHandleZero with live := [] } : ForteProcess).handles 0 = some 0 ∧
      (0 ∉ startedOnHandleZero.live →
        0 ∉ ({ startedOnHandleZero with live := [] } : ForteProcess).live) ∧
      ∀ call, ({ startedOnHandleZero with live := [] } : ForteProcess).initialized = true →
        (∀ n, call = StartCall.port n → n ≤ 65535) →
        ({ startedOnHandleZero with live := [] } : ForteProcess).start addressAfterFlag true call
          (some 0) =
          (.FORTE_DEVICE_ALREADY_STARTED, { startedOnHandleZero with live := [] }) :=
  @handle_keeps_device addressAfterFlag true startedOnHandleZero
    { startedOnHandleZero with live := [] } (.start (.port 0) (some 0) (.globalInitialize .init))
    [.stop (some 0)] rfl 0 0 rfl

/-- The device of handle variable `0` after `forteGlobalDeinitialize`: a stop and a start through
another handle change nothing. -/
theorem uninitialized_keeps_devices_after_deinitialize :
    (startedOnHandleZero.forteGlobalDeinitialize.runCalls addressAfterFlag true
        [.stop (some 0), .start (.port 0) (some 1)] =
      some startedOnHandleZero.forteGlobalDeinitialize) ∧
      startedOnHandleZero.forteGlobalDeinitialize.initialized = false ∧
      (∀ call ∈ [ForteCall.stop (some 0), .start (.port 0) (some 1)],
        call ≠ .globalInitialize) ∧
      startedOnHandleZero.forteGlobalDeinitialize.live = startedOnHandleZero.live :=
  have hrun : startedOnHandleZero.forteGlobalDeinitialize.runCalls addressAfterFlag true
      [.stop (some 0), .start (.port 0) (some 1)] =
      some startedOnHandleZero.forteGlobalDeinitialize := rfl
  have hcalls : ∀ call ∈ [ForteCall.stop (some 0), .start (.port 0) (some 1)],
      call ≠ .globalInitialize := by decide
  ⟨hrun, rfl, hcalls, (uninitialized_keeps_devices addressAfterFlag true hrun rfl hcalls).1⟩

end Forte.Arch
