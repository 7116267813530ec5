import Mathlib.Data.List.Nodup
import Mathlib.Logic.Function.Basic

/-!
# Starting and stopping FORTE devices

`forte_Init.cpp` (Zephyr) and `forte_instance.cpp` (rcX) expose one bootstrap API: a caller
initialises the architecture, starts a device through `forteStartInstance` or
`forteStartInstanceGeneric`, which stores the new `RMT_DEV` in the handle variable
`*paResultInstance`, and stops it with `forteStopInstance`. The two files agree on
`forteStartInstanceGeneric` and `forteStopInstance`. `forteStartInstance` is modelled from the
Zephyr file: the rcX one formats the undeclared `paPort` instead of its parameter `pa_port`, so it
does not compile as it stands. The device check is on the handle variable passed in: a non-null
`*paResultInstance` is `FORTE_DEVICE_ALREADY_STARTED`, and nothing else is consulted.

`parseCommandLineArguments` (in `mainparam_utils`) and the result codes are outside `src/`; the
parser is a parameter, and `checkEndianess()`, which compares the platform with the configured
byte order, is a parameter too. The caller's handle variables are numbered, all null at first;
devices are numbered in order of creation. Deleting or joining a device that is no longer live is
undefined behaviour and has no outcome.

`forteStart_per_handle` is what every start does in every reachable process: with a non-null handle
it creates nothing and reports an error, `FORTE_DEVICE_ALREADY_STARTED` once the architecture is
ready; a start that does not return `FORTE_OK` changes nothing, `*paResultInstance` included; a
start that does creates one device and stores it in its null handle; and every live device is
held by exactly one handle variable. Starts through two different null handle variables create
two live devices (`two_devices_live`).
-/

set_option autoImplicit false
set_option relaxedAutoImplicit false

namespace Forte.Arch

/-- The result codes of the bootstrap API. -/
inductive ForteResult
  | FORTE_OK
  | FORTE_DEVICE_ALREADY_STARTED
  | FORTE_WRONG_ENDIANESS
  | FORTE_WRONG_PARAMETERS
  | FORTE_ARCHITECTURE_NOT_READY
  deriving DecidableEq, Repr

/-- `forte_default_port`. -/
def forte_default_port : ℕ := 61499

/-- The process: whether `CForteArchitecture` is initialised, the caller's handle variables
(`TForteInstance`, null or a device), the live devices, and the number of the next device. -/
structure ForteProcess where
  initialized : Bool := false
  handles : ℕ → Option ℕ := fun _ ↦ none
  live : List ℕ := []
  nextDev : ℕ := 0

section Bootstrap

variable (parseCommandLineArguments : List String → String) (checkEndianess : Bool)

namespace ForteProcess

/-- `createDev(paMGRID, paResultInstance)`: a new `RMT_DEV`, initialised and started, stored in
the handle variable. -/
def createDev (p : ForteProcess) (paResultInstance : ℕ) : ForteProcess :=
  { p with
    handles := Function.update p.handles paResultInstance (some p.nextDev)
    live := p.live ++ [p.nextDev]
    nextDev := p.nextDev + 1 }

/-- `forteStartInstanceGeneric(argc, argv, paResultInstance)`, with `paResultInstance` a null
pointer or the address of a handle variable. -/
def forteStartInstanceGeneric (p : ForteProcess) (args : List String)
    (paResultInstance : Option ℕ) : ForteResult × ForteProcess :=
  if !p.initialized then (.FORTE_ARCHITECTURE_NOT_READY, p)
  else
    match paResultInstance with
    | none => (.FORTE_WRONG_PARAMETERS, p)
    | some h =>
      if (p.handles h).isSome then (.FORTE_DEVICE_ALREADY_STARTED, p)
      else if !checkEndianess then (.FORTE_WRONG_ENDIANESS, p)
      else
        let ipPort := parseCommandLineArguments args
        if ipPort ≠ "" ∧ ':' ∈ ipPort.toList then (.FORTE_OK, p.createDev h)
        else (.FORTE_WRONG_PARAMETERS, p)

/-- `forteStartInstance(paPort, paResultInstance)`: the arguments `forte -c localhost:<port>`. -/
def forteStartInstance (p : ForteProcess) (paPort : ℕ) (paResultInstance : Option ℕ) :
    ForteResult × ForteProcess :=
  if 65535 < paPort then (.FORTE_WRONG_PARAMETERS, p)
  else
    let paPort := if paPort = 0 then forte_default_port else paPort
    p.forteStartInstanceGeneric parseCommandLineArguments checkEndianess
      ["forte", "-c", "localhost:" ++ toString paPort] paResultInstance

end ForteProcess

end Bootstrap

namespace ForteProcess

/-- `forteGlobalInitialize()`. -/
def forteGlobalInitialize (p : ForteProcess) : ForteProcess :=
  { p with initialized := true }

/-- `forteGlobalDeinitialize()`. -/
def forteGlobalDeinitialize (p : ForteProcess) : ForteProcess :=
  { p with initialized := false }

/-- `forteStopInstance(paSig, paInstance)`: kill, join and delete a live device. -/
def forteStopInstance (p : ForteProcess) (paInstance : Option ℕ) : Option ForteProcess :=
  if !p.initialized then some p
  else
    match paInstance with
    | none => some p
    | some d => if d ∈ p.live then some { p with live := p.live.erase d } else none

/-- `forteJoinInstance(paInstance)`: wait for a live device's resource thread. -/
def forteJoinInstance (p : ForteProcess) (paInstance : Option ℕ) : Option ForteProcess :=
  match paInstance with
  | none => some p
  | some d => if d ∈ p.live then some p else none

end ForteProcess

/-! ### Every reachable process -/

section Runs

variable (parseCommandLineArguments : List String → String) (checkEndianess : Bool)

/-- A start call: `forteStartInstanceGeneric` with its arguments, or `forteStartInstance` with its
port. -/
inductive StartCall
  | generic (args : List String)
  | port (paPort : ℕ)
  deriving DecidableEq, Repr

/-- The start call made on the process, with the handle variable's address or a null pointer. -/
def ForteProcess.start (p : ForteProcess) (call : StartCall) (paResultInstance : Option ℕ) :
    ForteResult × ForteProcess :=
  match call with
  | .generic args =>
    p.forteStartInstanceGeneric parseCommandLineArguments checkEndianess args paResultInstance
  | .port paPort =>
    p.forteStartInstance parseCommandLineArguments checkEndianess paPort paResultInstance

/-- The processes that any sequence of bootstrap calls reaches, on any handle variables. -/
inductive Reachable : ForteProcess → Prop
  | init : Reachable {}
  | globalInitialize {p : ForteProcess} : Reachable p → Reachable p.forteGlobalInitialize
  | globalDeinitialize {p : ForteProcess} : Reachable p → Reachable p.forteGlobalDeinitialize
  | start {p : ForteProcess} (call : StartCall) (paResultInstance : Option ℕ) :
      Reachable p →
        Reachable (p.start parseCommandLineArguments checkEndianess call paResultInstance).2
  | stop {p p' : ForteProcess} (paInstance : Option ℕ) :
      Reachable p → p.forteStopInstance paInstance = some p' → Reachable p'

/-- Every live device is held by exactly one handle variable; devices are numbered below
`nextDev`. -/
structure DevicesHeld (p : ForteProcess) : Prop where
  nodup : p.live.Nodup
  held : ∀ d ∈ p.live, ∃ h, p.handles h = some d
  unique : ∀ h₁ h₂ d, p.handles h₁ = some d → p.handles h₂ = some d → h₁ = h₂
  handles_lt : ∀ h d, p.handles h = some d → d < p.nextDev
  live_lt : ∀ d ∈ p.live, d < p.nextDev

/-- `forteStartInstanceGeneric` either creates one device and stores it in its null handle
variable, or reports an error and changes nothing. -/
theorem forteStartInstanceGeneric_cases (p : ForteProcess) (args : List String)
    (paResultInstance : Option ℕ) :
    (∃ h, paResultInstance = some h ∧ p.handles h = none ∧
      p.forteStartInstanceGeneric parseCommandLineArguments checkEndianess args
        paResultInstance = (.FORTE_OK, p.createDev h)) ∨
    ((p.forteStartInstanceGeneric parseCommandLineArguments checkEndianess args
        paResultInstance).1 ≠ .FORTE_OK ∧
      (p.forteStartInstanceGeneric parseCommandLineArguments checkEndianess args
        paResultInstance).2 = p) := by
  cases paResultInstance with
  | none => right; unfold ForteProcess.forteStartInstanceGeneric; split_ifs <;> simp
  | some h =>
    simp only [ForteProcess.forteStartInstanceGeneric]
    split_ifs <;> simp_all

/-- A start either creates one device and stores it in its null handle variable, or reports an
error and changes nothing. -/
theorem start_cases (p : ForteProcess) (call : StartCall) (paResultInstance : Option ℕ) :
    (∃ h, paResultInstance = some h ∧ p.handles h = none ∧
      p.start parseCommandLineArguments checkEndianess call paResultInstance =
        (.FORTE_OK, p.createDev h)) ∨
    ((p.start parseCommandLineArguments checkEndianess call paResultInstance).1 ≠ .FORTE_OK ∧
      (p.start parseCommandLineArguments checkEndianess call paResultInstance).2 = p) := by
  cases call with
  | generic args => exact forteStartInstanceGeneric_cases _ _ p args paResultInstance
  | port paPort =>
    simp only [ForteProcess.start, ForteProcess.forteStartInstance]
    split_ifs
    · exact Or.inr ⟨by simp, rfl⟩
    all_goals exact forteStartInstanceGeneric_cases _ _ p _ paResultInstance

/-- Assumes: a null handle variable. Creating a device there keeps every live device held by
exactly one handle variable. -/
theorem devicesHeld_createDev {p : ForteProcess} (hp : DevicesHeld p) {h : ℕ}
    (hnull : p.handles h = none) : DevicesHeld (p.createDev h) := by
  have hfresh : p.nextDev ∉ p.live := fun hm ↦ lt_irrefl _ (hp.live_lt _ hm)
  refine ⟨hp.nodup.append (List.nodup_singleton _) (by simpa using hfresh), ?_, ?_, ?_, ?_⟩
  · intro d hd
    simp only [ForteProcess.createDev, List.mem_append, List.mem_singleton] at hd
    rcases hd with hd | rfl
    · obtain ⟨h', hh'⟩ := hp.held d hd
      refine ⟨h', ?_⟩
      have hne : h' ≠ h := by rintro rfl; simp [hnull] at hh'
      simp [ForteProcess.createDev, Function.update_noteq hne, hh']
    · exact ⟨h, by simp [ForteProcess.createDev]⟩
  · intro h₁ h₂ d h₁d h₂d
    simp only [ForteProcess.createDev, Function.update_apply] at h₁d h₂d
    split_ifs at h₁d h₂d with e₁ e₂ e₂ <;> subst_vars
    · rfl
    · cases h₁d; exact absurd (hp.handles_lt _ _ h₂d) (lt_irrefl _)
    · cases h₂d; exact absurd (hp.handles_lt _ _ h₁d) (lt_irrefl _)
    · exact hp.unique _ _ _ h₁d h₂d
  · intro h' d hd
    simp only [ForteProcess.createDev, Function.update_apply] at hd ⊢
    split_ifs at hd
    · cases hd; omega
    · exact Nat.lt_succ_of_lt (hp.handles_lt _ _ hd)
  · intro d hd
    simp only [ForteProcess.createDev, List.mem_append, List.mem_singleton] at hd ⊢
    rcases hd with hd | rfl
    · exact Nat.lt_succ_of_lt (hp.live_lt _ hd)
    · omega

theorem devicesHeld_reachable {p : ForteProcess}
    (hp : Reachable parseCommandLineArguments checkEndianess p) : DevicesHeld p := by
  induction hp with
  | init => exact ⟨List.nodup_nil, by simp, by simp, by simp, by simp⟩
  | globalInitialize _ ih => exact ⟨ih.nodup, ih.held, ih.unique, ih.handles_lt, ih.live_lt⟩
  | globalDeinitialize _ ih => exact ⟨ih.nodup, ih.held, ih.unique, ih.handles_lt, ih.live_lt⟩
  | start call paResultInstance _ ih =>
    rcases start_cases parseCommandLineArguments checkEndianess _ call paResultInstance with
      ⟨h, -, hnull, heq⟩ | ⟨-, heq⟩
    · rw [heq]; exact devicesHeld_createDev ih hnull
    · rw [heq]; exact ih
  | stop paInstance _ hstop ih =>
    unfold ForteProcess.forteStopInstance at hstop
    split_ifs at hstop
    · cases hstop; exact ih
    · cases paInstance with
      | none => cases hstop; exact ih
      | some d =>
        simp only at hstop
        split_ifs at hstop
        cases hstop
        exact ⟨ih.nodup.erase d, fun d' hd' ↦ ih.held d' (List.mem_of_mem_erase hd'), ih.unique,
          ih.handles_lt, fun d' hd' ↦ ih.live_lt d' (List.mem_of_mem_erase hd')⟩

/-- Assumes: an initialised architecture, a non-null handle variable, and a port in range for
`forteStartInstance`. The start reports `FORTE_DEVICE_ALREADY_STARTED` and changes nothing. -/
theorem start_of_handle_set (p : ForteProcess) (call : StartCall) (h : ℕ)
    (hinit : p.initialized = true) (hset : (p.handles h).isSome = true)
    (hport : ∀ n, call = .port n → n ≤ 65535) :
    p.start parseCommandLineArguments checkEndianess call (some h) =
      (.FORTE_DEVICE_ALREADY_STARTED, p) := by
  cases call with
  | generic args =>
    simp [ForteProcess.start, ForteProcess.forteStartInstanceGeneric, hinit, hset]
  | port paPort =>
    have hle : ¬65535 < paPort := not_lt.mpr (hport paPort rfl)
    simp [ForteProcess.start, ForteProcess.forteStartInstance,
      ForteProcess.forteStartInstanceGeneric, hle, hinit, hset]

/-- In every reachable process, every live device is held by exactly one handle variable, and a
start on a non-null handle variable reports an error (`FORTE_DEVICE_ALREADY_STARTED` once the
architecture is ready, unless the port is out of range) and creates nothing; a start that does
not return `FORTE_OK` changes nothing, `*paResultInstance` included, and one that does creates
one device in its null handle variable. -/
theorem forteStart_per_handle {p : ForteProcess}
    (hp : Reachable parseCommandLineArguments checkEndianess p) :
    (∀ d ∈ p.live, ∃! h, p.handles h = some d) ∧
    ∀ (call : StartCall) (paResultInstance : Option ℕ) (r : ForteResult) (p' : ForteProcess),
      p.start parseCommandLineArguments checkEndianess call paResultInstance = (r, p') →
      (r ≠ .FORTE_OK → p' = p) ∧
      (∀ h, paResultInstance = some h → (p.handles h).isSome = true →
        r ≠ .FORTE_OK ∧ (p.initialized = true → (∀ n, call = .port n → n ≤ 65535) →
          r = .FORTE_DEVICE_ALREADY_STARTED)) ∧
      (r = .FORTE_OK → ∃ h, paResultInstance = some h ∧ p.handles h = none ∧
        p'.handles h = some p.nextDev ∧ p'.live = p.live ++ [p.nextDev]) := by
  have hheld := devicesHeld_reachable parseCommandLineArguments checkEndianess hp
  refine ⟨fun d hd ↦ ?_, fun call paResultInstance r p' hstart ↦ ?_⟩
  · obtain ⟨h, hh⟩ := hheld.held d hd
    exact ⟨h, hh, fun h' hh' ↦ hheld.unique _ _ _ hh' hh⟩
  rcases start_cases parseCommandLineArguments checkEndianess p call paResultInstance with
    ⟨h, rfl, hnull, heq⟩ | ⟨hne, heq⟩
  · -- the start created a device
    obtain ⟨rfl, rfl⟩ := Prod.mk.inj (hstart.symm.trans heq)
    refine ⟨fun hr ↦ absurd rfl hr, fun h' hh' hset ↦ ?_,
      fun _ ↦ ⟨h, rfl, hnull, by simp [ForteProcess.createDev], rfl⟩⟩
    cases hh'
    simp [hnull] at hset
  · -- the start reported an error
    rw [hstart] at hne heq
    subst heq
    refine ⟨fun _ ↦ rfl, fun h hh hset ↦ ⟨hne, fun hinit hport ↦ ?_⟩, fun hr ↦ absurd hr hne⟩
    subst hh
    have := start_of_handle_set parseCommandLineArguments checkEndianess p' call h hinit hset hport
    exact (Prod.mk.inj (hstart.symm.trans this)).1

end Runs

/-- A concrete `parseCommandLineArguments`: the argument that follows `-c`, or the empty string. -/
def addressAfterFlag : List String → String
  | "-c" :: address :: _ => address
  | _ :: rest => addressAfterFlag rest
  | [] => ""

/-- One device, started through handle variable `0`. -/
def startedOnHandleZero : ForteProcess :=
  (({} : ForteProcess).forteGlobalInitialize.start addressAfterFlag true (.port 0) (some 0)).2

/-- With one device started through handle variable `0`, that device is held by the handle alone,
a start through the handle is refused and changes nothing, and a start through another null handle
creates a second device. -/
theorem forteStart_per_handle_started :
    (∀ d ∈ startedOnHandleZero.live, ∃! h, startedOnHandleZero.handles h = some d) ∧
    ∀ (call : StartCall) (paResultInstance : Option ℕ) (r : ForteResult) (p' : ForteProcess),
      startedOnHandleZero.start addressAfterFlag true call paResultInstance = (r, p') →
      (r ≠ .FORTE_OK → p' = startedOnHandleZero) ∧
      (∀ h, paResultInstance = some h → (startedOnHandleZero.handles h).isSome = true →
        r ≠ .FORTE_OK ∧ (startedOnHandleZero.initialized = true →
          (∀ n, call = .port n → n ≤ 65535) → r = .FORTE_DEVICE_ALREADY_STARTED)) ∧
      (r = .FORTE_OK → ∃ h, paResultInstance = some h ∧ startedOnHandleZero.handles h = none ∧
        p'.handles h = some startedOnHandleZero.nextDev ∧
        p'.live = startedOnHandleZero.live ++ [startedOnHandleZero.nextDev]) :=
  forteStart_per_handle addressAfterFlag true (.start (.port 0) (some 0) (.globalInitialize .init))

/-- Two starts through two null handle variables both return `FORTE_OK`, and both devices are
live. -/
theorem two_devices_live :
    (({} : ForteProcess).forteGlobalInitialize.forteStartInstance addressAfterFlag true 0
      (some 0)).1 = .FORTE_OK ∧
    ((({} : ForteProcess).forteGlobalInitialize.forteStartInstance addressAfterFlag true 0
      (some 0)).2.forteStartInstance addressAfterFlag true 0 (some 1)).1 = .FORTE_OK ∧
    ((({} : ForteProcess).forteGlobalInitialize.forteStartInstance addressAfterFlag true 0
      (some 0)).2.forteStartInstance addressAfterFlag true 0 (some 1)).2.live = [0, 1] := by
  decide

end Forte.Arch
