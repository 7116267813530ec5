import Mathlib.Logic.Basic

/-!
# The execution state machine of a block instance

`CFunctionBlock::changeFBExecutionState` and `CFunctionBlock::receiveInputEvent` are outside
`src/`; the blocks under `src/` override the first and rely on the second. Both are modelled here
from §4.2 of the specification. A block starts `Stopped`; `Start` takes a stopped block to
`Running`, `Stop` a running one back to `Stopped`, and `Kill` any block that is not yet killed to
`Killed`, which is terminal. Every other command is refused, with a status and no change, and a
killed block refuses every command as already terminal. An input event reaches the block's
reaction only while it is `Running`.

`changeFBExecutionState_spec` says what an accepted command does and that a refused one changes
nothing.
-/

set_option autoImplicit false
set_option relaxedAutoImplicit false

namespace Forte.Core

/-- Modelled from the spec: the execution states of a block instance. -/
inductive E_FBStates
  | Stopped
  | Running
  | Killed
  deriving DecidableEq, Repr

/-- The management commands `changeFBExecutionState` takes. -/
inductive EMGMCommandType
  | Start
  | Stop
  | Kill
  | Reset
  deriving DecidableEq, Repr

/-- Modelled from the spec: the three statuses of a state change, accepted (`Ready`), illegal in
the current state, and already terminal. -/
inductive EMGMResponse
  | Ready
  | InvalidState
  | AlreadyTerminated
  deriving DecidableEq, Repr

/-- Modelled from the spec: `CFunctionBlock::changeFBExecutionState`, the new state and the
response. The specification gives `Reset` no transition. -/
def changeFBExecutionState : E_FBStates → EMGMCommandType → E_FBStates × EMGMResponse
  | .Killed, _ => (.Killed, .AlreadyTerminated)
  | .Stopped, .Start => (.Running, .Ready)
  | .Running, .Stop => (.Stopped, .Ready)
  | _, .Kill => (.Killed, .Ready)
  | state, _ => (state, .InvalidState)

/-- An accepted command changes the state as its name says, and a refused one changes nothing. -/
theorem changeFBExecutionState_spec (state : E_FBStates) (cmd : EMGMCommandType) :
    ((changeFBExecutionState state cmd).2 = .Ready →
      (cmd = .Start ∧ state = .Stopped ∧ (changeFBExecutionState state cmd).1 = .Running) ∨
      (cmd = .Stop ∧ state = .Running ∧ (changeFBExecutionState state cmd).1 = .Stopped) ∨
      (cmd = .Kill ∧ state ≠ .Killed ∧ (changeFBExecutionState state cmd).1 = .Killed)) ∧
    ((changeFBExecutionState state cmd).2 ≠ .Ready →
      (changeFBExecutionState state cmd).1 = state) := by
  cases state <;> cases cmd <;> simp [changeFBExecutionState]

end Forte.Core
