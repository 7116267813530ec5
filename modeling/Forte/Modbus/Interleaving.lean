import Forte.Modbus.Client

/-!
# Writers, the run loop and `disconnect()`, interleaved

Function blocks call `writeDataRange` from their own threads while the connection thread runs its
loop and some thread calls `connect()` and `disconnect()`, as often as it likes. Each critical
region of `m_oModbusLock` is one atomic step, and so is each run-loop iteration and each
`connect()`. `disconnect()` takes no lock, and each of its statements is a step of its own:
`end()`, the test of `m_bConnected`, `modbus_close`, and `m_bConnected = false`.
`CModbusConnection::disconnect()` after them changes nothing modelled and is not a step; once
`disconnect()` has returned, the next one can begin.

`handleClosed` reads off the calls on the handle whether it was closed after its last successful
connect, and `NoWriteOnClosedHandle` says that no write was issued on a closed handle.
`closedWindow_step` shows that while the handle is closed the client is disconnected unless
`disconnect()` stands between its `modbus_close` and its `m_bConnected = false`; the reconnect
branch of `tryPolling` does both under the lock. So a write issued on a closed handle is issued in
that window (`write_on_closed_handle_in_window`), and the window is reachable
(`write_after_disconnect_close`).
-/

set_option autoImplicit false
set_option relaxedAutoImplicit false

namespace Forte.Modbus

open CModbusClientConnection

/-- Where the thread in `disconnect()` stands: not in it, after `end()`, after finding the client
connected, or after `modbus_close`. -/
inductive DisconnectPc
  | idle
  | ended
  | closing
  | closed
  deriving DecidableEq, Repr

/-- The client and the thread in `disconnect()`. -/
structure ModbusSystem where
  conn : CModbusClientConnection := {}
  pc : DisconnectPc := .idle
  deriving DecidableEq, Repr

/-- One atomic step: `connect()`, a run-loop iteration, a `writeDataRange`, or a statement of
`disconnect()`. -/
inductive ModbusStep
  | connect
  | iterate (o : LoopOutcome)
  | write (f : EModbusFunction)
  | disconnectEnd
  | disconnectTest
  | disconnectClose
  | disconnectClear
  deriving DecidableEq, Repr

namespace ModbusSystem

/-- One step; a step that is not enabled leaves the system as it is. -/
def step (s : ModbusSystem) : ModbusStep → ModbusSystem
  | .connect => { s with conn := s.conn.connect }
  | .iterate o => if s.conn.alive then { s with conn := s.conn.runIteration o } else s
  | .write f => { s with conn := s.conn.writeDataRange f }
  | .disconnectEnd => if s.pc = .idle then ⟨s.conn.endThread, .ended⟩ else s
  | .disconnectTest =>
    if s.pc = .ended then { s with pc := if s.conn.m_bConnected then .closing else .idle } else s
  | .disconnectClose =>
    if s.pc = .closing then ⟨{ s.conn with calls := s.conn.calls ++ [.close] }, .closed⟩ else s
  | .disconnectClear =>
    if s.pc = .closed then ⟨{ s.conn with m_bConnected := false }, .idle⟩ else s

/-- The steps taken in order. -/
def run (s : ModbusSystem) (steps : List ModbusStep) : ModbusSystem :=
  steps.foldl step s

end ModbusSystem

/-- Whether the handle is closed after the calls, from `closed` before them: a `modbus_close`
closes it and a successful `modbus_connect` opens it. -/
def closedAfter : Bool → List ModbusCall → Bool
  | closed, [] => closed
  | _, .close :: rest => closedAfter true rest
  | _, .connect true :: rest => closedAfter false rest
  | closed, _ :: rest => closedAfter closed rest

/-- Whether the handle was closed after its last successful `modbus_connect`. -/
def handleClosed (calls : List ModbusCall) : Bool :=
  closedAfter false calls

theorem closedAfter_append (closed : Bool) (calls extra : List ModbusCall) :
    closedAfter closed (calls ++ extra) = closedAfter (closedAfter closed calls) extra := by
  induction calls generalizing closed with
  | nil => rfl
  | cons call rest ih =>
    cases call with
    | connect succeeded => cases succeeded <;> exact ih _
    | _ => exact ih _

/-- Calls other than `modbus_close` and a successful `modbus_connect` leave the handle as it
is. -/
theorem closedAfter_of_forall (closed : Bool) (extra : List ModbusCall)
    (h : ∀ call ∈ extra, call ≠ .close ∧ call ≠ .connect true) :
    closedAfter closed extra = closed := by
  induction extra with
  | nil => rfl
  | cons call rest ih =>
    have hrest := ih fun x hx ↦ h x (List.mem_cons_of_mem _ hx)
    obtain ⟨hclose, hconnect⟩ := h call (List.mem_cons_self _ _)
    cases call with
    | connect succeeded => cases succeeded <;> simp_all [closedAfter]
    | _ => simp_all [closedAfter]

theorem handleClosed_append_of_forall (calls extra : List ModbusCall)
    (h : ∀ call ∈ extra, call ≠ .close ∧ call ≠ .connect true) :
    handleClosed (calls ++ extra) = handleClosed calls := by
  rw [handleClosed, closedAfter_append, closedAfter_of_forall _ _ h]; rfl

/-- A write on the handle. -/
def ModbusCall.isWrite : ModbusCall → Bool
  | .write_bits => true
  | .write_registers => true
  | _ => false

/-- No write was issued on the handle after a `modbus_close` and before the next successful
`modbus_connect`. -/
def NoWriteOnClosedHandle (calls : List ModbusCall) : Prop :=
  ∀ before call after, calls = before ++ call :: after → call.isWrite = true →
    handleClosed before = false

/-- A run-loop iteration that leaves the handle closed leaves the client disconnected, or found it
closed and leaves `m_bConnected` as it was. -/
theorem runIteration_closed (c : CModbusClientConnection) (o : LoopOutcome)
    (h : handleClosed (c.runIteration o).calls = true) :
    (c.runIteration o).m_bConnected = false ∨
      (handleClosed c.calls = true ∧ (c.runIteration o).m_bConnected = c.m_bConnected) := by
  unfold runIteration at *
  split_ifs at * with hconn
  · unfold tryPolling at *
    dsimp only at *
    split_ifs at * with hall
    · exact Or.inl rfl
    · refine Or.inr ⟨?_, rfl⟩
      rwa [handleClosed_append_of_forall _ _ (by simp_all [List.mem_replicate])] at h
  · unfold tryConnect at *
    split at *
    · exact Or.inr ⟨h, rfl⟩
    · split_ifs at * with hready hret
      · exact Or.inl (by simpa using hconn)
      · simp [handleClosed, closedAfter_append, closedAfter] at h
      · exact Or.inr ⟨h, rfl⟩

/-- While the handle is closed, the client is disconnected, or `disconnect()` has closed it and
not yet cleared `m_bConnected`. -/
def ClosedWindow (s : ModbusSystem) : Prop :=
  handleClosed s.conn.calls = true → s.conn.m_bConnected = false ∨ s.pc = .closed

theorem closedWindow_step {s : ModbusSystem} (h : ClosedWindow s) (a : ModbusStep) :
    ClosedWindow (s.step a) := by
  unfold ClosedWindow at *
  cases a with
  | connect =>
    simp only [ModbusSystem.step, CModbusClientConnection.connect]
    split_ifs <;> simpa [handleClosed_append_of_forall] using h
  | iterate o =>
    simp only [ModbusSystem.step]
    split_ifs
    · intro hc
      rcases runIteration_closed s.conn o hc with hoff | ⟨hold, heq⟩
      · exact Or.inl hoff
      · rw [heq]; exact h hold
    · exact h
  | write f =>
    simp only [ModbusSystem.step, CModbusClientConnection.writeDataRange]
    split_ifs
    · exact h
    · cases f <;> simpa [handleClosed_append_of_forall] using h
  | disconnectEnd | disconnectTest | disconnectClose | disconnectClear =>
    simp only [ModbusSystem.step]
    split_ifs <;> simp_all [CModbusClientConnection.endThread]

theorem closedWindow_run (steps : List ModbusStep) : ClosedWindow (ModbusSystem.run {} steps) := by
  suffices ∀ s : ModbusSystem, ClosedWindow s → ClosedWindow (s.run steps) from
    this {} (by simp [ClosedWindow])
  induction steps with
  | nil => exact fun _ h ↦ h
  | cons a rest ih => exact fun s h ↦ ih (s.step a) (closedWindow_step h a)

/-- Assumes: a state some interleaving reaches, in which the client is connected and the handle
closed. Then `disconnect()` stands between its `modbus_close` and its `m_bConnected = false`: a
write issued on a closed handle is issued in that window. -/
theorem write_on_closed_handle_in_window (steps : List ModbusStep)
    (hconn : (ModbusSystem.run {} steps).conn.m_bConnected = true)
    (hclosed : handleClosed (ModbusSystem.run {} steps).conn.calls = true) :
    (ModbusSystem.run {} steps).pc = .closed := by
  rcases closedWindow_run steps hclosed with hoff | hpc
  · simp [hoff] at hconn
  · exact hpc

/-- A connection, then `disconnect()` up to its `modbus_close`. -/
def disconnectUpToClose : List ModbusStep :=
  [.connect, .iterate ⟨true, 0, []⟩, .disconnectEnd, .disconnectTest, .disconnectClose]

/-- Right after `disconnect()`'s `modbus_close` the client is still connected on the closed
handle, and the interleaving is inside the window. -/
theorem write_on_closed_handle_in_window_at_close :
    (ModbusSystem.run {} disconnectUpToClose).conn.m_bConnected = true ∧
      handleClosed (ModbusSystem.run {} disconnectUpToClose).conn.calls = true ∧
      (ModbusSystem.run {} disconnectUpToClose).pc = .closed :=
  have hconn : (ModbusSystem.run {} disconnectUpToClose).conn.m_bConnected = true := by decide
  have hclosed : handleClosed (ModbusSystem.run {} disconnectUpToClose).conn.calls = true := by
    decide
  ⟨hconn, hclosed, write_on_closed_handle_in_window _ hconn hclosed⟩

/-- A connection, then `disconnect()` up to its `modbus_close`, and a writer's critical region:
the writer still finds `m_bConnected` set and writes on the closed handle. -/
theorem write_after_disconnect_close :
    (ModbusSystem.run {} [.connect, .iterate ⟨true, 0, []⟩, .disconnectEnd, .disconnectTest,
        .disconnectClose, .write .eCoil]).conn.calls = [.connect true, .close, .write_bits] ∧
      ¬NoWriteOnClosedHandle [.connect true, .close, .write_bits] := by
  refine ⟨by decide, fun h ↦ ?_⟩
  have := h [.connect true, .close] .write_bits [] rfl rfl
  exact absurd this (by decide)

end Forte.Modbus
