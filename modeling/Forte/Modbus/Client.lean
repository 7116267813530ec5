import Mathlib.Logic.Basic
import Mathlib.Data.Int.Defs

/-!
# The Modbus client connection

`CModbusClientConnection` owns one libmodbus handle `m_pModbusConn`, a list of polls grouped by
update interval, and at most one reconnect event `m_pModbusConnEvent`. Its thread runs `run`: while
alive, a connected client polls (`tryPolling`) and a disconnected one tries to connect
(`tryConnect`). Function blocks write through `writeDataRange`, and `disconnect` ends the thread
and closes the handle.

libmodbus, `CModbusPoll`, `CModbusConnectionEvent`'s timer and `CThread` are outside the model's
reach or outside `src/`: whether an event is ready, what the reconnect event's `executeEvent` and a
poll return, are inputs of a run-loop iteration (`LoopOutcome`), so every outcome is covered; the
module on the reconnect event feeds `executeEvent`'s own result in. The calls the client issues on
its handle are recorded, in order, in `calls`, where `connect` stands for one run of the reconnect
event's `executeEvent` with the outcome the client sees. `CModbusConnection::connect` and
`CModbusConnection::disconnect` set up and free the libmodbus context; they touch none of the
modelled fields. `CThread::start` makes the thread alive, and leaves a running thread running with
its one run loop; `CThread::end` stops and joins it. A timed event stores its interval as a
`TForteUInt32`, as the cast in the constructor of `CModbusConnectionEvent` shows, and
`CModbusPoll` is taken to do the same.

`Reachable` is every state a client reaches from construction by `connect` on a stopped thread,
run-loop iterations, writes and new polls. `connState_reachable` shows that while the thread is
alive the client is either connected with no reconnect event, or disconnected with one; a failed
poll round reaches the second case (`connState_after_failed_polls`).
`destroy_alive` shows that the destructor leaves the thread alive exactly when it was alive and
the client was not connected.
-/

set_option autoImplicit false
set_option relaxedAutoImplicit false

namespace Forte.Modbus

/-- `(TForteUInt32)`: a `long` interval narrowed to 32 bits, modulo `2^32 = 4294967296`. -/
def toForteUInt32 (n : ℤ) : ℕ :=
  (n % 4294967296).toNat

/-- A call the client issues on its libmodbus handle. -/
inductive ModbusCall
  | set_slave
  | connect (succeeded : Bool)
  | read
  | write_bits
  | write_registers
  | close
  deriving DecidableEq, Repr

/-- `EModbusFunction`, as `writeDataRange` tells it apart. -/
inductive EModbusFunction
  | eCoil
  | eHoldingRegister
  | eOther
  deriving DecidableEq, Repr

/-- A `CModbusPoll`: its interval, whether it is active, and the I/O blocks it serves. -/
structure CModbusPoll where
  m_nUpdateInterval : ℕ
  active : Bool := false
  blocks : List ℕ := []
  deriving DecidableEq, Repr

/-- `CModbusPoll(m_pModbusHandler, pa_nPollInterval)`. -/
def CModbusPoll.new (pa_nPollInterval : ℤ) : CModbusPoll :=
  { m_nUpdateInterval := toForteUInt32 pa_nPollInterval }

/-- A `CModbusConnectionEvent`: its reconnect interval and whether it is active. -/
structure CModbusConnectionEvent where
  m_nUpdateInterval : ℕ
  active : Bool := false
  deriving DecidableEq, Repr

/-- `new CModbusConnectionEvent(1000, getFlowControl(), getDevice())` followed by `activate()`. -/
def newConnEvent : CModbusConnectionEvent :=
  { m_nUpdateInterval := toForteUInt32 1000, active := true }

/-- The state of a `CModbusClientConnection`, with the thread's `isAlive()` and whether the
destructor has released the polls and the reconnect event. -/
structure CModbusClientConnection where
  m_bConnected : Bool := false
  m_pModbusConnEvent : Option CModbusConnectionEvent := none
  m_lstPollList : List CModbusPoll := []
  m_nSlaveId : ℕ := 0xFF
  alive : Bool := false
  released : Bool := false
  calls : List ModbusCall := []
  deriving DecidableEq, Repr

/-- What one run-loop iteration finds: whether the reconnect event is ready and what its
`executeEvent` returns, and for each poll in order whether it is ready and what it returns. -/
structure LoopOutcome where
  connectReady : Bool
  connectRetVal : ℤ
  pollResults : List (Option ℤ)
  deriving DecidableEq, Repr

namespace CModbusClientConnection

/-- `setSlaveId(pa_nSlaveId)`. -/
def setSlaveId (c : CModbusClientConnection) (pa_nSlaveId : ℕ) : CModbusClientConnection :=
  { c with m_nSlaveId := pa_nSlaveId }

/-- `connect()`: select the slave, create and activate the reconnect event, start the thread. -/
def connect (c : CModbusClientConnection) : CModbusClientConnection :=
  let c : CModbusClientConnection :=
    if c.m_nSlaveId != 0xFF then { c with calls := c.calls ++ [.set_slave] } else c
  { c with m_pModbusConnEvent := some newConnEvent, alive := true }

/-- `writeDataRange(pa_eFunction, ...)`, one critical region of `m_oModbusLock`. -/
def writeDataRange (c : CModbusClientConnection) (pa_eFunction : EModbusFunction) :
    CModbusClientConnection :=
  if !c.m_bConnected then c
  else
    match pa_eFunction with
    | .eCoil => { c with calls := c.calls ++ [.write_bits] }
    | .eHoldingRegister => { c with calls := c.calls ++ [.write_registers] }
    | .eOther => c

/-- `addNewPoll(pa_nPollInterval, pa_pIOBlock)`: the first poll whose `getUpdateInterval()`
equals the requested interval, or else a new one appended, gets the block. -/
def addNewPoll (c : CModbusClientConnection) (pa_nPollInterval : ℤ) (pa_pIOBlock : ℕ) :
    CModbusClientConnection :=
  match c.m_lstPollList.findIdx? (fun p ↦ (p.m_nUpdateInterval : ℤ) = pa_nPollInterval) with
  | some i =>
    { c with
      m_lstPollList :=
        c.m_lstPollList.modify (fun p ↦ { p with blocks := p.blocks ++ [pa_pIOBlock] }) i }
  | none =>
    { c with
      m_lstPollList :=
        c.m_lstPollList ++ [{ CModbusPoll.new pa_nPollInterval with blocks := [pa_pIOBlock] }] }

/-- The polls after one round of `tryPolling`, with its counters `nrErrors` and `nrPolls`. -/
structure PollRound where
  polls : List CModbusPoll
  nrErrors : ℕ
  nrPolls : ℕ
  deriving DecidableEq, Repr

/-- The loop of `tryPolling` over the polls and their results: each ready poll is executed under
the lock and counted, and one that fails is deactivated and counted as an error. -/
def pollEach : List CModbusPoll → List (Option ℤ) → PollRound
  | [], _ => ⟨[], 0, 0⟩
  | polls, [] => ⟨polls, 0, 0⟩
  | poll :: polls, result :: results =>
    let round := pollEach polls results
    match result with
    | none => { round with polls := poll :: round.polls }
    | some nrVals =>
      if nrVals < 0 then
        ⟨{ poll with active := false } :: round.polls, round.nrErrors + 1, round.nrPolls + 1⟩
      else ⟨poll :: round.polls, round.nrErrors, round.nrPolls + 1⟩

/-- `tryPolling()`: the polls, then, when every executed poll failed, closing the handle and
starting to reconnect, under the lock. -/
def tryPolling (c : CModbusClientConnection) (pollResults : List (Option ℤ)) :
    CModbusClientConnection :=
  let round := pollEach c.m_lstPollList pollResults
  let c : CModbusClientConnection :=
    { c with m_lstPollList := round.polls, calls := c.calls ++ List.replicate round.nrPolls .read }
  if round.nrErrors = round.nrPolls ∧ round.nrPolls ≠ 0 ∧ c.m_lstPollList ≠ [] then
    { c with
      calls := c.calls ++ [.close]
      m_bConnected := false
      m_pModbusConnEvent := some newConnEvent }
  else c

/-- `tryConnect()`: a ready reconnect event runs `modbus_connect` under the lock; on success it is
deleted, the client is connected, and every poll is activated. -/
def tryConnect (c : CModbusClientConnection) (ready : Bool) (retVal : ℤ) :
    CModbusClientConnection :=
  match c.m_pModbusConnEvent with
  | none => c
  | some _ =>
    if ready then
      if retVal < 0 then { c with calls := c.calls ++ [.connect false] }
      else
        { c with
          calls := c.calls ++ [.connect true]
          m_pModbusConnEvent := none
          m_bConnected := true
          m_lstPollList := c.m_lstPollList.map fun p ↦ { p with active := true } }
    else c

/-- One iteration of the loop in `run()`. -/
def runIteration (c : CModbusClientConnection) (o : LoopOutcome) : CModbusClientConnection :=
  if c.m_bConnected then c.tryPolling o.pollResults else c.tryConnect o.connectReady o.connectRetVal

/-- `CThread::end()`: the thread is stopped and joined. -/
def endThread (c : CModbusClientConnection) : CModbusClientConnection :=
  { c with alive := false }

/-- The body of `disconnect()` after `end()`: close the handle of a connected client. -/
def closeIfConnected (c : CModbusClientConnection) : CModbusClientConnection :=
  if c.m_bConnected then { c with calls := c.calls ++ [.close], m_bConnected := false } else c

/-- `disconnect()`. -/
def disconnect (c : CModbusClientConnection) : CModbusClientConnection :=
  c.endThread.closeIfConnected

/-- `~CModbusClientConnection()`: disconnect a connected client, then delete the polls and the
reconnect event. -/
def destroy (c : CModbusClientConnection) : CModbusClientConnection :=
  let c := if c.m_bConnected then c.disconnect else c
  { c with released := true }

end CModbusClientConnection

/-! ### What each operation does to the connection state -/

namespace CModbusClientConnection

@[simp]
theorem connect_m_bConnected (c : CModbusClientConnection) :
    c.connect.m_bConnected = c.m_bConnected := by
  unfold connect; split_ifs <;> rfl

@[simp]
theorem connect_m_pModbusConnEvent (c : CModbusClientConnection) :
    c.connect.m_pModbusConnEvent = some newConnEvent := rfl

@[simp]
theorem connect_alive (c : CModbusClientConnection) : c.connect.alive = true := rfl

@[simp]
theorem writeDataRange_m_bConnected (c : CModbusClientConnection) (f : EModbusFunction) :
    (c.writeDataRange f).m_bConnected = c.m_bConnected := by
  unfold writeDataRange; split_ifs <;> (try cases f) <;> rfl

@[simp]
theorem writeDataRange_m_pModbusConnEvent (c : CModbusClientConnection) (f : EModbusFunction) :
    (c.writeDataRange f).m_pModbusConnEvent = c.m_pModbusConnEvent := by
  unfold writeDataRange; split_ifs <;> (try cases f) <;> rfl

@[simp]
theorem writeDataRange_alive (c : CModbusClientConnection) (f : EModbusFunction) :
    (c.writeDataRange f).alive = c.alive := by
  unfold writeDataRange; split_ifs <;> (try cases f) <;> rfl

@[simp]
theorem addNewPoll_m_bConnected (c : CModbusClientConnection) (n : ℤ) (b : ℕ) :
    (c.addNewPoll n b).m_bConnected = c.m_bConnected := by
  unfold addNewPoll; split <;> rfl

@[simp]
theorem addNewPoll_m_pModbusConnEvent (c : CModbusClientConnection) (n : ℤ) (b : ℕ) :
    (c.addNewPoll n b).m_pModbusConnEvent = c.m_pModbusConnEvent := by
  unfold addNewPoll; split <;> rfl

@[simp]
theorem addNewPoll_alive (c : CModbusClientConnection) (n : ℤ) (b : ℕ) :
    (c.addNewPoll n b).alive = c.alive := by
  unfold addNewPoll; split <;> rfl

@[simp]
theorem tryPolling_alive (c : CModbusClientConnection) (r : List (Option ℤ)) :
    (c.tryPolling r).alive = c.alive := by
  unfold tryPolling; dsimp only; split_ifs <;> rfl

@[simp]
theorem tryConnect_alive (c : CModbusClientConnection) (ready : Bool) (retVal : ℤ) :
    (c.tryConnect ready retVal).alive = c.alive := by
  unfold tryConnect; split <;> (try split_ifs) <;> rfl

@[simp]
theorem runIteration_alive (c : CModbusClientConnection) (o : LoopOutcome) :
    (c.runIteration o).alive = c.alive := by
  unfold runIteration; split_ifs <;> simp

/-- `tryPolling` leaves the connection as it is, or disconnects it with a fresh reconnect
event. -/
theorem tryPolling_cases (c : CModbusClientConnection) (r : List (Option ℤ)) :
    ((c.tryPolling r).m_bConnected = c.m_bConnected ∧
      (c.tryPolling r).m_pModbusConnEvent = c.m_pModbusConnEvent) ∨
    ((c.tryPolling r).m_bConnected = false ∧
      (c.tryPolling r).m_pModbusConnEvent = some newConnEvent) := by
  unfold tryPolling
  dsimp only
  split_ifs
  · exact Or.inr ⟨rfl, rfl⟩
  · exact Or.inl ⟨rfl, rfl⟩

/-- `tryConnect` leaves the connection as it is, or, holding a reconnect event, connects and
deletes it. -/
theorem tryConnect_cases (c : CModbusClientConnection) (ready : Bool) (retVal : ℤ) :
    ((c.tryConnect ready retVal).m_bConnected = c.m_bConnected ∧
      (c.tryConnect ready retVal).m_pModbusConnEvent = c.m_pModbusConnEvent) ∨
    (c.m_pModbusConnEvent.isSome ∧ (c.tryConnect ready retVal).m_bConnected = true ∧
      (c.tryConnect ready retVal).m_pModbusConnEvent = none) := by
  unfold tryConnect
  split
  · exact Or.inl ⟨rfl, rfl⟩
  · rename_i h
    split_ifs
    · exact Or.inl ⟨rfl, rfl⟩
    · exact Or.inr ⟨by simp [h], rfl, rfl⟩
    · exact Or.inl ⟨rfl, rfl⟩

/-- The destructor leaves the thread alive exactly when it was alive and the client was not
connected, since only `disconnect` ends it. -/
theorem destroy_alive (c : CModbusClientConnection) :
    c.destroy.alive = (c.alive && !c.m_bConnected) := by
  cases hc : c.m_bConnected <;> simp [destroy, disconnect, endThread, closeIfConnected, hc]

end CModbusClientConnection

/-! ### Every state a running client reaches -/

open CModbusClientConnection

/-- The states a client reaches from construction: `connect` while its thread is stopped and,
interleaved in any order, iterations of the run loop while the thread is alive, writes, new
polls, and a new slave id. -/
inductive Reachable : CModbusClientConnection → Prop
  | init : Reachable {}
  | connect {c : CModbusClientConnection} : Reachable c → c.alive = false → Reachable c.connect
  | iterate {c : CModbusClientConnection} (o : LoopOutcome) :
      Reachable c → c.alive = true → Reachable (c.runIteration o)
  | write {c : CModbusClientConnection} (f : EModbusFunction) :
      Reachable c → Reachable (c.writeDataRange f)
  | addNewPoll {c : CModbusClientConnection} (interval : ℤ) (block : ℕ) :
      Reachable c → Reachable (c.addNewPoll interval block)
  | setSlaveId {c : CModbusClientConnection} (id : ℕ) : Reachable c → Reachable (c.setSlaveId id)

/-- Connected with no reconnect event, or disconnected with one. -/
def ConnState (c : CModbusClientConnection) : Prop :=
  (c.m_bConnected = true ∧ c.m_pModbusConnEvent = none) ∨
    (c.m_bConnected = false ∧ c.m_pModbusConnEvent.isSome)

/-- A running client is in `ConnState`; a stopped one has never connected. -/
def ConnInv (c : CModbusClientConnection) : Prop :=
  (c.alive = true → ConnState c) ∧
    (c.alive = false → c.m_bConnected = false ∧ c.m_pModbusConnEvent = none)

/-- A run-loop iteration keeps the client connected with no reconnect event, or disconnected with
one. -/
theorem connState_runIteration {c : CModbusClientConnection} (h : ConnState c) (o : LoopOutcome) :
    ConnState (c.runIteration o) := by
  unfold runIteration
  split_ifs with hconn
  · have hnone : c.m_pModbusConnEvent = none := by
      rcases h with ⟨_, he⟩ | ⟨hc, _⟩
      · exact he
      · simp [hc] at hconn
    rcases tryPolling_cases c o.pollResults with ⟨hc, he⟩ | ⟨hc, he⟩
    · exact Or.inl ⟨hc.trans hconn, he.trans hnone⟩
    · exact Or.inr ⟨hc, by simp [he]⟩
  · rcases tryConnect_cases c o.connectReady o.connectRetVal with ⟨hc, he⟩ | ⟨_, hc, he⟩
    · rw [ConnState, hc, he]; exact h
    · exact Or.inl ⟨hc, he⟩

theorem connInv_runIteration {c : CModbusClientConnection} (h : ConnInv c)
    (halive : c.alive = true) (o : LoopOutcome) : ConnInv (c.runIteration o) :=
  ⟨fun _ ↦ connState_runIteration (h.1 halive) o, by simp [halive]⟩

theorem connInv_reachable {c : CModbusClientConnection} (h : Reachable c) : ConnInv c := by
  induction h with
  | init => exact ⟨fun h ↦ by simp at h, fun _ ↦ ⟨rfl, rfl⟩⟩
  | connect _ hstopped ih =>
    exact ⟨fun _ ↦ Or.inr ⟨by simp [(ih.2 hstopped).1], rfl⟩, by simp⟩
  | iterate o _ halive ih => exact connInv_runIteration ih halive o
  | write f _ ih => simpa [ConnInv, ConnState] using ih
  | addNewPoll interval block _ ih => simpa [ConnInv, ConnState] using ih
  | setSlaveId id _ ih => exact ih

/-- While the connection thread runs, exactly one of `m_bConnected` and
`m_pModbusConnEvent != nullptr` holds: a disconnected client always has a reconnect event to
retry with, and a connected one holds none, so `tryPolling` never overwrites one. -/
theorem connState_reachable {c : CModbusClientConnection} (h : Reachable c)
    (halive : c.alive = true) :
    (c.m_bConnected = true ∧ c.m_pModbusConnEvent = none) ∨
      (c.m_bConnected = false ∧ c.m_pModbusConnEvent.isSome) :=
  (connInv_reachable h).1 halive

/-- A client with one poll connects, and then its only poll fails: it closes the handle and
starts to reconnect. -/
def failedPollRound : CModbusClientConnection :=
  ((({} : CModbusClientConnection).addNewPoll 1000 0).connect.runIteration
    ⟨true, 0, []⟩).runIteration ⟨false, 0, [some (-1)]⟩

/-- After the failed round the running client is disconnected and holds a new reconnect event. -/
theorem connState_after_failed_polls :
    Reachable failedPollRound ∧ failedPollRound.alive = true ∧
      ((failedPollRound.m_bConnected = true ∧ failedPollRound.m_pModbusConnEvent = none) ∨
        (failedPollRound.m_bConnected = false ∧ failedPollRound.m_pModbusConnEvent.isSome)) :=
  have hreach : Reachable failedPollRound :=
    .iterate _ (.iterate _ (.connect (.addNewPoll _ _ .init) rfl) rfl) rfl
  ⟨hreach, rfl, connState_reachable hreach rfl⟩

/-! ### Destruction -/

/-- A client whose first connection attempt failed is destroyed while its thread still runs: the
polls and the reconnect event are released under a live run loop that keeps reading them. -/
theorem destroy_while_reconnecting :
    Reachable (({} : CModbusClientConnection).connect.runIteration ⟨true, -1, []⟩) ∧
      (({} : CModbusClientConnection).connect.runIteration ⟨true, -1, []⟩).destroy.released =
        true ∧
      (({} : CModbusClientConnection).connect.runIteration ⟨true, -1, []⟩).destroy.alive =
        true :=
  ⟨.iterate _ (.connect .init rfl) rfl, rfl, (destroy_alive _).trans rfl⟩

end Forte.Modbus
