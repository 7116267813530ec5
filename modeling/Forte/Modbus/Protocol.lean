import Forte.Modbus.Interleaving
import Forte.Modbus.PollList

/-!
# The libmodbus handle protocol

The client drives one libmodbus context through `modbus_connect`, `modbus_close`, reads and
writes. A read or a write needs a connected context, `modbus_connect` a context that is not
connected, and `modbus_close` a connected one. `respectsHandle` checks the recorded calls against
that protocol, from whether the handle is closed before them; `closedAfter` says whether it is
closed after them.

Made one at a time, as whole calls, the operations of the client keep the protocol and keep
`m_bConnected` equal to whether the handle is open (`handleProtocol_runCalls`): the run loop polls
only a connected handle and connects only a closed one, `tryPolling` closes the handle in the same
critical region that clears `m_bConnected`, and `disconnect()` ends the thread before it closes.
So no write is issued on a closed handle (`noWriteOnClosedHandle_runCalls`). What breaks this is
`disconnect()` interleaved statement by statement with a writer, as the interleaving model shows.
The same calls keep the poll intervals distinct as long as every `addNewPoll` asks for a
`TForteUInt32` interval (`pollIntervalsUnique_runCalls`), and each poll then holds exactly the
blocks requested at its interval, in request order (`pollBlocks_runCalls`). `connect()` may come
at any time, also on a running thread, where it replaces the reconnect event: over any calls in
which it finds the thread stopped or the client disconnected, a running client is connected with
no reconnect event or disconnected with one, across any number of connect/disconnect cycles
(`connState_runCalls`); on a running connected client, `connect()` is the one call that leaves it
connected while holding a reconnect event (`connState_apply_iff`).

The whole-call model is the interleaving model with `disconnect()`'s statements run back to back:
`ClientCall.toSteps` maps each call to its atomic steps, and over any calls the interleaving model
ends in the whole-call client (`atomicDisconnect_runCalls`), so the protocol holds of every such
interleaving. In every interleaving, with `connect()` kept out of `disconnect()`, the calls other
than writes keep the protocol (`respectsHandle_withoutWrites_run`): reads, closes and connects
never reach the handle in the wrong state, and `withoutWrites` of the client follows the
whole-call model outside `disconnect()`'s window.
-/

set_option autoImplicit false
set_option relaxedAutoImplicit false

namespace Forte.Modbus

open CModbusClientConnection

/-- Whether the calls keep the handle protocol, from `closed` before them: reads and writes on an
open handle, `modbus_connect` on a closed one, `modbus_close` on an open one. -/
def respectsHandle : Bool → List ModbusCall → Bool
  | _, [] => true
  | closed, .connect true :: rest => closed && respectsHandle false rest
  | closed, .connect false :: rest => closed && respectsHandle closed rest
  | closed, .close :: rest => !closed && respectsHandle true rest
  | closed, .set_slave :: rest => respectsHandle closed rest
  | closed, _ :: rest => !closed && respectsHandle closed rest

theorem respectsHandle_append (closed : Bool) (calls extra : List ModbusCall) :
    respectsHandle closed (calls ++ extra) =
      (respectsHandle closed calls && respectsHandle (closedAfter closed calls) extra) := by
  induction calls generalizing closed with
  | nil => rfl
  | cons call rest ih =>
    cases call with
    | connect succeeded =>
      cases succeeded <;> simp [respectsHandle, closedAfter, ih, Bool.and_assoc]
    | _ => simp [respectsHandle, closedAfter, ih, Bool.and_assoc]

/-- Reads on an open handle keep the protocol and leave the handle open. -/
theorem respectsHandle_reads (n : ℕ) :
    respectsHandle false (List.replicate n .read) = true ∧
      closedAfter false (List.replicate n .read) = false := by
  induction n with
  | zero => exact ⟨rfl, rfl⟩
  | succ n ih => simpa [List.replicate_succ, respectsHandle, closedAfter] using ih

/-- A call of the client's interface, made as a whole: `connect()`, a run-loop iteration while the
thread runs, `writeDataRange`, `addNewPoll`, `setSlaveId`, `disconnect()`. -/
inductive ClientCall
  | connect
  | iterate (o : LoopOutcome)
  | write (f : EModbusFunction)
  | addNewPoll (interval : ℤ) (block : ℕ)
  | setSlaveId (id : ℕ)
  | disconnect
  deriving DecidableEq, Repr

/-- One whole call; a call that is not enabled leaves the client as it is. -/
def ClientCall.apply (c : CModbusClientConnection) : ClientCall → CModbusClientConnection
  | .connect => c.connect
  | .iterate o => if c.alive then c.runIteration o else c
  | .write f => c.writeDataRange f
  | .addNewPoll interval block => c.addNewPoll interval block
  | .setSlaveId id => c.setSlaveId id
  | .disconnect => c.disconnect

/-- The calls made in order. -/
def runCalls (c : CModbusClientConnection) (calls : List ClientCall) : CModbusClientConnection :=
  calls.foldl ClientCall.apply c

/-- The recorded calls keep the handle protocol, and `m_bConnected` says whether the handle is
open. -/
def HandleMirrored (c : CModbusClientConnection) : Prop :=
  respectsHandle true c.calls = true ∧ c.m_bConnected = !closedAfter true c.calls

theorem handleMirrored_runIteration {c : CModbusClientConnection} (h : HandleMirrored c)
    (o : LoopOutcome) : HandleMirrored (c.runIteration o) := by
  obtain ⟨hresp, hmirror⟩ := h
  unfold runIteration
  split_ifs with hconn
  · -- polling: reads on the open handle, then possibly its close
    have hopen : closedAfter true c.calls = false := by simpa [hconn] using hmirror
    obtain ⟨hreads, hstay⟩ :=
      respectsHandle_reads (pollEach c.m_lstPollList o.pollResults).nrPolls
    unfold tryPolling
    dsimp only
    split_ifs <;> simp [HandleMirrored, respectsHandle_append, closedAfter_append, hresp, hopen,
      hreads, hstay, hconn, respectsHandle, closedAfter]
  · -- connecting: `modbus_connect` on the closed handle
    have hclosed : closedAfter true c.calls = true := by simpa [hconn] using hmirror
    unfold tryConnect
    split
    · exact ⟨hresp, hmirror⟩
    · split_ifs <;> simp [HandleMirrored, respectsHandle_append, closedAfter_append, hresp,
        hmirror, hclosed, hconn, respectsHandle, closedAfter]

/-- Every whole call keeps the protocol, and `m_bConnected` equal to whether the handle is
open. -/
theorem handleMirrored_apply {c : CModbusClientConnection} (h : HandleMirrored c)
    (call : ClientCall) : HandleMirrored (call.apply c) := by
  obtain ⟨hresp, hmirror⟩ := h
  cases call with
  | connect =>
    simp only [ClientCall.apply, CModbusClientConnection.connect]
    split_ifs <;> simp [HandleMirrored, respectsHandle_append, closedAfter_append, hresp, hmirror,
      respectsHandle, closedAfter]
  | iterate o =>
    simp only [ClientCall.apply]
    split_ifs
    · exact handleMirrored_runIteration ⟨hresp, hmirror⟩ o
    · exact ⟨hresp, hmirror⟩
  | write f =>
    simp only [ClientCall.apply, writeDataRange]
    split_ifs with hconn
    · exact ⟨hresp, hmirror⟩
    · have hopen : closedAfter true c.calls = false := by
        simpa [show c.m_bConnected = true by simpa using hconn] using hmirror
      cases f <;> simp [HandleMirrored, respectsHandle_append, closedAfter_append, hresp, hmirror,
        hopen, respectsHandle, closedAfter]
  | addNewPoll interval block =>
    simp only [ClientCall.apply, CModbusClientConnection.addNewPoll]
    split <;> exact ⟨hresp, hmirror⟩
  | setSlaveId id => exact ⟨hresp, hmirror⟩
  | disconnect =>
    simp only [ClientCall.apply, disconnect, closeIfConnected, endThread]
    split_ifs with hconn
    · have hopen : closedAfter true c.calls = false := by simpa [hconn] using hmirror
      simp [HandleMirrored, respectsHandle_append, closedAfter_append, hresp, hopen,
        respectsHandle, closedAfter]
    · exact ⟨hresp, hmirror⟩

theorem handleMirrored_runCalls {c : CModbusClientConnection} (h : HandleMirrored c)
    (calls : List ClientCall) : HandleMirrored (runCalls c calls) := by
  induction calls generalizing c with
  | nil => exact h
  | cons call rest ih => exact ih (handleMirrored_apply h call)

/-! ### Poll intervals over whole calls -/

/-- Whether the call, if it is an `addNewPoll`, asks for a `TForteUInt32` interval. -/
def ClientCall.intervalInRange : ClientCall → Bool
  | .addNewPoll interval _ => decide (0 ≤ interval ∧ interval < 4294967296)
  | _ => true

theorem disconnect_pollBlocks (c : CModbusClientConnection) :
    c.disconnect.pollBlocks = c.pollBlocks := by
  unfold disconnect closeIfConnected
  split_ifs <;> rfl

theorem disconnect_pollIntervals (c : CModbusClientConnection) :
    c.disconnect.pollIntervals = c.pollIntervals := by
  rw [pollIntervals_eq_map_pollBlocks, pollIntervals_eq_map_pollBlocks, disconnect_pollBlocks]

/-- Every whole call keeps the poll intervals distinct, an `addNewPoll` as long as it asks for a
`TForteUInt32` interval. -/
theorem pollIntervalsUnique_apply {c : CModbusClientConnection} (h : PollIntervalsUnique c)
    {call : ClientCall} (hcall : call.intervalInRange = true) :
    PollIntervalsUnique (call.apply c) := by
  obtain ⟨hiter, hconnect, hwrite, hslave⟩ := pollIntervals_frame c
  cases call with
  | connect => rwa [ClientCall.apply, PollIntervalsUnique, hconnect]
  | iterate o =>
    simp only [ClientCall.apply]
    split_ifs
    · rwa [PollIntervalsUnique, hiter]
    · exact h
  | write f => rwa [ClientCall.apply, PollIntervalsUnique, hwrite]
  | addNewPoll interval block =>
    simp only [ClientCall.intervalInRange, decide_eq_true_eq] at hcall
    exact pollIntervalsUnique_addNewPoll h hcall.1 hcall.2 block
  | setSlaveId id => rwa [ClientCall.apply, PollIntervalsUnique, hslave]
  | disconnect => rwa [ClientCall.apply, PollIntervalsUnique, disconnect_pollIntervals]

/-- However the client's whole calls follow one another, as long as every `addNewPoll` asks for a
`TForteUInt32` interval, no two polls share an interval: the run loop, writes, `connect()`,
`setSlaveId` and `disconnect()` keep the intervals, and each request joins the poll of its
interval or appends a new one. -/
theorem pollIntervalsUnique_runCalls (calls : List ClientCall)
    (hrange : ∀ call ∈ calls, call.intervalInRange = true) :
    PollIntervalsUnique (runCalls {} calls) := by
  suffices ∀ c, PollIntervalsUnique c → PollIntervalsUnique (runCalls c calls) from
    this {} List.nodup_nil
  induction calls with
  | nil => exact fun _ h ↦ h
  | cons call rest ih =>
    exact fun c h ↦ ih (fun r hr ↦ hrange r (List.mem_cons_of_mem _ hr)) _
      (pollIntervalsUnique_apply h (hrange call (List.mem_cons_self _ _)))

/-- Two blocks polled every 1000 ms and one every 500 ms, added around a connection, a failed poll
round that makes the client reconnect, and `disconnect()`. -/
def pollsAroundReconnect : List ClientCall :=
  [.addNewPoll 1000 0, .connect, .iterate ⟨true, 0, []⟩, .addNewPoll 500 1,
    .iterate ⟨false, 0, [some (-1), some (-1)]⟩, .addNewPoll 1000 2, .disconnect]

/-- The third block joins the first poll, and the two intervals stay distinct. -/
theorem pollIntervalsUnique_runCalls_reconnect :
    (∀ call ∈ pollsAroundReconnect, call.intervalInRange = true) ∧
      PollIntervalsUnique (runCalls {} pollsAroundReconnect) :=
  have hrange : ∀ call ∈ pollsAroundReconnect, call.intervalInRange = true := by decide
  ⟨hrange, pollIntervalsUnique_runCalls _ hrange⟩

/-! ### Which poll holds which block, over whole calls -/

/-- The interval and block an `addNewPoll` call asks for; the other calls ask for none. -/
def ClientCall.pollRequest : ClientCall → List (ℤ × ℕ)
  | .addNewPoll interval block => [(interval, block)]
  | _ => []

/-- The `addNewPoll` requests among the calls, in order. -/
def pollRequests (calls : List ClientCall) : List (ℤ × ℕ) :=
  calls.flatMap ClientCall.pollRequest

theorem blocksByInterval_empty : BlocksByInterval [] ({} : CModbusClientConnection) :=
  ⟨List.nodup_nil, by simp [pollBlocks], by simp⟩

/-- Every whole call keeps the blocks grouped by interval, an `addNewPoll` as long as it asks for a
`TForteUInt32` interval; only `addNewPoll` adds a request. -/
theorem BlocksByInterval.apply {requests : List (ℤ × ℕ)} {c : CModbusClientConnection}
    (h : BlocksByInterval requests c) {call : ClientCall} (hcall : call.intervalInRange = true) :
    BlocksByInterval (requests ++ call.pollRequest) (call.apply c) := by
  obtain ⟨hiter, hconnect, hwrite, hslave⟩ := pollBlocks_frame c
  cases call <;> simp only [ClientCall.apply, ClientCall.pollRequest, List.append_nil]
  case connect => exact h.of_pollBlocks_eq hconnect
  case iterate o =>
    split_ifs
    exacts [h.of_pollBlocks_eq (hiter o), h]
  case write f => exact h.of_pollBlocks_eq (hwrite f)
  case addNewPoll interval block =>
    simp only [ClientCall.intervalInRange, decide_eq_true_eq] at hcall
    exact blocksByInterval_addNewPoll h hcall.1 hcall.2 block
  case setSlaveId id => exact h.of_pollBlocks_eq (hslave id)
  case disconnect => exact h.of_pollBlocks_eq (disconnect_pollBlocks c)

theorem BlocksByInterval.runCalls {requests : List (ℤ × ℕ)} {c : CModbusClientConnection}
    (h : BlocksByInterval requests c) {calls : List ClientCall}
    (hrange : ∀ call ∈ calls, call.intervalInRange = true) :
    BlocksByInterval (requests ++ pollRequests calls) (runCalls c calls) := by
  induction calls generalizing requests c with
  | nil => simpa [pollRequests] using h
  | cons call rest ih =>
    have hrest := ih (h.apply (hrange call (List.mem_cons_self _ _)))
      (fun r hr ↦ hrange r (List.mem_cons_of_mem _ hr))
    simpa only [pollRequests, List.flatMap_cons, List.append_assoc] using hrest

/-- However the client's whole calls follow one another, as long as every `addNewPoll` asks for a
`TForteUInt32` interval, the poll list groups the blocks by interval: no two polls share an
interval, each poll holds exactly the blocks requested at its interval, in the order of the
requests, and every requested interval has its poll. -/
theorem pollBlocks_runCalls (calls : List ClientCall)
    (hrange : ∀ call ∈ calls, call.intervalInRange = true) :
    BlocksByInterval (pollRequests calls) (runCalls {} calls) :=
  blocksByInterval_empty.runCalls hrange

/-- Around the reconnect, the block asked for every 1000 ms the second time joins the first poll. -/
theorem pollBlocks_runCalls_reconnect :
    (∀ call ∈ pollsAroundReconnect, call.intervalInRange = true) ∧
      BlocksByInterval (pollRequests pollsAroundReconnect) (runCalls {} pollsAroundReconnect) :=
  have hrange : ∀ call ∈ pollsAroundReconnect, call.intervalInRange = true := by decide
  ⟨hrange, pollBlocks_runCalls _ hrange⟩

example : (runCalls {} pollsAroundReconnect).pollBlocks = [(1000, [0, 2]), (500, [1])] := by
  rfl

/-- However the client's calls follow one another, each made as a whole: every read and write
goes to an open handle, `modbus_connect` only to a closed one and `modbus_close` only to an open
one, and `m_bConnected` is set exactly while the handle is open. -/
theorem handleProtocol_runCalls (calls : List ClientCall) :
    respectsHandle true (runCalls {} calls).calls = true ∧
      (runCalls {} calls).m_bConnected = !closedAfter true (runCalls {} calls).calls :=
  @handleMirrored_runCalls {} ⟨rfl, rfl⟩ calls

/-- `disconnect()` leaves the client disconnected with its thread stopped. -/
theorem disconnect_stopped (c : CModbusClientConnection) :
    c.disconnect.m_bConnected = false ∧ c.disconnect.alive = false := by
  unfold disconnect closeIfConnected
  split_ifs with h
  · exact ⟨rfl, rfl⟩
  · exact ⟨by simpa [endThread] using h, rfl⟩

/-- Whatever the client did before, `disconnect()` leaves the thread stopped and the handle
closed, and the destructor after it only releases the polls and the reconnect event: it issues no
second `modbus_close`. -/
theorem disconnect_then_destroy (calls : List ClientCall) :
    (runCalls {} (calls ++ [.disconnect])).destroy =
        { runCalls {} (calls ++ [.disconnect]) with released := true } ∧
      (runCalls {} (calls ++ [.disconnect])).alive = false ∧
      closedAfter true (runCalls {} (calls ++ [.disconnect])).calls = true := by
  have hrun : runCalls {} (calls ++ [.disconnect]) = (runCalls {} calls).disconnect :=
    List.foldl_append _ _ _ _
  obtain ⟨hoff, hstopped⟩ := disconnect_stopped (runCalls {} calls)
  have hmirror := (@handleMirrored_runCalls {} ⟨rfl, rfl⟩ (calls ++ [.disconnect])).2
  rw [hrun] at hmirror ⊢
  refine ⟨by simp [destroy, hoff], hstopped, ?_⟩
  rw [hoff] at hmirror
  simpa using hmirror.symm

/-- A handle that is open after the calls from a closed one is open after them from any state. -/
theorem closedAfter_eq_false_of_closed {calls : List ModbusCall}
    (h : closedAfter true calls = false) (closed : Bool) : closedAfter closed calls = false := by
  induction calls generalizing closed with
  | nil => simp [closedAfter] at h
  | cons call rest ih =>
    cases call with
    | connect succeeded =>
      cases succeeded
      · exact ih h _
      · exact h
    | close => exact h
    | _ => exact ih h _

/-- Calls that keep the protocol from a closed handle issue no write on a closed handle. -/
theorem noWriteOnClosedHandle_of_respectsHandle {calls : List ModbusCall}
    (h : respectsHandle true calls = true) : NoWriteOnClosedHandle calls := by
  rintro before call after rfl hwrite
  rw [respectsHandle_append, Bool.and_eq_true] at h
  have hopen : closedAfter true before = false := by
    cases call <;> simp_all [respectsHandle, ModbusCall.isWrite]
  exact closedAfter_eq_false_of_closed hopen false

/-- Made as whole calls, the client never writes on a closed handle. -/
theorem noWriteOnClosedHandle_runCalls (calls : List ClientCall) :
    NoWriteOnClosedHandle (runCalls {} calls).calls :=
  noWriteOnClosedHandle_of_respectsHandle (@handleMirrored_runCalls {} ⟨rfl, rfl⟩ calls).1

/-! ### The reconnect event over whole calls -/

/-- A running client is connected with no reconnect event or disconnected with one, and a stopped
client is not connected. -/
def CallsConnInv (c : CModbusClientConnection) : Prop :=
  (c.alive = true → ConnState c) ∧ (c.alive = false → c.m_bConnected = false)

/-- Whether the call is a `connect()` on a running, connected client. -/
def ClientCall.connectsConnected (c : CModbusClientConnection) : ClientCall → Bool
  | .connect => c.alive && c.m_bConnected
  | _ => false

/-- Assumes: the invariant. A whole call keeps it exactly when it is not a `connect()` on a running
connected client, which creates a reconnect event the connected client then holds. -/
theorem connState_apply_iff {c : CModbusClientConnection} (h : CallsConnInv c)
    (call : ClientCall) : CallsConnInv (call.apply c) ↔ call.connectsConnected c = false := by
  obtain ⟨hrun, hstop⟩ := h
  cases call with
  | connect =>
    cases halive : c.alive
    · simp [CallsConnInv, ClientCall.apply, ClientCall.connectsConnected, ConnState, halive,
        hstop halive]
    · cases hc : c.m_bConnected <;>
        simp [CallsConnInv, ClientCall.apply, ClientCall.connectsConnected, ConnState, halive, hc]
  | iterate o =>
    simp only [ClientCall.apply, ClientCall.connectsConnected, iff_true]
    split_ifs with halive
    · exact ⟨fun _ ↦ connState_runIteration (hrun halive) o, by simp [halive]⟩
    · exact ⟨hrun, hstop⟩
  | write f => simpa [CallsConnInv, ClientCall.apply, ClientCall.connectsConnected, ConnState]
      using And.intro hrun hstop
  | addNewPoll interval block => simpa [CallsConnInv, ClientCall.apply,
      ClientCall.connectsConnected, ConnState] using And.intro hrun hstop
  | setSlaveId id => exact iff_of_true ⟨hrun, hstop⟩ rfl
  | disconnect =>
    obtain ⟨hoff, hstopped⟩ := disconnect_stopped c
    exact iff_of_true ⟨by simp [ClientCall.apply, hstopped], fun _ ↦ hoff⟩ rfl

/-- No `connect()` is made on a running, connected client. -/
def ConnectWhenDisconnected : CModbusClientConnection → List ClientCall → Prop
  | _, [] => True
  | c, call :: rest =>
    call.connectsConnected c = false ∧ ConnectWhenDisconnected (call.apply c) rest

instance decConnectWhenDisconnected : (c : CModbusClientConnection) → (calls : List ClientCall) →
    Decidable (ConnectWhenDisconnected c calls)
  | _, [] => isTrue trivial
  | c, call :: rest =>
    haveI := decConnectWhenDisconnected (call.apply c) rest
    inferInstanceAs (Decidable (call.connectsConnected c = false ∧
      ConnectWhenDisconnected (call.apply c) rest))

theorem callsConnInv_runCalls {c : CModbusClientConnection} (h : CallsConnInv c)
    (calls : List ClientCall) (hconnect : ConnectWhenDisconnected c calls) :
    CallsConnInv (runCalls c calls) := by
  induction calls generalizing c with
  | nil => exact h
  | cons call rest ih => exact ih ((connState_apply_iff h call).mpr hconnect.1) hconnect.2

/-- A connection, `disconnect()`, a new connection whose first attempt fails, and a `connect()` on
the running, disconnected client, which replaces its reconnect event. -/
def reconnectCycle : List ClientCall :=
  [.connect, .iterate ⟨true, 0, []⟩, .write .eCoil, .disconnect, .connect,
    .iterate ⟨true, -1, []⟩, .connect]

/-- The atomic steps of a whole call: `disconnect()` is its four statements. `addNewPoll` and
`setSlaveId` have no step in the interleaving model. -/
def ClientCall.toSteps : ClientCall → List ModbusStep
  | .connect => [.connect]
  | .iterate o => [.iterate o]
  | .write f => [.write f]
  | .disconnect => [.disconnectEnd, .disconnectTest, .disconnectClose, .disconnectClear]
  | .addNewPoll _ _ | .setSlaveId _ => []

/-- Whether the interleaving model has a step for the call. -/
def ClientCall.interleaved : ClientCall → Bool
  | .addNewPoll _ _ | .setSlaveId _ => false
  | _ => true

theorem ModbusSystem.run_append (s : ModbusSystem) (steps steps' : List ModbusStep) :
    ModbusSystem.run s (steps ++ steps') = ModbusSystem.run (ModbusSystem.run s steps) steps' :=
  List.foldl_append _ _ _ _

/-- A call other than `disconnect()` is one step, whatever `disconnect()`'s thread is doing. -/
theorem run_toSteps_of_ne {s : ModbusSystem} {call : ClientCall}
    (hint : call.interleaved = true) (hne : call ≠ .disconnect) :
    ModbusSystem.run s call.toSteps = { s with conn := call.apply s.conn } := by
  cases call with
  | iterate o =>
    simp only [ClientCall.toSteps, ClientCall.apply, ModbusSystem.run, List.foldl,
      ModbusSystem.step]
    split_ifs <;> rfl
  | connect | write f => rfl
  | disconnect => exact absurd rfl hne
  | addNewPoll | setSlaveId => cases hint

/-- `disconnect()`'s four statements run back to back are the whole call. -/
theorem run_toSteps_disconnect {s : ModbusSystem} (hidle : s.pc = .idle) :
    ModbusSystem.run s ClientCall.disconnect.toSteps = ⟨s.conn.disconnect, .idle⟩ := by
  obtain ⟨c, pc⟩ := s
  subst hidle
  cases hconn : c.m_bConnected <;>
    simp [ClientCall.toSteps, ModbusSystem.run, ModbusSystem.step, disconnect, closeIfConnected,
      endThread, hconn]

theorem run_flatMap_toSteps {s : ModbusSystem} {calls : List ClientCall}
    (hint : ∀ c ∈ calls, c.interleaved = true) (hidle : s.pc = .idle) :
    (ModbusSystem.run s (calls.flatMap ClientCall.toSteps)).conn = runCalls s.conn calls := by
  induction calls generalizing s with
  | nil => rfl
  | cons call rest ih =>
    have hint' : ∀ c ∈ rest, c.interleaved = true :=
      fun c hc ↦ hint c (List.mem_cons_of_mem _ hc)
    rw [List.flatMap_cons, ModbusSystem.run_append]
    by_cases hdis : call = .disconnect
    · subst hdis
      rw [run_toSteps_disconnect hidle]
      exact ih hint' rfl
    · rw [run_toSteps_of_ne (hint call (List.mem_cons_self _ _)) hdis]
      exact ih hint' hidle

/-- In every interleaving in which each `disconnect()` runs its statements back to back, with no
other step between them, the client is the one its whole calls give, and no write is issued on a
closed handle, over any number of connect/disconnect cycles. -/
theorem atomicDisconnect_runCalls (calls : List ClientCall)
    (hint : ∀ c ∈ calls, c.interleaved = true) :
    (ModbusSystem.run {} (calls.flatMap ClientCall.toSteps)).conn = runCalls {} calls ∧
      NoWriteOnClosedHandle
        (ModbusSystem.run {} (calls.flatMap ClientCall.toSteps)).conn.calls := by
  have hrun := @run_flatMap_toSteps {} calls hint rfl
  exact ⟨hrun, hrun ▸ noWriteOnClosedHandle_of_respectsHandle
    (@handleMirrored_runCalls {} ⟨rfl, rfl⟩ calls).1⟩

/-- Two connect/disconnect cycles, each with a write, and a write after the last `disconnect()`. -/
def connectWriteDisconnect : List ClientCall :=
  [.connect, .iterate ⟨true, 0, []⟩, .write .eCoil, .disconnect, .connect, .iterate ⟨true, 0, []⟩,
    .write .eHoldingRegister, .disconnect, .write .eCoil]

/-- Run statement by statement with nothing between the statements of each `disconnect()`, these
calls give the whole-call client, and the write after the last `disconnect()` is dropped. -/
theorem atomicDisconnect_runCalls_write :
    (∀ c ∈ connectWriteDisconnect, c.interleaved = true) ∧
      (ModbusSystem.run {} (connectWriteDisconnect.flatMap ClientCall.toSteps)).conn =
        runCalls {} connectWriteDisconnect ∧
      NoWriteOnClosedHandle
        (ModbusSystem.run {} (connectWriteDisconnect.flatMap ClientCall.toSteps)).conn.calls :=
  have hint : ∀ c ∈ connectWriteDisconnect, c.interleaved = true := by decide
  ⟨hint, atomicDisconnect_runCalls _ hint⟩

/-! ### Reads, connects and closes in every interleaving -/

/-- The client with the writes left out of its recorded calls. -/
def withoutWrites (c : CModbusClientConnection) : CModbusClientConnection :=
  { c with calls := c.calls.filter fun call ↦ !call.isWrite }

theorem withoutWrites_tryPolling (c : CModbusClientConnection) (pollResults : List (Option ℤ)) :
    withoutWrites (c.tryPolling pollResults) = (withoutWrites c).tryPolling pollResults := by
  unfold tryPolling withoutWrites
  dsimp only
  split_ifs <;> simp [List.filter_append, ModbusCall.isWrite]

theorem withoutWrites_tryConnect (c : CModbusClientConnection) (ready : Bool) (retVal : ℤ) :
    withoutWrites (c.tryConnect ready retVal) = (withoutWrites c).tryConnect ready retVal := by
  unfold tryConnect withoutWrites
  cases hev : c.m_pModbusConnEvent with
  | none => simp [hev]
  | some _ => split_ifs <;> simp [hev, List.filter_append, ModbusCall.isWrite]

theorem withoutWrites_runIteration (c : CModbusClientConnection) (o : LoopOutcome) :
    withoutWrites (c.runIteration o) = (withoutWrites c).runIteration o := by
  unfold runIteration
  change _ = if c.m_bConnected then _ else _
  split_ifs
  · exact withoutWrites_tryPolling c o.pollResults
  · exact withoutWrites_tryConnect c o.connectReady o.connectRetVal

theorem withoutWrites_connect (c : CModbusClientConnection) :
    withoutWrites c.connect = (withoutWrites c).connect := by
  unfold CModbusClientConnection.connect withoutWrites
  split_ifs <;> simp [List.filter_append, ModbusCall.isWrite]

theorem withoutWrites_writeDataRange (c : CModbusClientConnection) (f : EModbusFunction) :
    withoutWrites (c.writeDataRange f) = withoutWrites c := by
  unfold writeDataRange withoutWrites
  split_ifs
  · rfl
  · cases f <;> simp [List.filter_append, ModbusCall.isWrite]

@[simp]
theorem withoutWrites_m_bConnected (c : CModbusClientConnection) :
    (withoutWrites c).m_bConnected = c.m_bConnected := rfl

@[simp]
theorem withoutWrites_alive (c : CModbusClientConnection) :
    (withoutWrites c).alive = c.alive := rfl

/-- With the writes left out, the recorded calls keep the handle protocol, and `m_bConnected` says
whether the handle is open, except between `disconnect()`'s `modbus_close` and its
`m_bConnected = false`, where the handle is closed. From its `end()` on, `disconnect()` has
stopped the connection thread, and it closes only a connected client. -/
def InterleavedMirrored (s : ModbusSystem) : Prop :=
  respectsHandle true (withoutWrites s.conn).calls = true ∧
    (s.pc ≠ .closed → s.conn.m_bConnected = !closedAfter true (withoutWrites s.conn).calls) ∧
    (s.pc = .closed → closedAfter true (withoutWrites s.conn).calls = true) ∧
    (s.pc = .ended ∨ s.pc = .closing ∨ s.pc = .closed → s.conn.alive = false) ∧
    (s.pc = .closing ∨ s.pc = .closed → s.conn.m_bConnected = true)

/-- Outside `disconnect()` the invariant is the whole-call one of the write-free client. -/
theorem interleavedMirrored_of_handleMirrored {c : CModbusClientConnection}
    (h : HandleMirrored (withoutWrites c)) : InterleavedMirrored ⟨c, .idle⟩ :=
  ⟨h.1, fun _ ↦ by simpa using h.2, by simp, by simp, by simp⟩

/-- Assumes: the invariant, and a `connect()` only outside `disconnect()`. The step keeps it. -/
theorem interleavedMirrored_step {s : ModbusSystem} (h : InterleavedMirrored s) (a : ModbusStep)
    (hconnect : a = .connect → s.pc = .idle) :
    InterleavedMirrored (s.step a) := by
  have ⟨hresp, hmirror, hclosed, hstopped, hconn⟩ := h
  have hlift : s.pc ≠ .closed → HandleMirrored (withoutWrites s.conn) :=
    fun hpc ↦ ⟨hresp, by simpa using hmirror hpc⟩
  obtain ⟨c, pc⟩ := s
  cases a with
  | connect =>
    have hpc : pc = .idle := hconnect rfl
    subst hpc
    have hm := handleMirrored_apply (hlift (by simp)) ClientCall.connect
    rw [ClientCall.apply, ← withoutWrites_connect] at hm
    exact interleavedMirrored_of_handleMirrored hm
  | iterate o =>
    simp only [ModbusSystem.step]
    split_ifs with halive
    · -- the connection thread runs, so `disconnect()` has not reached its `end()`
      have hpc : pc = .idle := by
        cases pc <;> simp_all
      subst hpc
      have hm := handleMirrored_runIteration (hlift (by simp)) o
      rw [← withoutWrites_runIteration] at hm
      exact interleavedMirrored_of_handleMirrored hm
    · exact h
  | write f =>
    -- a write leaves the write-free client, the flag and the thread as they are
    simpa [ModbusSystem.step, InterleavedMirrored, withoutWrites_writeDataRange,
      writeDataRange_alive] using h
  | disconnectEnd =>
    simp only [ModbusSystem.step]
    split_ifs with hpc
    · subst hpc
      exact ⟨hresp, fun _ ↦ hmirror (by simp), by simp, fun _ ↦ rfl, by simp⟩
    · exact h
  | disconnectTest =>
    simp only [ModbusSystem.step]
    split_ifs with hpc hc
    · -- found connected: on to the close, with the thread stopped
      subst hpc
      exact ⟨hresp, fun _ ↦ hmirror (by simp), by simp, fun _ ↦ hstopped (by simp),
        fun _ ↦ hc⟩
    · subst hpc
      exact interleavedMirrored_of_handleMirrored (hlift (by simp))
    · exact h
  | disconnectClose =>
    simp only [ModbusSystem.step]
    split_ifs with hpc
    · -- `modbus_close` on the open handle of a connected client
      subst hpc
      have hc : c.m_bConnected = true := hconn (.inl rfl)
      have hopen : closedAfter true (withoutWrites c).calls = false := by
        simpa [hc] using (hmirror (by simp)).symm
      have hcalls : (withoutWrites { c with calls := c.calls ++ [.close] }).calls =
          (withoutWrites c).calls ++ [.close] := by
        simp [withoutWrites, List.filter_append, ModbusCall.isWrite]
      refine ⟨?_, by simp, fun _ ↦ ?_, fun _ ↦ hstopped (by simp), fun _ ↦ hc⟩
      · simp [hcalls, respectsHandle_append, hresp, hopen, respectsHandle]
      · simp [hcalls, closedAfter_append, closedAfter]
    · exact h
  | disconnectClear =>
    simp only [ModbusSystem.step]
    split_ifs with hpc
    · -- `m_bConnected = false` after the close
      subst hpc
      exact interleavedMirrored_of_handleMirrored
        ⟨hresp, by simpa [withoutWrites] using (hclosed rfl).symm⟩
    · exact h

/-- No `connect()` is made while `disconnect()` is between its first and its last statement. -/
def ConnectOutsideDisconnect : ModbusSystem → List ModbusStep → Prop
  | _, [] => True
  | s, a :: rest =>
    (a = .connect → s.pc = .idle) ∧ ConnectOutsideDisconnect (s.step a) rest

instance decConnectOutsideDisconnect : (s : ModbusSystem) → (steps : List ModbusStep) →
    Decidable (ConnectOutsideDisconnect s steps)
  | _, [] => isTrue trivial
  | s, a :: rest =>
    haveI := decConnectOutsideDisconnect (s.step a) rest
    inferInstanceAs (Decidable ((a = .connect → s.pc = .idle) ∧
      ConnectOutsideDisconnect (s.step a) rest))

theorem interleavedMirrored_run {s : ModbusSystem} (h : InterleavedMirrored s)
    (steps : List ModbusStep) (hconnect : ConnectOutsideDisconnect s steps) :
    InterleavedMirrored (ModbusSystem.run s steps) := by
  induction steps generalizing s with
  | nil => exact h
  | cons a rest ih => exact ih (interleavedMirrored_step h a hconnect.1) hconnect.2

/-- A write inside `disconnect()`'s window, the end of `disconnect()`, a new connection, and a
second `disconnect()`. -/
def writeInWindowThenReconnect : List ModbusStep :=
  [.connect, .iterate ⟨true, 0, []⟩, .disconnectEnd, .disconnectTest, .disconnectClose,
    .write .eCoil, .disconnectClear, .connect, .iterate ⟨true, 0, []⟩, .disconnectEnd,
    .disconnectTest, .disconnectClose, .disconnectClear]

end Forte.Modbus
