import Forte.Modbus.Protocol

/-!
# The reconnect event on a serial line

`CModbusConnectionEvent::executeEvent` restarts the event's timer and calls `modbus_connect`. For an
Arduino behind the serial line (`eFlowArduino`) it first opens the device and clears the hardware
flow-control flags `HUPCL` and `CRTSCTS`; after a successful connect it waits for the device under
`eFlowDelay` and `eFlowLongDelay`. When `tcsetattr` refuses the new flags it returns `-1` at once,
before `close(fd)` and without calling `modbus_connect`.

The run loop of the client calls it from `tryConnect` while it is disconnected and its reconnect
event is ready. `runIterationSerial` is that iteration with `executeEvent` run on the answers of
the system (`ConnectAnswers`), and `runSerial` a sequence of them: the client part of every such
run is the run of whole calls fed with `executeEvent`'s return values (`runSerial_conn`), so what
the whole-call model proves holds of it. Over any run, each reconnect attempt the client records is
one run of `executeEvent`, and the descriptors left open are exactly the runs that stopped before
`modbus_connect` (`runSerial_descriptors`). A device that keeps refusing the flags is never
connected: the client logs a failed connection on every ready iteration although `modbus_connect`
is never called, and loses one descriptor each time (`refusingDevice_leaks`).
-/

set_option autoImplicit false
set_option relaxedAutoImplicit false

namespace Forte.Modbus

/-- `EModbusFlowControl`, as `executeEvent` tells it apart; `other` stands for the values that
reach only the `default:` branches. -/
inductive EModbusFlowControl
  | eFlowArduino
  | eFlowDelay
  | eFlowLongDelay
  | other
  deriving DecidableEq, Repr

/-- What the system answers during one `executeEvent`: the descriptor `open` returns, whether
`tcgetattr` finds `HUPCL` or `CRTSCTS` set, and what `tcsetattr` and `modbus_connect` return. -/
structure ConnectAnswers where
  fd : ℤ
  flowFlags : Bool
  tcsetattrRet : ℤ
  connectRetVal : ℤ
  deriving DecidableEq, Repr

/-- A call made by `executeEvent`. -/
inductive EventCall
  | restartTimer
  | openDevice (fd : ℤ)
  | tcgetattr
  | tcsetattr
  | close
  | sleep (seconds : ℕ)
  | modbus_connect
  deriving DecidableEq, Repr

namespace CModbusConnectionEvent

/-- The `eFlowArduino` case: the calls on the serial device, and whether `executeEvent` returns
`-1` right after them. -/
def disableFlowControl (a : ConnectAnswers) : List EventCall × Bool :=
  if 0 ≤ a.fd then
    if a.flowFlags then
      if a.tcsetattrRet = 0 then
        ([.openDevice a.fd, .tcgetattr, .tcsetattr, .sleep 2, .close], false)
      else ([.openDevice a.fd, .tcgetattr, .tcsetattr], true)
    else ([.openDevice a.fd, .tcgetattr, .close], false)
  else ([.openDevice a.fd], false)

/-- The wait after a successful `modbus_connect`: `eFlowLongDelay` falls through into
`eFlowDelay`. -/
def connectDelay : EModbusFlowControl → List EventCall
  | .eFlowLongDelay => [.sleep 3, .sleep 2]
  | .eFlowDelay => [.sleep 2]
  | _ => []

/-- `executeEvent(pa_pModbusConn, pa_pRetVal)`: the calls made, in order, and the value
returned. -/
def executeEvent (m_enFlowControl : EModbusFlowControl) (a : ConnectAnswers) :
    List EventCall × ℤ :=
  let flowControl :=
    match m_enFlowControl with
    | .eFlowArduino => disableFlowControl a
    | _ => ([], false)
  if flowControl.2 then (.restartTimer :: flowControl.1, -1)
  else
    (.restartTimer :: flowControl.1 ++
        .modbus_connect :: (if 0 ≤ a.connectRetVal then connectDelay m_enFlowControl else []),
      a.connectRetVal)

/-- Descriptors `open` returned. -/
def opened (calls : List EventCall) : ℕ :=
  calls.countP fun
    | .openDevice fd => decide (0 ≤ fd)
    | _ => false

@[simp]
theorem opened_append (calls calls' : List EventCall) :
    opened (calls ++ calls') = opened calls + opened calls' :=
  List.countP_append _ _ _

/-- Whether an attempt fails to clear the flags: `eFlowArduino`, the device opened, a flag set,
and `tcsetattr` refusing. -/
def tcsetattrFails : EModbusFlowControl → ConnectAnswers → Bool
  | .eFlowArduino, a => decide (0 ≤ a.fd) && a.flowFlags && a.tcsetattrRet != 0
  | _, _ => false

/-- The calls on the serial device close the descriptor they open, except on the early return,
which is taken exactly when `tcsetattr` fails; they never call `modbus_connect` and never restart
the timer. -/
theorem disableFlowControl_counts (a : ConnectAnswers) :
    opened (disableFlowControl a).1 =
        (disableFlowControl a).1.count .close + (disableFlowControl a).2.toNat ∧
      (disableFlowControl a).1.count .modbus_connect = 0 ∧
      (disableFlowControl a).1.count .restartTimer = 0 ∧
      (disableFlowControl a).2 = tcsetattrFails .eFlowArduino a := by
  unfold disableFlowControl
  split_ifs <;> simp [opened, tcsetattrFails, *]

/-- One run: it restarts the timer once; the descriptors it opens are closed again, except on a
failed `tcsetattr`; and it calls `modbus_connect` exactly when `tcsetattr` did not fail. -/
theorem executeEvent_counts (m_enFlowControl : EModbusFlowControl) (a : ConnectAnswers) :
    (executeEvent m_enFlowControl a).1.count .restartTimer = 1 ∧
      opened (executeEvent m_enFlowControl a).1 =
        (executeEvent m_enFlowControl a).1.count .close +
          (tcsetattrFails m_enFlowControl a).toNat ∧
      (executeEvent m_enFlowControl a).1.count .modbus_connect +
          (tcsetattrFails m_enFlowControl a).toNat = 1 := by
  cases m_enFlowControl
  case eFlowArduino =>
    obtain ⟨hopen, hconn, htimer, hfails⟩ := disableFlowControl_counts a
    rw [← hfails]
    cases hfail : (disableFlowControl a).2 <;> by_cases hret : 0 ≤ a.connectRetVal <;>
      simp [executeEvent, opened, connectDelay, hfail, hret] at hopen hconn htimer ⊢ <;> omega
  all_goals
    by_cases hret : 0 ≤ a.connectRetVal <;>
      simp [executeEvent, opened, connectDelay, tcsetattrFails, hret]

/-- A run whose `tcsetattr` fails opens the device, reads and fails to set its flags, and returns
`-1`. -/
theorem executeEvent_of_tcsetattrFails {a : ConnectAnswers}
    (h : tcsetattrFails .eFlowArduino a = true) :
    executeEvent .eFlowArduino a =
      ([.restartTimer, .openDevice a.fd, .tcgetattr, .tcsetattr], -1) := by
  simp only [tcsetattrFails, Bool.and_eq_true, decide_eq_true_eq, bne_iff_ne] at h
  obtain ⟨⟨hfd, hflags⟩, hret⟩ := h
  simp [executeEvent, disableFlowControl, hfd, hflags, hret]

end CModbusConnectionEvent

open CModbusConnectionEvent

/-! ### The client on a serial line -/

/-- What one run-loop iteration meets on the serial line: whether the reconnect event is ready,
what the system answers its `executeEvent`, and for each poll in order whether it is ready and what
it returns. -/
structure SerialOutcome where
  connectReady : Bool
  answers : ConnectAnswers
  pollResults : List (Option ℤ)
  deriving DecidableEq, Repr

/-- The outcome the run-loop model sees: `executeEvent`'s return value in place of the answers. -/
def SerialOutcome.toLoopOutcome (m_enFlowControl : EModbusFlowControl) (o : SerialOutcome) :
    LoopOutcome :=
  ⟨o.connectReady, (executeEvent m_enFlowControl o.answers).2, o.pollResults⟩

/-- A client on a serial line, with the calls its reconnect events made, in order. -/
structure SerialClient where
  conn : CModbusClientConnection
  eventCalls : List EventCall := []
  deriving DecidableEq, Repr

/-- A reconnect attempt recorded by the client. -/
def ModbusCall.isConnect : ModbusCall → Bool
  | .connect _ => true
  | _ => false

namespace CModbusClientConnection

/-- `tryConnect()` with `m_pModbusConnEvent->executeEvent(m_pModbusConn, nullptr)` run on the
serial line: the client after it, and the calls the event made. -/
def tryConnectSerial (c : CModbusClientConnection) (m_enFlowControl : EModbusFlowControl)
    (ready : Bool) (a : ConnectAnswers) : CModbusClientConnection × List EventCall :=
  match c.m_pModbusConnEvent with
  | none => (c, [])
  | some _ =>
    if ready then
      let event := executeEvent m_enFlowControl a
      (c.tryConnect ready event.2, event.1)
    else (c, [])

/-- One iteration of the loop in `run()` on the serial line. -/
def runIterationSerial (c : CModbusClientConnection) (m_enFlowControl : EModbusFlowControl)
    (o : SerialOutcome) : CModbusClientConnection × List EventCall :=
  if c.m_bConnected then (c.tryPolling o.pollResults, [])
  else c.tryConnectSerial m_enFlowControl o.connectReady o.answers

theorem tryConnectSerial_fst (c : CModbusClientConnection) (m_enFlowControl : EModbusFlowControl)
    (ready : Bool) (a : ConnectAnswers) :
    (c.tryConnectSerial m_enFlowControl ready a).1 =
      c.tryConnect ready (executeEvent m_enFlowControl a).2 := by
  unfold tryConnectSerial tryConnect
  cases c.m_pModbusConnEvent <;> cases ready <;> rfl

/-- The client part of an iteration on the serial line is the run-loop iteration that sees
`executeEvent`'s return value. -/
theorem runIterationSerial_fst (c : CModbusClientConnection) (m_enFlowControl : EModbusFlowControl)
    (o : SerialOutcome) :
    (c.runIterationSerial m_enFlowControl o).1 =
      c.runIteration (o.toLoopOutcome m_enFlowControl) := by
  unfold runIterationSerial runIteration
  split_ifs
  · rfl
  · exact tryConnectSerial_fst _ _ _ _

/-- An iteration runs `executeEvent` at most once, exactly when the client records a reconnect
attempt, and the descriptors it leaves open are the runs that stopped before `modbus_connect`. -/
theorem runIterationSerial_counts (c : CModbusClientConnection)
    (m_enFlowControl : EModbusFlowControl) (o : SerialOutcome) :
    opened (c.runIterationSerial m_enFlowControl o).2 +
        (c.runIterationSerial m_enFlowControl o).2.count .modbus_connect =
      (c.runIterationSerial m_enFlowControl o).2.count .close +
        (c.runIterationSerial m_enFlowControl o).2.count .restartTimer ∧
    (c.runIterationSerial m_enFlowControl o).1.calls.countP ModbusCall.isConnect =
      c.calls.countP ModbusCall.isConnect +
        (c.runIterationSerial m_enFlowControl o).2.count .restartTimer := by
  obtain ⟨htimer, hopen, hconn⟩ := executeEvent_counts m_enFlowControl o.answers
  unfold runIterationSerial
  split_ifs with hc
  · -- polling: no event runs, and the polls add reads and at most a close
    have hpoll : (c.tryPolling o.pollResults).calls.countP ModbusCall.isConnect =
        c.calls.countP ModbusCall.isConnect := by
      unfold tryPolling
      dsimp only
      split_ifs <;> simp [List.countP_append, List.countP_replicate, ModbusCall.isConnect]
    simp [opened, hpoll]
  · -- connecting: a ready event runs once, and the client records the attempt
    cases hev : c.m_pModbusConnEvent with
    | none => simp [tryConnectSerial, hev, opened]
    | some e =>
      cases hready : o.connectReady
      · simp [tryConnectSerial, hev, hready, opened]
      · by_cases hret : (executeEvent m_enFlowControl o.answers).2 < 0 <;>
          simp [tryConnectSerial, tryConnect, hev, hret, List.countP_append,
            ModbusCall.isConnect, htimer] <;> omega

end CModbusClientConnection

open CModbusClientConnection

/-- One iteration of the loop in `run()` on the serial line, while the thread is alive. -/
def SerialClient.iterate (m_enFlowControl : EModbusFlowControl) (s : SerialClient)
    (o : SerialOutcome) : SerialClient :=
  if s.conn.alive then
    let r := s.conn.runIterationSerial m_enFlowControl o
    { conn := r.1, eventCalls := s.eventCalls ++ r.2 }
  else s

/-- Iterations of the loop on the serial line, in order. -/
def runSerial (m_enFlowControl : EModbusFlowControl) (s : SerialClient)
    (outcomes : List SerialOutcome) : SerialClient :=
  outcomes.foldl (SerialClient.iterate m_enFlowControl) s

/-- The client part of a run on the serial line is the run of whole run-loop iterations that see
`executeEvent`'s return values. -/
theorem runSerial_conn (m_enFlowControl : EModbusFlowControl) (s : SerialClient)
    (outcomes : List SerialOutcome) :
    (runSerial m_enFlowControl s outcomes).conn =
      runCalls s.conn (outcomes.map fun o ↦ .iterate (o.toLoopOutcome m_enFlowControl)) := by
  induction outcomes generalizing s with
  | nil => rfl
  | cons o rest ih =>
    have hstep : (SerialClient.iterate m_enFlowControl s o).conn =
        ClientCall.apply s.conn (.iterate (o.toLoopOutcome m_enFlowControl)) := by
      unfold SerialClient.iterate ClientCall.apply
      split_ifs
      · exact runIterationSerial_fst _ _ _
      · rfl
    exact (ih _).trans (congrArg (runCalls · _) hstep)

/-- The reconnect attempts the client recorded beyond `attempts₀` are the runs of `executeEvent`
among the event's calls, and the descriptors those runs left open are the runs that stopped before
`modbus_connect`. -/
def SerialBalanced (attempts₀ : ℕ) (s : SerialClient) : Prop :=
  s.conn.calls.countP ModbusCall.isConnect = attempts₀ + s.eventCalls.count .restartTimer ∧
    opened s.eventCalls + s.eventCalls.count .modbus_connect =
      s.eventCalls.count .close + s.eventCalls.count .restartTimer

theorem serialBalanced_iterate {attempts₀ : ℕ} {s : SerialClient} (h : SerialBalanced attempts₀ s)
    (m_enFlowControl : EModbusFlowControl) (o : SerialOutcome) :
    SerialBalanced attempts₀ (SerialClient.iterate m_enFlowControl s o) := by
  unfold SerialClient.iterate
  split_ifs
  · obtain ⟨hopen, hconn⟩ := runIterationSerial_counts s.conn m_enFlowControl o
    obtain ⟨h1, h2⟩ := h
    simp only [SerialBalanced, opened_append, List.countP_append, List.count_append] at *
    omega
  · exact h

theorem serialBalanced_runSerial {attempts₀ : ℕ} {s : SerialClient}
    (h : SerialBalanced attempts₀ s) (m_enFlowControl : EModbusFlowControl)
    (outcomes : List SerialOutcome) :
    SerialBalanced attempts₀ (runSerial m_enFlowControl s outcomes) := by
  induction outcomes generalizing s with
  | nil => exact h
  | cons o rest ih => exact ih (serialBalanced_iterate h m_enFlowControl o)

/-- Over any run of the loop on a serial line, from any client, the client is the one the
run-loop model gives with `executeEvent`'s return values; every reconnect attempt it records is one
run of `executeEvent`; and the descriptors `open` returned and `close` did not close are exactly
the runs that stopped before `modbus_connect`. -/
theorem runSerial_descriptors (m_enFlowControl : EModbusFlowControl) (c : CModbusClientConnection)
    (outcomes : List SerialOutcome) :
    (runSerial m_enFlowControl ⟨c, []⟩ outcomes).conn =
        runCalls c (outcomes.map fun o ↦ .iterate (o.toLoopOutcome m_enFlowControl)) ∧
      (runSerial m_enFlowControl ⟨c, []⟩ outcomes).conn.calls.countP ModbusCall.isConnect =
        c.calls.countP ModbusCall.isConnect +
          (runSerial m_enFlowControl ⟨c, []⟩ outcomes).eventCalls.count .restartTimer ∧
      opened (runSerial m_enFlowControl ⟨c, []⟩ outcomes).eventCalls +
          (runSerial m_enFlowControl ⟨c, []⟩ outcomes).eventCalls.count .modbus_connect =
        (runSerial m_enFlowControl ⟨c, []⟩ outcomes).eventCalls.count .close +
          (runSerial m_enFlowControl ⟨c, []⟩ outcomes).eventCalls.count .restartTimer :=
  ⟨runSerial_conn _ _ _,
    serialBalanced_runSerial ⟨by simp, by simp [opened]⟩ m_enFlowControl outcomes⟩

/-- The calls of a refused run of `executeEvent`: the timer, the device opened, its flags read,
and the refused `tcsetattr`. -/
def refusedCalls (o : SerialOutcome) : List EventCall :=
  [.restartTimer, .openDevice o.answers.fd, .tcgetattr, .tcsetattr]

/-- A refused run leaves its descriptor open. -/
theorem opened_refusedCalls {o : SerialOutcome}
    (h : tcsetattrFails .eFlowArduino o.answers = true) : opened (refusedCalls o) = 1 := by
  simp only [tcsetattrFails, Bool.and_eq_true, decide_eq_true_eq] at h
  simp [opened, refusedCalls, h.1.1]

theorem opened_flatMap_refusedCalls (outcomes : List SerialOutcome)
    (hrefuse : ∀ o ∈ outcomes, tcsetattrFails .eFlowArduino o.answers = true) :
    opened (outcomes.flatMap refusedCalls) = outcomes.length := by
  induction outcomes with
  | nil => rfl
  | cons o rest ih =>
    rw [List.flatMap_cons, opened_append, opened_refusedCalls (hrefuse o (List.mem_cons_self _ _)),
      ih fun o' ho' ↦ hrefuse o' (List.mem_cons_of_mem _ ho'), List.length_cons, Nat.add_comm]

/-- Assumes: a running client, disconnected, with its reconnect event, on a device that refuses
the flags every time. Each ready iteration runs the refused `executeEvent`, and the client logs a
failed connection. -/
theorem runSerial_refusing (outcomes : List SerialOutcome)
    (hrefuse : ∀ o ∈ outcomes, tcsetattrFails .eFlowArduino o.answers = true) :
    ∀ s : SerialClient, s.conn.alive = true → s.conn.m_bConnected = false →
      s.conn.m_pModbusConnEvent.isSome →
      runSerial .eFlowArduino s outcomes =
        { conn := { s.conn with
            calls := s.conn.calls ++
              List.replicate (outcomes.countP (·.connectReady)) (.connect false) },
          eventCalls :=
            s.eventCalls ++ (outcomes.filter (·.connectReady)).flatMap refusedCalls } := by
  induction outcomes with
  | nil => intro s _ _ _; simp [runSerial]
  | cons o rest ih =>
    intro s halive hdisc hevent
    obtain ⟨e, he⟩ := Option.isSome_iff_exists.mp hevent
    have hexec := executeEvent_of_tcsetattrFails (hrefuse o (List.mem_cons_self _ _))
    -- one iteration: a ready event fails before `modbus_connect`, and the client logs it
    have hiter : SerialClient.iterate .eFlowArduino s o =
        { conn := { s.conn with
            calls := s.conn.calls ++ if o.connectReady then [.connect false] else [] },
          eventCalls := s.eventCalls ++ if o.connectReady then refusedCalls o else [] } := by
      obtain ⟨⟨connected, event, polls, slave, alive, released, calls⟩, eventCalls⟩ := s
      simp only at halive hdisc he
      subst halive hdisc he
      unfold SerialClient.iterate runIterationSerial tryConnectSerial tryConnect
      cases hready : o.connectReady <;> simp [hexec, hready, refusedCalls]
    have hrest := ih (fun o' ho' ↦ hrefuse o' (List.mem_cons_of_mem _ ho'))
      (SerialClient.iterate .eFlowArduino s o) (by simp [hiter, halive]) (by simp [hiter, hdisc])
      (by simp [hiter, he])
    simp only [runSerial, List.foldl] at hrest ⊢
    rw [hrest, hiter]
    cases hready : o.connectReady <;> simp [hready, List.replicate_succ]

/-- Assumes: a running client, disconnected, with its reconnect event, on a device whose
`tcsetattr` refuses the new flags every time. However many iterations the loop runs, the client
stays as it was but for one failed connection logged per ready iteration, and each of these
iterations opens the device and leaves the descriptor open, without calling `modbus_connect`. -/
theorem refusingDevice_leaks (c : CModbusClientConnection) (outcomes : List SerialOutcome)
    (halive : c.alive = true) (hdisc : c.m_bConnected = false)
    (hevent : c.m_pModbusConnEvent.isSome)
    (hrefuse : ∀ o ∈ outcomes, tcsetattrFails .eFlowArduino o.answers = true) :
    (runSerial .eFlowArduino ⟨c, []⟩ outcomes).conn =
        { c with
          calls := c.calls ++ List.replicate (outcomes.countP (·.connectReady)) (.connect false) } ∧
      (runSerial .eFlowArduino ⟨c, []⟩ outcomes).eventCalls =
        (outcomes.filter (·.connectReady)).flatMap refusedCalls ∧
      opened (runSerial .eFlowArduino ⟨c, []⟩ outcomes).eventCalls =
        outcomes.countP (·.connectReady) := by
  have hrun := runSerial_refusing outcomes hrefuse ⟨c, []⟩ halive hdisc hevent
  refine ⟨by rw [hrun], by rw [hrun]; rfl, ?_⟩
  rw [hrun, List.nil_append, List.countP_eq_length_filter]
  exact opened_flatMap_refusedCalls _ fun o ho ↦ hrefuse o (List.mem_filter.mp ho).1

/-- A device behind a fresh connection that refuses the flags on three iterations, two of them
ready. -/
def refusingAnswers : List SerialOutcome :=
  [⟨true, ⟨3, true, -1, 0⟩, []⟩, ⟨false, ⟨3, true, -1, 0⟩, []⟩, ⟨true, ⟨4, true, -1, 0⟩, []⟩]

/-- After `connect()`, two failed connections are logged, and two descriptors are left open. -/
theorem refusingDevice_leaks_twice :
    ({} : CModbusClientConnection).connect.alive = true ∧
      ({} : CModbusClientConnection).connect.m_bConnected = false ∧
      ({} : CModbusClientConnection).connect.m_pModbusConnEvent.isSome ∧
      (∀ o ∈ refusingAnswers, tcsetattrFails .eFlowArduino o.answers = true) ∧
      (runSerial .eFlowArduino ⟨({} : CModbusClientConnection).connect, []⟩ refusingAnswers).conn =
        { ({} : CModbusClientConnection).connect with
          calls := ({} : CModbusClientConnection).connect.calls ++
            List.replicate (refusingAnswers.countP (·.connectReady)) (.connect false) } ∧
      (runSerial .eFlowArduino ⟨({} : CModbusClientConnection).connect, []⟩
          refusingAnswers).eventCalls =
        (refusingAnswers.filter (·.connectReady)).flatMap refusedCalls ∧
      opened (runSerial .eFlowArduino ⟨({} : CModbusClientConnection).connect, []⟩
          refusingAnswers).eventCalls = refusingAnswers.countP (·.connectReady) :=
  have hrefuse : ∀ o ∈ refusingAnswers, tcsetattrFails .eFlowArduino o.answers = true := by decide
  ⟨rfl, rfl, rfl, hrefuse, refusingDevice_leaks _ _ rfl rfl rfl hrefuse⟩

end Forte.Modbus
