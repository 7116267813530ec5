import Mathlib.Logic.Function.Basic

/-!
# EmBrick masters and the shared BusHandler

Every `EmBrick::FunctionBlocks::Master` reaches the one `BusHandler` through the singleton
`BusHandler::getInstance()`. `INIT` with `QI` takes the singleton into the member `bus`, refuses
when the bus is already alive, and otherwise starts it, waits for its initialisation, and
configures it through the adapter (`INDEX = 0`, adapter `INIT`). `INIT` without `QI` ends a live
bus and answers `QO = true`; the destructor ends a live bus too. `Master.h`, where `bus` is
declared, is outside `src/` and gives it no initial value here, so a `Master` that dereferences
`bus` before any `INIT` with `QI` has undefined behaviour: such a step has no outcome in the model.
`CThread::start` makes the bus alive and `CThread::end` stops it; a stopped bus stays stopped.

Masters on different resources react in parallel, and none of the accesses to the bus is locked.
So each master has a program counter (`MasterPc`), and a reaction is a sequence of steps: `INIT`
with `QI` is the check `bus->isAlive()` (`initCheck`) and the rest from `bus->start()` on
(`initStart`); `INIT` without `QI` and `~Master()` are each the test `bus->isAlive()`
(`initStopTest`, `destroyTest`) and, when it finds the bus alive, `bus->end()` with what follows
(`initStopEnd`, `destroyEnd`). A master runs one reaction at a time. `trace` records starts,
configurations, ends, and `INITO` answers.

A master refused by the single-master check still holds `bus`, and ends the bus another master
started on `INIT` without `QI` or on destruction (`refused_master_ends_bus`). With each `INIT` run
as one reaction, no second master starts the bus before it has been ended
(`singleStart_reactions`), but two resources can both pass the check before either starts the bus
(`two_masters_start_bus`). On the side of the ends, in every interleaving the bus is alive exactly
when it was started after its last `end`, it is never ended before it was first started, and no
master ends it twice between two starts (`ends_once_per_start`). Two masters whose tests both find
the bus alive both call `bus->end()`, so the second `end` reaches a stopped bus
(`ends_once_per_start_race`).
-/

set_option autoImplicit false
set_option relaxedAutoImplicit false

namespace Forte.EmBrick

/-- What the masters do to the bus and answer, in order. -/
inductive BusObs
  | start (master : ℕ)
  | configure (master : ℕ)
  | end_ (master : ℕ)
  | initO (master : ℕ) (QO : Bool)
  deriving DecidableEq, Repr

/-- Where a master stands inside a reaction: in none; past the check `bus->isAlive()` of `INIT`
with `QI`, before `bus->start()`; or past the test `bus->isAlive()` of `INIT` without `QI` or of
`~Master()`, before `bus->end()`. -/
inductive MasterPc
  | idle
  | passedCheck
  | stopping
  | destroying
  deriving DecidableEq, Repr

/-- One `Master` instance: whether `bus` holds the singleton, its output `QO`, where it stands in
its reaction, and whether it has been destroyed. -/
structure MasterState where
  bus : Bool := false
  QO : Bool := false
  pc : MasterPc := .idle
  destroyed : Bool := false
  deriving DecidableEq, Repr

/-- The bus, every master by number, and the trace. -/
structure EmBrickSystem where
  busAlive : Bool := false
  masters : ℕ → MasterState := fun _ ↦ {}
  trace : List BusObs := []

/-- One step of one master. -/
inductive MasterStep
  | initCheck (master : ℕ)
  | initStart (master : ℕ)
  | initStopTest (master : ℕ)
  | initStopEnd (master : ℕ)
  | adapterINITO (master : ℕ) (busQO : Bool)
  | destroyTest (master : ℕ)
  | destroyEnd (master : ℕ)
  deriving DecidableEq, Repr

namespace EmBrickSystem

/-- The system with master `m` replaced. -/
def setMaster (s : EmBrickSystem) (m : ℕ) (ms : MasterState) : EmBrickSystem :=
  { s with masters := Function.update s.masters m ms }

/-- Master `m` moved to `pc`. -/
def setPc (s : EmBrickSystem) (m : ℕ) (pc : MasterPc) : EmBrickSystem :=
  s.setMaster m { s.masters m with pc := pc }

/-- `bus->end()`, called by master `m`. -/
def endBus (s : EmBrickSystem) (m : ℕ) : EmBrickSystem :=
  { s with busAlive := false, trace := s.trace ++ [.end_ m] }

/-- `Master::executeEvent(INIT)` with `QI`, up to `bus->isAlive()`: take the singleton, and refuse
with `QO = false` when the bus is alive. -/
def initCheck (s : EmBrickSystem) (m : ℕ) : EmBrickSystem :=
  let ms := { s.masters m with bus := true }
  if s.busAlive then
    { s.setMaster m { ms with QO := false } with trace := s.trace ++ [.initO m false] }
  else s.setMaster m { ms with pc := .passedCheck }

/-- The rest of `INIT` with `QI`: `bus->start()`, `bus->waitForInit()`, `INDEX = 0` and the adapter
`INIT`. -/
def initStart (s : EmBrickSystem) (m : ℕ) : EmBrickSystem :=
  { s.setPc m .idle with busAlive := true, trace := s.trace ++ [.start m, .configure m] }

/-- The last statements of `INIT` without `QI`: `QO() = true` and `INITO`. -/
def answerStop (s : EmBrickSystem) (m : ℕ) : EmBrickSystem :=
  { s.setMaster m { s.masters m with QO := true, pc := .idle } with
    trace := s.trace ++ [.initO m true] }

/-- `INIT` without `QI`, up to `if (bus->isAlive())`: on a live bus, on to `bus->end()`; otherwise
the answer. -/
def initStopTest (s : EmBrickSystem) (m : ℕ) : EmBrickSystem :=
  if s.busAlive then s.setPc m .stopping else s.answerStop m

/-- The rest of `INIT` without `QI` after a test that found the bus alive: `bus->end()`, then the
answer. -/
def initStopEnd (s : EmBrickSystem) (m : ℕ) : EmBrickSystem :=
  (s.endBus m).answerStop m

/-- `BusAdapterOut().INITO()`: copy the adapter's `QO` and answer `INITO`. -/
def adapterINITO (s : EmBrickSystem) (m : ℕ) (busQO : Bool) : EmBrickSystem :=
  { s.setMaster m { s.masters m with QO := busQO } with trace := s.trace ++ [.initO m busQO] }

/-- The end of `~Master()`: the master is gone. -/
def finishDestroy (s : EmBrickSystem) (m : ℕ) : EmBrickSystem :=
  s.setMaster m { s.masters m with pc := .idle, destroyed := true }

/-- `~Master()`, up to `if (bus->isAlive())`: on a live bus, on to `bus->end()`. -/
def destroyTest (s : EmBrickSystem) (m : ℕ) : EmBrickSystem :=
  if s.busAlive then s.setPc m .destroying else s.finishDestroy m

/-- The rest of `~Master()` after a test that found the bus alive: `bus->end()`. -/
def destroyEnd (s : EmBrickSystem) (m : ℕ) : EmBrickSystem :=
  (s.endBus m).finishDestroy m

end EmBrickSystem

open EmBrickSystem

/-- One step, if it has an outcome. A reaction begins only for a master that exists and stands in
no other reaction, and one that dereferences `bus` needs it set; the step that completes a reaction
needs its master where the first step left it. -/
def step (s : EmBrickSystem) : MasterStep → Option EmBrickSystem
  | .initCheck m =>
    if (s.masters m).destroyed ∨ (s.masters m).pc ≠ .idle then none else some (s.initCheck m)
  | .initStart m => if (s.masters m).pc = .passedCheck then some (s.initStart m) else none
  | .initStopTest m =>
    if (s.masters m).destroyed ∨ (s.masters m).pc ≠ .idle ∨ !(s.masters m).bus then none
    else some (s.initStopTest m)
  | .initStopEnd m => if (s.masters m).pc = .stopping then some (s.initStopEnd m) else none
  | .adapterINITO m busQO =>
    if (s.masters m).destroyed ∨ (s.masters m).pc ≠ .idle then none
    else some (s.adapterINITO m busQO)
  | .destroyTest m =>
    if (s.masters m).destroyed ∨ (s.masters m).pc ≠ .idle ∨ !(s.masters m).bus then none
    else some (s.destroyTest m)
  | .destroyEnd m => if (s.masters m).pc = .destroying then some (s.destroyEnd m) else none

/-- The steps taken in order, while each has an outcome. -/
def run : EmBrickSystem → List MasterStep → Option EmBrickSystem
  | s, [] => some s
  | s, a :: rest => (step s a).bind fun s' ↦ run s' rest

/-- `Master::executeEvent` and `~Master` as whole reactions of one master: `INIT` with or without
`QI`, the adapter's `INITO`, and destruction. -/
inductive MasterReaction
  | INIT (master : ℕ) (QI : Bool)
  | adapterINITO (master : ℕ) (busQO : Bool)
  | destroy (master : ℕ)
  deriving DecidableEq, Repr

/-- A first step and, when it leaves master `m` at `pc`, the step that completes the reaction. -/
def stepThen (s : EmBrickSystem) (first : MasterStep) (m : ℕ) (pc : MasterPc)
    (next : MasterStep) : Option EmBrickSystem :=
  (step s first).bind fun s' ↦ if (s'.masters m).pc = pc then step s' next else some s'

/-- One whole reaction: each reaction with a test is the test followed, when it passes, by the rest
of the reaction. -/
def react (s : EmBrickSystem) : MasterReaction → Option EmBrickSystem
  | .INIT m true => stepThen s (.initCheck m) m .passedCheck (.initStart m)
  | .INIT m false => stepThen s (.initStopTest m) m .stopping (.initStopEnd m)
  | .adapterINITO m busQO => step s (.adapterINITO m busQO)
  | .destroy m => stepThen s (.destroyTest m) m .destroying (.destroyEnd m)

/-- The reactions in order, while each has an outcome. -/
def runReactions : EmBrickSystem → List MasterReaction → Option EmBrickSystem
  | s, [] => some s
  | s, r :: rest => (react s r).bind fun s' ↦ runReactions s' rest

namespace EmBrickSystem

@[simp]
theorem setMaster_busAlive (s : EmBrickSystem) (m : ℕ) (ms : MasterState) :
    (s.setMaster m ms).busAlive = s.busAlive := rfl

@[simp]
theorem setMaster_trace (s : EmBrickSystem) (m : ℕ) (ms : MasterState) :
    (s.setMaster m ms).trace = s.trace := rfl

@[simp]
theorem setMaster_masters (s : EmBrickSystem) (m m' : ℕ) (ms : MasterState) :
    (s.setMaster m ms).masters m' = if m' = m then ms else s.masters m' :=
  Function.update_apply _ _ _ _

end EmBrickSystem

/-- What a step can do, guards included. -/
theorem step_cases {s s' : EmBrickSystem} {a : MasterStep} (h : step s a = some s') :
    ∃ m, (a = .initCheck m ∧ (s.masters m).pc = .idle ∧ s' = s.initCheck m) ∨
      (a = .initStart m ∧ (s.masters m).pc = .passedCheck ∧ s' = s.initStart m) ∨
      (a = .initStopTest m ∧ (s.masters m).pc = .idle ∧ s' = s.initStopTest m) ∨
      (a = .initStopEnd m ∧ (s.masters m).pc = .stopping ∧ s' = s.initStopEnd m) ∨
      (∃ busQO, a = .adapterINITO m busQO ∧ (s.masters m).pc = .idle ∧
        s' = s.adapterINITO m busQO) ∨
      (a = .destroyTest m ∧ (s.masters m).pc = .idle ∧ s' = s.destroyTest m) ∨
      (a = .destroyEnd m ∧ (s.masters m).pc = .destroying ∧ s' = s.destroyEnd m) := by
  cases a with
  | initCheck m | initStart m | initStopTest m | initStopEnd m | adapterINITO m | destroyTest m
  | destroyEnd m =>
    refine ⟨m, ?_⟩
    simp only [step] at h
    split_ifs at h
    cases h
    simp_all

/-- What a whole reaction can do, guards included: the master exists and stands in no other
reaction; a test that finds the bus alive is followed by the rest of its reaction. -/
theorem react_cases {s s' : EmBrickSystem} {r : MasterReaction} (h : react s r = some s') :
    ∃ m, (s.masters m).pc = .idle ∧
      ((r = .INIT m true ∧ s.busAlive = true ∧ s' = s.initCheck m) ∨
       (r = .INIT m true ∧ s.busAlive = false ∧ s' = (s.initCheck m).initStart m) ∨
       (r = .INIT m false ∧ s.busAlive = true ∧ s' = (s.initStopTest m).initStopEnd m) ∨
       (r = .INIT m false ∧ s.busAlive = false ∧ s' = s.initStopTest m) ∨
       (∃ busQO, r = .adapterINITO m busQO ∧ s' = s.adapterINITO m busQO) ∨
       (r = .destroy m ∧ s.busAlive = true ∧ s' = (s.destroyTest m).destroyEnd m) ∨
       (r = .destroy m ∧ s.busAlive = false ∧ s' = s.destroyTest m)) := by
  rcases r with ⟨m, _ | _⟩ | ⟨m, busQO⟩ | m
  case adapterINITO =>
    refine ⟨m, ?_⟩
    simp only [react, step] at h
    split_ifs at h with hg
    cases h
    simp_all
  -- a reaction with a test: the test's guard, then whether the test found the bus alive
  all_goals
    refine ⟨m, ?_⟩
    obtain ⟨s₁, h₁, h₂⟩ := Option.bind_eq_some.mp h
    simp only [step] at h₁
    split_ifs at h₁ with hg
    cases h₁
    simp only [not_or, not_not] at hg
    cases hb : s.busAlive <;>
      simp [hb, initCheck, initStopTest, destroyTest, setPc, answerStop, finishDestroy, step, hg]
        at h₂ ⊢ <;>
      exact h₂.symm

/-! ### Who ends the bus -/

/-- Whether, after the observations, the bus ends with its last starter: each `end` by the master
whose `start` came last, from `starter` before them. -/
def endsByStarter : Option ℕ → List BusObs → Bool
  | _, [] => true
  | _, .start m :: rest => endsByStarter (some m) rest
  | starter, .end_ m :: rest => starter == some m && endsByStarter starter rest
  | starter, _ :: rest => endsByStarter starter rest

/-- Master `0` starts the bus, master `1` is refused, and then ends the bus with `INIT` without
`QI`, or by being destroyed: an `end` by a master other than the last starter. -/
theorem refused_master_ends_bus :
    (runReactions {} [.INIT 0 true, .INIT 1 true, .INIT 1 false]).map (·.trace) =
      some [.start 0, .configure 0, .initO 1 false, .end_ 1, .initO 1 true] ∧
    (runReactions {} [.INIT 0 true, .INIT 1 true, .destroy 1]).map (·.trace) =
      some [.start 0, .configure 0, .initO 1 false, .end_ 1] ∧
    endsByStarter none [.start 0, .configure 0, .initO 1 false, .end_ 1] = false := by
  decide

/-! ### One master at a time -/

/-- Whether the bus was started after its last `end`, from `started` before the observations. -/
def startedAfter : Bool → List BusObs → Bool
  | started, [] => started
  | _, .start _ :: rest => startedAfter true rest
  | _, .end_ _ :: rest => startedAfter false rest
  | started, _ :: rest => startedAfter started rest

/-- Whether every `start` in the observations comes when the bus is not started, from `started`
before them: no second master starts the bus before it has been ended. -/
def startsAlone : Bool → List BusObs → Bool
  | _, [] => true
  | started, .start _ :: rest => !started && startsAlone true rest
  | _, .end_ _ :: rest => startsAlone false rest
  | started, _ :: rest => startsAlone started rest

theorem startedAfter_append (started : Bool) (obs extra : List BusObs) :
    startedAfter started (obs ++ extra) = startedAfter (startedAfter started obs) extra := by
  induction obs generalizing started with
  | nil => rfl
  | cons o rest ih => cases o <;> exact ih _

theorem startsAlone_append (started : Bool) (obs extra : List BusObs) :
    startsAlone started (obs ++ extra) =
      (startsAlone started obs && startsAlone (startedAfter started obs) extra) := by
  induction obs generalizing started with
  | nil => rfl
  | cons o rest ih => cases o <;> simp [startsAlone, startedAfter, ih, Bool.and_assoc]

/-- The bus is alive exactly when it was started after its last `end`, every start so far came
alone, and every master stands in no reaction. -/
def SingleMaster (s : EmBrickSystem) : Prop :=
  s.busAlive = startedAfter false s.trace ∧ startsAlone false s.trace = true ∧
    ∀ m, (s.masters m).pc = .idle

theorem singleMaster_react {s s' : EmBrickSystem} {r : MasterReaction} (hs : SingleMaster s)
    (h : react s r = some s') : SingleMaster s' := by
  obtain ⟨halive, halone, hidle⟩ := hs
  obtain ⟨m, -, hcase⟩ := react_cases h
  rcases hcase with ⟨-, hb, rfl⟩ | ⟨-, hb, rfl⟩ | ⟨-, hb, rfl⟩ | ⟨-, hb, rfl⟩ | ⟨busQO, -, rfl⟩ |
    ⟨-, hb, rfl⟩ | ⟨-, hb, rfl⟩
  · -- refused: the bus runs on, a refusal is recorded
    refine ⟨by simp_all [initCheck, startedAfter_append, startedAfter],
      by simp_all [initCheck, startsAlone_append, startsAlone], fun m' ↦ ?_⟩
    by_cases hm : m' = m <;> simp_all [initCheck]
  · -- accepted: the bus was not started, and is now
    refine ⟨by simp [initStart, startedAfter_append, startedAfter],
      by simp_all [initCheck, initStart, startsAlone_append, startsAlone, startedAfter],
      fun m' ↦ ?_⟩
    by_cases hm : m' = m <;> simp_all [initCheck, initStart, setPc]
  all_goals
    -- `INIT` without `QI`, the adapter's `INITO`, destruction: an end at most, and no start
    refine ⟨?_, ?_, fun m' ↦ ?_⟩
    all_goals try by_cases hm : m' = m
    all_goals
      simp_all [initStopTest, initStopEnd, answerStop, adapterINITO, destroyTest, destroyEnd,
        finishDestroy, endBus, setPc, startedAfter_append, startedAfter, startsAlone_append,
        startsAlone]

theorem singleMaster_runReactions (reactions : List MasterReaction) :
    ∀ {s₀ s : EmBrickSystem}, SingleMaster s₀ → runReactions s₀ reactions = some s →
      SingleMaster s := by
  induction reactions with
  | nil => intro s₀ s h₀ hrun; cases hrun; exact h₀
  | cons r rest ih =>
    intro s₀ s h₀ hrun
    obtain ⟨s₁, hr, hrest⟩ := Option.bind_eq_some.mp hrun
    exact ih (singleMaster_react h₀ hr) hrest

/-- With every `INIT` running as one reaction, no master starts the bus while another master's
start has not been ended, however many masters there are and whatever they do. -/
theorem singleStart_reactions (reactions : List MasterReaction) {s : EmBrickSystem}
    (h : runReactions {} reactions = some s) : startsAlone false s.trace = true := by
  have hinit : SingleMaster {} := ⟨rfl, rfl, fun _ ↦ rfl⟩
  exact (singleMaster_runReactions reactions hinit h).2.1

/-- Master `0` starts the bus, master `1` is refused, master `0` ends it, master `1` starts it. -/
def twoMasterInits : List MasterReaction :=
  [.INIT 0 true, .INIT 1 true, .INIT 0 false, .INIT 1 true]

/-- With whole reactions, the second start waits for the first master's end. -/
theorem singleStart_reactions_second_refused :
    runReactions {} twoMasterInits = some ((runReactions {} twoMasterInits).getD {}) ∧
      startsAlone false ((runReactions {} twoMasterInits).getD {}).trace = true :=
  have hrun : runReactions {} twoMasterInits = some ((runReactions {} twoMasterInits).getD {}) :=
    rfl
  ⟨hrun, singleStart_reactions _ hrun⟩

/-- Masters `0` and `1` on two resources both find the bus not alive before either starts it:
both start and configure it. -/
theorem two_masters_start_bus :
    (run {} [.initCheck 0, .initCheck 1, .initStart 0, .initStart 1]).map (·.trace) =
      some [.start 0, .configure 0, .start 1, .configure 1] ∧
    startsAlone false [.start 0, .configure 0, .start 1, .configure 1] = false := by
  decide

/-! ### Who ends the bus, and how often -/

/-- The masters that ended the bus since its last `start`, after the observations, from `enders`
before them; `none` while the bus has never been started. -/
def endersAfter : Option (List ℕ) → List BusObs → Option (List ℕ)
  | enders, [] => enders
  | _, .start _ :: rest => endersAfter (some []) rest
  | enders, .end_ m :: rest => endersAfter (enders.map (m :: ·)) rest
  | enders, _ :: rest => endersAfter enders rest

/-- Whether no `end` in the observations comes before the bus was first started, and no master
ends it twice between two `start`s, from `enders` before them. -/
def endsOncePerStart : Option (List ℕ) → List BusObs → Bool
  | _, [] => true
  | _, .start _ :: rest => endsOncePerStart (some []) rest
  | none, .end_ _ :: _ => false
  | some enders, .end_ m :: rest =>
    decide (m ∉ enders) && endsOncePerStart (some (m :: enders)) rest
  | enders, _ :: rest => endsOncePerStart enders rest

theorem endersAfter_append (enders : Option (List ℕ)) (obs extra : List BusObs) :
    endersAfter enders (obs ++ extra) = endersAfter (endersAfter enders obs) extra := by
  induction obs generalizing enders with
  | nil => rfl
  | cons o rest ih => cases o <;> exact ih _

theorem endsOncePerStart_append (enders : Option (List ℕ)) (obs extra : List BusObs) :
    endsOncePerStart enders (obs ++ extra) =
      (endsOncePerStart enders obs && endsOncePerStart (endersAfter enders obs) extra) := by
  induction obs generalizing enders with
  | nil => simp [endsOncePerStart, endersAfter]
  | cons o rest ih =>
    cases o with
    | end_ m =>
      cases enders <;> simp [endsOncePerStart, endersAfter, ih, Bool.and_assoc]
    | _ => simp [endsOncePerStart, endersAfter, ih]

/-- The bus is alive exactly when it was started after its last `end`; so far no `end` came
before the first start and no master ended it twice between two starts; a live bus has had no
`end` since its start; and a master past its test, before its `bus->end()`, has not ended the bus
since its last start. -/
def EndsOnce (s : EmBrickSystem) : Prop :=
  s.busAlive = startedAfter false s.trace ∧ endsOncePerStart none s.trace = true ∧
    (s.busAlive = true → endersAfter none s.trace = some []) ∧
    ∀ m, (s.masters m).pc = .stopping ∨ (s.masters m).pc = .destroying →
      ∃ enders, endersAfter none s.trace = some enders ∧ m ∉ enders

/-- A step that records only `INITO` answers, leaves the bus as it is, and leaves every master
other than `m` where it stood keeps the invariant, as long as `m` ends up in no end window. -/
theorem endsOnce_of_answer {s s' : EmBrickSystem} {m : ℕ} (hs : EndsOnce s)
    (halive : s'.busAlive = s.busAlive) (htrace : ∃ QO, s'.trace = s.trace ++ [.initO m QO] ∨
      s'.trace = s.trace)
    (hother : ∀ m', m' ≠ m → (s'.masters m').pc = (s.masters m').pc)
    (hm : (s'.masters m).pc = .idle ∨ (s'.masters m).pc = .passedCheck) : EndsOnce s' := by
  obtain ⟨hlive, honce, hfresh, hwindow⟩ := hs
  obtain ⟨QO, htrace | htrace⟩ := htrace <;>
  · refine ⟨?_, ?_, ?_, fun m' hm' ↦ ?_⟩
    · simp [halive, htrace, hlive, startedAfter_append, startedAfter]
    · simp [htrace, honce, endsOncePerStart_append, endsOncePerStart]
    · simpa [halive, htrace, endersAfter_append, endersAfter] using hfresh
    · by_cases hmm : m' = m
      · subst hmm; rcases hm with h | h <;> simp [h] at hm'
      · simpa [htrace, endersAfter_append, endersAfter] using hwindow m' (hother m' hmm ▸ hm')

/-- `bus->end()` by a master past its test keeps the invariant: it has not ended the bus since its
last start, and it leaves its end window. -/
theorem endsOnce_endBus {s : EmBrickSystem} {m : ℕ} (hs : EndsOnce s)
    (hpc : (s.masters m).pc = .stopping ∨ (s.masters m).pc = .destroying) (ms : MasterState)
    (hms : ms.pc = .idle) : EndsOnce ((s.endBus m).setMaster m ms) := by
  obtain ⟨hlive, honce, hfresh, hwindow⟩ := hs
  obtain ⟨enders, henders, hm⟩ := hwindow m hpc
  refine ⟨?_, ?_, by simp [endBus], fun m' hm' ↦ ?_⟩
  · simp [endBus, startedAfter_append, startedAfter]
  · simp [endBus, honce, endsOncePerStart_append, henders, endsOncePerStart, hm]
  · by_cases hmm : m' = m
    · subst hmm; simp [hms] at hm'
    · obtain ⟨enders', henders', hm''⟩ := hwindow m' (by simpa [endBus, hmm] using hm')
      rw [henders] at henders'
      cases henders'
      exact ⟨m :: enders, by simp [endBus, endersAfter_append, endersAfter, henders],
        by simp [hmm, hm'']⟩

/-- On a live bus, a master entering its end window keeps the invariant: there has been no `end`
since the last start. -/
theorem endsOnce_setPc {s : EmBrickSystem} (hs : EndsOnce s) (hb : s.busAlive = true) (m : ℕ)
    (pc : MasterPc) : EndsOnce (s.setPc m pc) := by
  obtain ⟨hlive, honce, hfresh, hwindow⟩ := hs
  refine ⟨by simpa [setPc] using hlive, by simpa [setPc] using honce,
    fun _ ↦ by simpa [setPc] using hfresh hb, fun m' hm' ↦ ?_⟩
  by_cases hmm : m' = m
  · exact ⟨[], by simpa [setPc] using hfresh hb, by simp⟩
  · simpa [setPc, hmm] using hwindow m' (by simpa [setPc, hmm] using hm')

theorem endsOnce_step {s s' : EmBrickSystem} {a : MasterStep} (hs : EndsOnce s)
    (h : step s a = some s') : EndsOnce s' := by
  obtain ⟨m, hcase⟩ := step_cases h
  rcases hcase with ⟨-, hidle, rfl⟩ | ⟨-, -, rfl⟩ | ⟨-, -, rfl⟩ | ⟨-, hpc, rfl⟩ |
    ⟨busQO, -, hidle, rfl⟩ | ⟨-, -, rfl⟩ | ⟨-, hpc, rfl⟩
  · -- the check of `INIT` with `QI`: a refusal at most
    refine @endsOnce_of_answer _ _ m hs ?_ ⟨false, ?_⟩ (fun m' hm ↦ ?_) ?_ <;>
      cases hb : s.busAlive <;> simp [initCheck, hb, *]
  · -- `bus->start()`: a new start, with no `end` since
    obtain ⟨-, honce, -, -⟩ := hs
    refine ⟨by simp [initStart, startedAfter_append, startedAfter], ?_,
      fun _ ↦ by simp [initStart, endersAfter_append, endersAfter], fun m' _ ↦
        ⟨[], by simp [initStart, endersAfter_append, endersAfter], by simp⟩⟩
    simp [initStart, honce, endsOncePerStart_append, endsOncePerStart]
  · -- the test of `INIT` without `QI`: on a live bus the master enters its end window
    cases hb : s.busAlive
    · refine @endsOnce_of_answer _ _ m hs ?_ ⟨true, ?_⟩ (fun m' hm ↦ ?_) ?_ <;>
        simp [initStopTest, answerStop, hb, *]
    · simpa [initStopTest, hb] using endsOnce_setPc hs hb m .stopping
  · -- `bus->end()` of `INIT` without `QI`, then the answer
    have hend := endsOnce_endBus hs (.inl hpc) { (s.masters m) with QO := true, pc := .idle } rfl
    exact @endsOnce_of_answer _ _ m hend (by simp [initStopEnd, answerStop, endBus])
      ⟨true, .inl (by simp [initStopEnd, answerStop, endBus])⟩
      (fun m' hm ↦ by simp [initStopEnd, answerStop, endBus, hm])
      (by simp [initStopEnd, answerStop])
  · -- the adapter's `INITO`
    exact @endsOnce_of_answer _ _ m hs rfl ⟨busQO, .inl rfl⟩
      (fun m' hm ↦ by simp [adapterINITO, hm]) (by simp [adapterINITO, hidle])
  · -- the test of `~Master()`: on a live bus the master enters its end window
    cases hb : s.busAlive
    · refine @endsOnce_of_answer _ _ m hs ?_ ⟨true, .inr ?_⟩ (fun m' hm ↦ ?_) ?_ <;>
        simp [destroyTest, finishDestroy, hb, *]
    · simpa [destroyTest, hb] using endsOnce_setPc hs hb m .destroying
  · -- `bus->end()` of `~Master()`
    exact endsOnce_endBus hs (.inr hpc) _ rfl

theorem endsOnce_run (steps : List MasterStep) :
    ∀ {s₀ s : EmBrickSystem}, EndsOnce s₀ → run s₀ steps = some s → EndsOnce s := by
  induction steps with
  | nil => intro s₀ s h₀ hrun; cases hrun; exact h₀
  | cons a rest ih =>
    intro s₀ s h₀ hrun
    obtain ⟨s₁, ha, hrest⟩ := Option.bind_eq_some.mp hrun
    exact ih (endsOnce_step h₀ ha) hrest

/-- However the masters' steps interleave, each test `bus->isAlive()` apart from the `bus->end()`
it guards, the bus is alive exactly when it was started after its last `end`, no `end` comes
before the bus was first started, and no master ends it twice between two starts: an `end` that
reaches a stopped bus comes after another master's `end` since the last start. -/
theorem ends_once_per_start (steps : List MasterStep) {s : EmBrickSystem}
    (h : run {} steps = some s) :
    endsOncePerStart none s.trace = true ∧ s.busAlive = startedAfter false s.trace :=
  have hinv := @endsOnce_run steps {} s ⟨rfl, rfl, by simp, fun _ h ↦ by simp at h⟩ h
  ⟨hinv.2.1, hinv.1⟩

/-- Master `0` starts the bus and master `1` is refused; then master `0` gets `INIT` without `QI`
while master `1` is destroyed, and both tests find the bus alive before either ends it. -/
def stopWhileRefusedDestroyed : List MasterStep :=
  [.initCheck 0, .initStart 0, .initCheck 1, .initStopTest 0, .destroyTest 1, .initStopEnd 0,
    .destroyEnd 1]

/-- Both masters call `bus->end()`: the second `end`, by master `1`, reaches the bus master `0`
has just stopped. -/
theorem ends_once_per_start_race :
    run {} stopWhileRefusedDestroyed = some ((run {} stopWhileRefusedDestroyed).getD {}) ∧
      ((run {} stopWhileRefusedDestroyed).getD {}).trace =
        [.start 0, .configure 0, .initO 1 false, .end_ 0, .initO 0 true, .end_ 1] ∧
      endsOncePerStart none ((run {} stopWhileRefusedDestroyed).getD {}).trace = true ∧
      ((run {} stopWhileRefusedDestroyed).getD {}).busAlive =
        startedAfter false ((run {} stopWhileRefusedDestroyed).getD {}).trace :=
  have hrun : run {} stopWhileRefusedDestroyed =
      some ((run {} stopWhileRefusedDestroyed).getD {}) := rfl
  ⟨hrun, by decide, ends_once_per_start _ hrun⟩

end Forte.EmBrick
