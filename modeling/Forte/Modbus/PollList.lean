import Forte.Modbus.Client
import Mathlib.Data.List.Nodup

/-!
# Grouping polls by update interval

`addNewPoll(pa_nPollInterval, pa_pIOBlock)` searches `m_lstPollList` for the first poll whose
`getUpdateInterval()` equals the requested `long` interval, gives it the block, and appends a new
poll with the block when there is none. A poll keeps its interval as a `TForteUInt32`, and `long`
is 64 bits wide (LP64), so the test converts the stored interval to `long` and compares values,
while a new poll keeps the request modulo `2^32`.

`addNewPoll_cases` is what one call does: the block goes to exactly one poll, the first one whose
interval equals the request, or to a new poll at the end. A request whose interval is a
`TForteUInt32` value keeps the intervals of the polls pairwise distinct
(`pollIntervalsUnique_addNewPoll`), and the run loop changes no interval or block
(`pollBlocks_frame`). With both, each poll holds exactly the blocks requested at its interval
(`blocksByInterval_addNewPoll`). A request outside that range is stored as a value it is never
compared equal to, so it creates a poll with the interval of an existing one
(`addNewPoll_duplicate_interval`).
-/

set_option autoImplicit false
set_option relaxedAutoImplicit false

namespace Forte.Modbus

namespace CModbusClientConnection

/-- The update intervals of the polls, in list order. -/
def pollIntervals (c : CModbusClientConnection) : List ℕ :=
  c.m_lstPollList.map (·.m_nUpdateInterval)

/-- The polls' intervals with their blocks, in list order: what the run loop leaves alone when it
switches polls on and off. -/
def pollBlocks (c : CModbusClientConnection) : List (ℕ × List ℕ) :=
  c.m_lstPollList.map fun p ↦ (p.m_nUpdateInterval, p.blocks)

/-- `addNewPoll` called for each request `(pa_nPollInterval, pa_pIOBlock)` in order. -/
def addNewPolls (c : CModbusClientConnection) (requests : List (ℤ × ℕ)) :
    CModbusClientConnection :=
  requests.foldl (fun c r ↦ c.addNewPoll r.1 r.2) c

end CModbusClientConnection

open CModbusClientConnection

/-- No two polls share an update interval. -/
def PollIntervalsUnique (c : CModbusClientConnection) : Prop :=
  c.pollIntervals.Nodup

instance (c : CModbusClientConnection) : Decidable (PollIntervalsUnique c) :=
  inferInstanceAs (Decidable c.pollIntervals.Nodup)

/-- A search with `findIdx?` either finds its first match, at `before ++ a :: after`, and
`modify` rewrites just that element, or finds nothing. -/
theorem findIdx?_modify_cases {α : Type} (P : α → Bool) (f : α → α) (l : List α) :
    (∃ before a after, l = before ++ a :: after ∧ (∀ x ∈ before, P x = false) ∧
      P a = true ∧ ∃ i, l.findIdx? P = some i ∧ l.modify f i = before ++ f a :: after) ∨
    l.findIdx? P = none := by
  induction l with
  | nil => exact .inr rfl
  | cons x xs ih =>
    cases hx : P x
    · rcases ih with ⟨before, a, after, rfl, hb, ha, i, hi, hm⟩ | hnone
      · refine .inl ⟨x :: before, a, after, rfl, ?_, ha, i + 1, by simp [hx, hi], by simp [hm]⟩
        simpa [hx] using hb
      · exact .inr (by simp [hx, hnone])
    · exact .inl ⟨[], x, xs, rfl, by simp, hx, 0, by simp [hx], rfl⟩

/-- What one call does: the block goes to the first poll whose interval equals the request, and
nothing else changes; or, when no poll's interval equals it, to a new poll appended with the
request narrowed to a `TForteUInt32`. -/
theorem addNewPoll_cases (c : CModbusClientConnection) (n : ℤ) (b : ℕ) :
    (∃ before p after, c.m_lstPollList = before ++ p :: after ∧
      (∀ q ∈ before, (q.m_nUpdateInterval : ℤ) ≠ n) ∧ (p.m_nUpdateInterval : ℤ) = n ∧
      (c.addNewPoll n b).m_lstPollList =
        before ++ { p with blocks := p.blocks ++ [b] } :: after) ∨
    ((∀ q ∈ c.m_lstPollList, (q.m_nUpdateInterval : ℤ) ≠ n) ∧
      (c.addNewPoll n b).m_lstPollList =
        c.m_lstPollList ++ [{ CModbusPoll.new n with blocks := [b] }]) := by
  rcases findIdx?_modify_cases (fun p : CModbusPoll ↦ decide ((p.m_nUpdateInterval : ℤ) = n))
      (fun p ↦ { p with blocks := p.blocks ++ [b] }) c.m_lstPollList with
    ⟨before, p, after, hl, hb, hp, i, hi, hm⟩ | hnone
  · refine .inl ⟨before, p, after, hl, fun q hq ↦ by simpa using hb q hq, by simpa using hp,
      ?_⟩
    unfold addNewPoll
    rw [hi]
    exact hm
  · refine .inr ⟨fun q hq ↦ by simpa using List.findIdx?_eq_none_iff.mp hnone q hq, ?_⟩
    unfold addNewPoll
    rw [hnone]

/-- Assumes: an interval that is a `TForteUInt32` value. The narrowing keeps it. -/
theorem toForteUInt32_of_lt {n : ℤ} (h0 : 0 ≤ n) (hn : n < 4294967296) :
    (toForteUInt32 n : ℤ) = n := by
  rw [toForteUInt32, Int.emod_eq_of_lt h0 hn, Int.toNat_of_nonneg h0]

/-- Assumes: distinct intervals, and a request that is a `TForteUInt32` value. The call keeps
them distinct. -/
theorem pollIntervalsUnique_addNewPoll {c : CModbusClientConnection} (h : PollIntervalsUnique c)
    {n : ℤ} (h0 : 0 ≤ n) (hn : n < 4294967296) (b : ℕ) :
    PollIntervalsUnique (c.addNewPoll n b) := by
  unfold PollIntervalsUnique pollIntervals at *
  rcases addNewPoll_cases c n b with ⟨before, p, after, hl, -, -, hnew⟩ | ⟨hnone, hnew⟩
  · -- an existing poll gets the block: the intervals stay as they are
    rw [hl] at h
    simpa [hnew] using h
  · -- a new poll, with an interval no poll has
    have hfresh : ∀ q ∈ c.m_lstPollList, q.m_nUpdateInterval ≠ toForteUInt32 n := by
      intro q hq heq
      exact hnone q hq (by rw [heq, toForteUInt32_of_lt h0 hn])
    rw [hnew, List.map_append]
    refine h.append (List.nodup_singleton _) ?_
    simpa [CModbusPoll.new, List.disjoint_singleton] using hfresh

/-! ### The run loop and the other calls -/

/-- A round of `tryPolling` only deactivates polls: their intervals and blocks stay. -/
theorem pollEach_blocks (polls : List CModbusPoll) (results : List (Option ℤ)) :
    (pollEach polls results).polls.map (fun p ↦ (p.m_nUpdateInterval, p.blocks)) =
      polls.map fun p ↦ (p.m_nUpdateInterval, p.blocks) := by
  induction polls generalizing results with
  | nil => simp [pollEach]
  | cons poll polls ih =>
    cases results with
    | nil => rfl
    | cons result results =>
      cases result with
      | none => simp [pollEach, ih]
      | some nrVals => simp only [pollEach]; split_ifs <;> simp [ih]

/-- The polls change their intervals and blocks only through `addNewPoll`: a run-loop iteration,
`connect`, a write and `setSlaveId` keep them. -/
theorem pollBlocks_frame (c : CModbusClientConnection) :
    (∀ o, (c.runIteration o).pollBlocks = c.pollBlocks) ∧ c.connect.pollBlocks = c.pollBlocks ∧
      (∀ f, (c.writeDataRange f).pollBlocks = c.pollBlocks) ∧
      ∀ id, (c.setSlaveId id).pollBlocks = c.pollBlocks := by
  refine ⟨fun o ↦ ?_, ?_, fun f ↦ ?_, fun _ ↦ rfl⟩
  · unfold runIteration pollBlocks
    split_ifs
    · unfold tryPolling
      dsimp only
      split_ifs <;> exact pollEach_blocks _ _
    · unfold tryConnect
      split
      · rfl
      · split_ifs <;> simp
  · unfold connect pollBlocks
    split_ifs <;> rfl
  · unfold writeDataRange
    split_ifs
    · rfl
    · cases f <;> rfl

theorem pollIntervals_eq_map_pollBlocks (c : CModbusClientConnection) :
    c.pollIntervals = c.pollBlocks.map (·.1) := by
  simp [pollIntervals, pollBlocks]

/-- The poll intervals change only through `addNewPoll`: a run-loop iteration, `connect`, a write
and `setSlaveId` keep them. -/
theorem pollIntervals_frame (c : CModbusClientConnection) :
    (∀ o, (c.runIteration o).pollIntervals = c.pollIntervals) ∧ c.connect.pollIntervals =
      c.pollIntervals ∧ (∀ f, (c.writeDataRange f).pollIntervals = c.pollIntervals) ∧
    ∀ id, (c.setSlaveId id).pollIntervals = c.pollIntervals := by
  obtain ⟨hiter, hconnect, hwrite, hslave⟩ := pollBlocks_frame c
  simp only [pollIntervals_eq_map_pollBlocks, hiter, hconnect, hwrite, hslave, implies_true,
    and_self]

/-! ### Which poll holds which block -/

/-- The blocks requested at an interval, in request order. -/
def requestedBlocks (requests : List (ℤ × ℕ)) (interval : ℕ) : List ℕ :=
  (requests.filter fun r ↦ r.1 = (interval : ℤ)).map (·.2)

/-- No two polls share an interval, each poll holds exactly the blocks requested at its interval,
in request order, and every requested interval has its poll. -/
def BlocksByInterval (requests : List (ℤ × ℕ)) (c : CModbusClientConnection) : Prop :=
  PollIntervalsUnique c ∧ (∀ q ∈ c.pollBlocks, q.2 = requestedBlocks requests q.1) ∧
    ∀ r ∈ requests, ∃ i ∈ c.pollIntervals, (i : ℤ) = r.1

/-- The invariant reads only the polls' intervals and blocks. -/
theorem BlocksByInterval.of_pollBlocks_eq {requests : List (ℤ × ℕ)} {c c' : CModbusClientConnection}
    (h : BlocksByInterval requests c) (he : c'.pollBlocks = c.pollBlocks) :
    BlocksByInterval requests c' := by
  have hi : c'.pollIntervals = c.pollIntervals := by
    rw [pollIntervals_eq_map_pollBlocks, pollIntervals_eq_map_pollBlocks, he]
  obtain ⟨hnodup, hblocks, hcover⟩ := h
  exact ⟨by rwa [PollIntervalsUnique, hi], he ▸ hblocks, hi ▸ hcover⟩

@[simp]
theorem requestedBlocks_append (requests : List (ℤ × ℕ)) (n : ℤ) (b interval : ℕ) :
    requestedBlocks (requests ++ [(n, b)]) interval =
      requestedBlocks requests interval ++ if n = interval then [b] else [] := by
  by_cases h : n = interval <;> simp [requestedBlocks, List.filter_append, h]

/-- Assumes: a request that is a `TForteUInt32` value. The call keeps every interval, and a poll
then has the requested one. -/
theorem pollIntervals_addNewPoll (c : CModbusClientConnection) {n : ℤ} (h0 : 0 ≤ n)
    (hn : n < 4294967296) (b : ℕ) :
    (∀ i ∈ c.pollIntervals, i ∈ (c.addNewPoll n b).pollIntervals) ∧
      ∃ i ∈ (c.addNewPoll n b).pollIntervals, (i : ℤ) = n := by
  unfold pollIntervals
  rcases addNewPoll_cases c n b with ⟨before, p, after, hl, -, hp, hnew⟩ | ⟨-, hnew⟩
  · rw [hl, hnew]
    exact ⟨fun i hi ↦ by simpa using hi, p.m_nUpdateInterval, by simp, hp⟩
  · rw [hnew, List.map_append]
    exact ⟨fun i hi ↦ List.mem_append_left _ hi, toForteUInt32 n, by simp [CModbusPoll.new],
      toForteUInt32_of_lt h0 hn⟩

/-- Assumes: the invariant, and a request that is a `TForteUInt32` value. The call keeps it: the
block goes to the poll of its interval, which holds the blocks of the earlier requests there, or
to a new poll when no earlier request asked for that interval. -/
theorem blocksByInterval_addNewPoll {requests : List (ℤ × ℕ)} {c : CModbusClientConnection}
    (h : BlocksByInterval requests c) {n : ℤ} (h0 : 0 ≤ n) (hn : n < 4294967296) (b : ℕ) :
    BlocksByInterval (requests ++ [(n, b)]) (c.addNewPoll n b) := by
  obtain ⟨hnodup, hblocks, hcover⟩ := h
  simp only [pollBlocks, List.forall_mem_map] at hblocks
  -- a poll of another interval still holds what was requested at its interval
  have hkeep : ∀ q ∈ c.m_lstPollList, (q.m_nUpdateInterval : ℤ) ≠ n →
      q.blocks = requestedBlocks (requests ++ [(n, b)]) q.m_nUpdateInterval := fun q hq hne ↦ by
    rw [requestedBlocks_append, if_neg (Ne.symm hne), List.append_nil]
    exact hblocks q hq
  obtain ⟨hsub, hreq⟩ := pollIntervals_addNewPoll c h0 hn b
  refine ⟨pollIntervalsUnique_addNewPoll hnodup h0 hn b, ?_, fun r hr ↦ ?_⟩
  · simp only [pollBlocks, List.forall_mem_map]
    rcases addNewPoll_cases c n b with ⟨before, p, after, hl, -, hp, hnew⟩ | ⟨hnone, hnew⟩
    · -- the block joins the poll of its interval, the only poll with that interval
      have hother : ∀ q ∈ before ++ after, (q.m_nUpdateInterval : ℤ) ≠ n := by
        rw [PollIntervalsUnique, pollIntervals, hl, List.map_append, List.map_cons,
          List.nodup_middle, ← List.map_append, List.nodup_cons] at hnodup
        rintro q hq heq
        exact hnodup.1 (List.mem_map.mpr ⟨q, hq, by exact_mod_cast heq.trans hp.symm⟩)
      rw [hl] at hkeep hblocks
      simp only [hnew, List.mem_append, List.mem_cons, or_imp, forall_and, forall_eq] at hkeep ⊢
      refine ⟨fun q hq ↦ hkeep.1 q hq (hother q (List.mem_append_left _ hq)), ?_,
        fun q hq ↦ hkeep.2.2 q hq (hother q (List.mem_append_right _ hq))⟩
      simp [hp, hblocks p List.mem_append_cons_self]
    · -- a new poll: no earlier request asked for its interval
      have hn' : (toForteUInt32 n : ℤ) = n := toForteUInt32_of_lt h0 hn
      have hfresh : requestedBlocks requests (toForteUInt32 n) = [] := by
        simp only [requestedBlocks, List.map_eq_nil_iff, List.filter_eq_nil_iff, hn',
          decide_eq_true_eq]
        intro r hr heq
        obtain ⟨i, hi, hir⟩ := hcover r hr
        obtain ⟨q, hq, rfl⟩ := List.mem_map.mp hi
        exact hnone q hq (hir.trans heq)
      simp only [hnew, List.mem_append, List.mem_singleton, or_imp, forall_and, forall_eq]
      exact ⟨fun q hq ↦ hkeep q hq (hnone q hq), by simp [CModbusPoll.new, hn', hfresh]⟩
  · rcases List.mem_append.mp hr with hr | hr
    · obtain ⟨i, hi, hir⟩ := hcover r hr
      exact ⟨i, hsub i hi, hir⟩
    · rw [List.mem_singleton.mp hr]
      exact hreq

/-- A poll for `1000` ms, then a request for `2^32 + 1000` ms, a `long` value: the new poll stores
`1000`, the existing poll's interval, since the search compares the request unnarrowed. -/
theorem addNewPoll_duplicate_interval :
    (({} : CModbusClientConnection).addNewPolls [(1000, 0), (4294968296, 1)]).m_lstPollList =
      [{ m_nUpdateInterval := 1000, blocks := [0] },
        { m_nUpdateInterval := 1000, blocks := [1] }] ∧
    ¬PollIntervalsUnique
      (({} : CModbusClientConnection).addNewPolls [(1000, 0), (4294968296, 1)]) := by
  decide

end Forte.Modbus
