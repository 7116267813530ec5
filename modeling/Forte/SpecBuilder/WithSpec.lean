import Forte.SpecBuilder.Reference

/-!
# The with-binding builder and its poison-on-first-error policy

`CWithSpecBuilder<DirTag>` records the with-bindings of one direction: which data ports an event
commits. Each of its calls first folds the validity of its operands into the flag `m_bIsGood`
through `check`, and only while the flag holds issues a base-level mutation of
`CWithSpecBuilderBase`. The bodies of those mutations, `CWithSpecBuilderBase::bind` and
`CWithSpecBuilderBase::bindRange`, are in `ifSpecBuilder.cpp`, outside `src/`; the model records
each one issued, in order, as a `BaseBinding`.

The list bind checks the event, then walks the list: the first invalid element breaks out of the
loop, and every valid one is bound through the single-port `bind`, its index converted back by
`CSpecReference(int)` (`ofInt_deref` makes that conversion the identity).

`poisonPolicy` states the policy of the specification in its own words, over a whole sequence of
calls: on a good builder a call with valid operands issues its own bindings, in list order, and a
call with an invalid operand issues the bindings of the list elements before the first invalid one
and poisons the builder; on a poisoned builder no call issues anything. `run_eq_poisonPolicy` shows
that every sequence of calls on the code does exactly that, and `withSpecBuilder_poison_law`
collects the policy's parts. `CIfSpecBuilder` dispatches a bind by the direction of its event to
one of its two with-builders, so however the calls of the two directions interleave, each
with-builder runs exactly the calls of its own direction (`CIfSpecBuilder.runIf_eq`), and ends as
the policy gives for those calls alone: an error in one direction never poisons the other
(`CIfSpecBuilder.runIf_poisonPolicy`).
-/

set_option autoImplicit false
set_option relaxedAutoImplicit false

namespace Forte.SpecBuilder

/-- A base-level mutation of `CWithSpecBuilderBase` on raw `TDataIOID`s, as issued. -/
inductive BaseBinding (w : ℕ)
  | bind (pa_unEventId pa_unDataId : BitVec w)
  | bindRange (pa_unEventId pa_unFirstDataId pa_unLastDataId : BitVec w)
  deriving DecidableEq, Repr

/-- `CWithSpecBuilder<DirTag>`: the flag `m_bIsGood` of `CWithSpecBuilderBase`, and the
base-level mutations issued so far. The direction only types the references it accepts. -/
@[ext]
structure CWithSpecBuilder (dir : SpecDir) (w : ℕ) where
  m_bIsGood : Bool := true
  issued : List (BaseBinding w) := []
  deriving DecidableEq, Repr

variable {dir : SpecDir} {w : ℕ}

namespace CWithSpecBuilder

open CSpecReference

/-- `isGood()`. -/
def isGood (b : CWithSpecBuilder dir w) : Bool :=
  b.m_bIsGood

/-- `check(pa_bState)`: folds the state into `m_bIsGood` and returns `isGood()`. -/
def check (b : CWithSpecBuilder dir w) (pa_bState : Bool) : CWithSpecBuilder dir w × Bool :=
  ({ b with m_bIsGood := b.m_bIsGood && pa_bState }, b.m_bIsGood && pa_bState)

/-- `CWithSpecBuilderBase::bind(pa_unEventId, pa_unDataId)`, issued. -/
def baseBind (b : CWithSpecBuilder dir w) (pa_unEventId pa_unDataId : BitVec w) :
    CWithSpecBuilder dir w :=
  { b with issued := b.issued ++ [.bind pa_unEventId pa_unDataId] }

/-- `CWithSpecBuilderBase::bindRange(pa_unEventId, pa_unFirstDataId, pa_unLastDataId)`,
issued. -/
def baseBindRange (b : CWithSpecBuilder dir w)
    (pa_unEventId pa_unFirstDataId pa_unLastDataId : BitVec w) : CWithSpecBuilder dir w :=
  { b with issued := b.issued ++ [.bindRange pa_unEventId pa_unFirstDataId pa_unLastDataId] }

/-- `bind(TCSpecEventReference, TCSpecDataReference)`. -/
def bind (b : CWithSpecBuilder dir w) (pa_oEventRef : CSpecReference .event dir w)
    (pa_oDataRef : CSpecReference .data dir w) : CWithSpecBuilder dir w :=
  let (b, ok) := b.check (pa_oEventRef.isValid && pa_oDataRef.isValid)
  if ok then b.baseBind pa_oEventRef.mRef pa_oDataRef.mRef else b

/-- The loop of the list bind: check each element, break at the first invalid one, and bind each
valid one through the single-port `bind`, its index passed back through `CSpecReference(int)`. -/
def bindEach (pa_oEventRef : CSpecReference .event dir w) :
    CWithSpecBuilder dir w → List (CSpecReference .data dir w) → CWithSpecBuilder dir w
  | b, [] => b
  | b, ref :: rest =>
    let (b, ok) := b.check ref.isValid
    if ok then bindEach pa_oEventRef (b.bind pa_oEventRef (ofInt ref.deref)) rest else b

/-- `bind(TCSpecEventReference, std::initializer_list<TCSpecDataReference>)`. -/
def bindList (b : CWithSpecBuilder dir w) (pa_oEventRef : CSpecReference .event dir w)
    (pa_aoDataRefs : List (CSpecReference .data dir w)) : CWithSpecBuilder dir w :=
  bindEach pa_oEventRef (b.check pa_oEventRef.isValid).1 pa_aoDataRefs

/-- `bindRange(TCSpecEventReference, TCSpecDataReference, TCSpecDataReference)`. -/
def bindRange (b : CWithSpecBuilder dir w) (pa_oEventRef : CSpecReference .event dir w)
    (pa_oFirstDataRef pa_oLastDataRef : CSpecReference .data dir w) : CWithSpecBuilder dir w :=
  let (b, ok) := b.check (pa_oEventRef.isValid && pa_oFirstDataRef.isValid &&
    pa_oLastDataRef.isValid)
  if ok then b.baseBindRange pa_oEventRef.mRef pa_oFirstDataRef.mRef pa_oLastDataRef.mRef else b

/-- `bindRange(TCSpecEventReference, TCSpecDataReferenceRange)`. -/
def bindRangeOf (b : CWithSpecBuilder dir w) (pa_oEventRef : CSpecReference .event dir w)
    (pa_oDataRefRange : CSpecReferenceRange .data dir w) : CWithSpecBuilder dir w :=
  let (b, ok) := b.check (pa_oEventRef.isValid && pa_oDataRefRange.isValid)
  if ok then
    b.baseBindRange pa_oEventRef.mRef pa_oDataRefRange.mFirst.mRef pa_oDataRefRange.mLast.mRef
  else b

/-! ### One call

A good builder is `⟨true, issued⟩` and a poisoned one `⟨false, issued⟩`; the lemmas below say what
each call does to either.
-/

theorem bind_poisoned (issued : List (BaseBinding w)) (ev : CSpecReference .event dir w)
    (d : CSpecReference .data dir w) : (⟨false, issued⟩ : CWithSpecBuilder dir w).bind ev d =
      ⟨false, issued⟩ := by
  simp [bind, check]

theorem bind_good (issued : List (BaseBinding w)) (ev : CSpecReference .event dir w)
    (d : CSpecReference .data dir w) : (⟨true, issued⟩ : CWithSpecBuilder dir w).bind ev d =
      if ev.isValid && d.isValid then ⟨true, issued ++ [.bind ev.mRef d.mRef]⟩
      else ⟨false, issued⟩ := by
  by_cases h : (ev.isValid && d.isValid) = true <;> simp [bind, check, baseBind, h]

theorem bindEach_poisoned (issued : List (BaseBinding w)) (ev : CSpecReference .event dir w)
    (refs : List (CSpecReference .data dir w)) : bindEach ev ⟨false, issued⟩ refs =
      ⟨false, issued⟩ := by
  cases refs <;> simp [bindEach, check]

/-- Assumes: a valid event. On a good builder the list loop binds the elements before the first
invalid one, in list order, and leaves the builder good exactly when there is no invalid one. -/
theorem bindEach_good {ev : CSpecReference .event dir w} (hev : ev.isValid = true)
    (refs : List (CSpecReference .data dir w)) (issued : List (BaseBinding w)) :
    bindEach ev ⟨true, issued⟩ refs = ⟨refs.all (·.isValid),
      issued ++ (refs.takeWhile (·.isValid)).map fun d ↦ .bind ev.mRef d.mRef⟩ := by
  induction refs generalizing issued with
  | nil => simp [bindEach]
  | cons ref rest ih =>
    by_cases href : ref.isValid = true
    · simp [bindEach, check, bind_good, ofInt_deref, href, hev, ih]
    · simp [bindEach, check, href]

/-! ### The list bind and the single binds -/

theorem foldl_bind_poisoned (issued : List (BaseBinding w)) (ev : CSpecReference .event dir w)
    (refs : List (CSpecReference .data dir w)) :
    refs.foldl (fun b d ↦ b.bind ev d) (⟨false, issued⟩ : CWithSpecBuilder dir w) =
      ⟨false, issued⟩ := by
  induction refs with
  | nil => rfl
  | cons d rest ih => simpa [bind_poisoned] using ih

theorem foldl_bind_good {ev : CSpecReference .event dir w} (hev : ev.isValid = true)
    (refs : List (CSpecReference .data dir w)) (issued : List (BaseBinding w)) :
    refs.foldl (fun b d ↦ b.bind ev d) (⟨true, issued⟩ : CWithSpecBuilder dir w) =
      ⟨refs.all (·.isValid),
        issued ++ (refs.takeWhile (·.isValid)).map fun d ↦ .bind ev.mRef d.mRef⟩ := by
  induction refs generalizing issued with
  | nil => simp
  | cons d rest ih =>
    by_cases hd : d.isValid = true
    · simp [bind_good, hev, hd, ih]
    · simp [bind_good, hd, foldl_bind_poisoned]

/-- On any builder, the list bind of a non-empty list does what the single binds of its elements,
one after another, do: the same bindings, and the same poisoning. On an empty list it still checks
the event, which no single bind does. -/
theorem bindList_eq_foldl_bind (b : CWithSpecBuilder dir w) (ev : CSpecReference .event dir w)
    (refs : List (CSpecReference .data dir w)) :
    b.bindList ev refs =
      if refs = [] then (b.check ev.isValid).1 else refs.foldl (fun b d ↦ b.bind ev d) b := by
  obtain ⟨good, issued⟩ := b
  cases refs with
  | nil => simp [bindList, bindEach]
  | cons d rest =>
    cases good
    · simp [bindList, check, bindEach_poisoned, bind_poisoned, foldl_bind_poisoned]
    · by_cases hev : ev.isValid = true
      · simpa [bindList, check, hev, bindEach_good hev] using
          (foldl_bind_good hev (d :: rest) issued).symm
      · simp [bindList, check, hev, bindEach_poisoned, bind_good, foldl_bind_poisoned]

end CWithSpecBuilder

/-! ### Sequences of calls -/

open CWithSpecBuilder

/-- A call on a `CWithSpecBuilder<DirTag>`: one of its four public members. -/
inductive WithCall (dir : SpecDir) (w : ℕ)
  | bind (ev : CSpecReference .event dir w) (d : CSpecReference .data dir w)
  | bindList (ev : CSpecReference .event dir w) (refs : List (CSpecReference .data dir w))
  | bindRange (ev : CSpecReference .event dir w) (first last : CSpecReference .data dir w)
  | bindRangeOf (ev : CSpecReference .event dir w) (range : CSpecReferenceRange .data dir w)

namespace WithCall

/-- The call, made on a builder. -/
def apply (b : CWithSpecBuilder dir w) : WithCall dir w → CWithSpecBuilder dir w
  | .bind ev d => b.bind ev d
  | .bindList ev refs => b.bindList ev refs
  | .bindRange ev first last => b.bindRange ev first last
  | .bindRangeOf ev range => b.bindRangeOf ev range

/-- Every operand of the call is valid: the event, the data reference, each list element, and
both ends of a range. -/
def operandsValid : WithCall dir w → Bool
  | .bind ev d => ev.isValid && d.isValid
  | .bindList ev refs => ev.isValid && refs.all (·.isValid)
  | .bindRange ev first last => ev.isValid && first.isValid && last.isValid
  | .bindRangeOf ev range => ev.isValid && range.isValid

/-- The call's own base-level bindings, in list order. -/
def ownBindings : WithCall dir w → List (BaseBinding w)
  | .bind ev d => [.bind ev.mRef d.mRef]
  | .bindList ev refs => refs.map fun d ↦ .bind ev.mRef d.mRef
  | .bindRange ev first last => [.bindRange ev.mRef first.mRef last.mRef]
  | .bindRangeOf ev range => [.bindRange ev.mRef range.mFirst.mRef range.mLast.mRef]

/-- What a call with an invalid operand binds before it poisons the builder: for a list bind with
a valid event, the elements before the first invalid one; for any other call, nothing. -/
def bindingsBeforeInvalid : WithCall dir w → List (BaseBinding w)
  | .bindList ev refs =>
    if ev.isValid then (refs.takeWhile (·.isValid)).map fun d ↦ .bind ev.mRef d.mRef else []
  | _ => []

theorem apply_poisoned (issued : List (BaseBinding w)) (c : WithCall dir w) :
    c.apply ⟨false, issued⟩ = ⟨false, issued⟩ := by
  cases c <;> simp [apply, bind_poisoned, CWithSpecBuilder.bindList, CWithSpecBuilder.bindRange,
    CWithSpecBuilder.bindRangeOf, check, bindEach_poisoned]

/-- On a good builder a call keeps it good exactly when its operands are valid, and issues its
own bindings then, or else those before the first invalid operand. -/
theorem apply_good (issued : List (BaseBinding w)) (c : WithCall dir w) :
    c.apply ⟨true, issued⟩ = ⟨c.operandsValid,
      issued ++ if c.operandsValid then c.ownBindings else c.bindingsBeforeInvalid⟩ := by
  cases c with
  | bind ev d =>
    cases hev : ev.isValid <;> cases hd : d.isValid <;>
      simp [apply, bind_good, operandsValid, ownBindings, bindingsBeforeInvalid, hev, hd]
  | bindList ev refs =>
    cases hev : ev.isValid
    · simp [apply, CWithSpecBuilder.bindList, check, hev, bindEach_poisoned, operandsValid,
        bindingsBeforeInvalid]
    · cases hall : refs.all (·.isValid)
      · simp [apply, CWithSpecBuilder.bindList, check, bindEach_good hev, hev, hall,
          operandsValid, bindingsBeforeInvalid]
      · have htake : refs.takeWhile (·.isValid) = refs :=
          List.takeWhile_eq_self_iff.mpr (by simpa using hall)
        simp [apply, CWithSpecBuilder.bindList, check, bindEach_good hev, hev, hall, htake,
          operandsValid, ownBindings]
  | bindRange ev first last =>
    cases hev : ev.isValid <;> cases hf : first.isValid <;> cases hl : last.isValid <;>
      simp [apply, CWithSpecBuilder.bindRange, check, baseBindRange, operandsValid, ownBindings,
        bindingsBeforeInvalid, hev, hf, hl]
  | bindRangeOf ev range =>
    cases hev : ev.isValid <;> cases hr : range.isValid <;>
      simp [apply, CWithSpecBuilder.bindRangeOf, check, baseBindRange, operandsValid,
        ownBindings, bindingsBeforeInvalid, hev, hr]

end WithCall

/-- The calls, made in order. -/
def run (b : CWithSpecBuilder dir w) (calls : List (WithCall dir w)) : CWithSpecBuilder dir w :=
  calls.foldl WithCall.apply b

/-- The poison-on-first-error policy in the words of the specification: the flag after a sequence
of calls, and the base-level bindings it issues. On a good builder a call with valid operands
issues its own bindings and the builder stays good; a call with an invalid operand issues the
bindings before the first invalid list element and poisons the builder; a poisoned builder issues
nothing. -/
def poisonPolicy : Bool → List (WithCall dir w) → Bool × List (BaseBinding w)
  | good, [] => (good, [])
  | false, _ :: _ => (false, [])
  | true, c :: rest =>
    if c.operandsValid then
      ((poisonPolicy true rest).1, c.ownBindings ++ (poisonPolicy true rest).2)
    else (false, c.bindingsBeforeInvalid)

theorem run_poisoned (issued : List (BaseBinding w)) (calls : List (WithCall dir w)) :
    run ⟨false, issued⟩ calls = ⟨false, issued⟩ := by
  induction calls with
  | nil => rfl
  | cons c rest ih => simpa [run, WithCall.apply_poisoned] using ih

theorem run_good (calls : List (WithCall dir w)) (issued : List (BaseBinding w)) :
    run ⟨true, issued⟩ calls =
      ⟨(poisonPolicy true calls).1, issued ++ (poisonPolicy true calls).2⟩ := by
  induction calls generalizing issued with
  | nil => simp [run, poisonPolicy]
  | cons c rest ih =>
    have hstep : run ⟨true, issued⟩ (c :: rest) = run (c.apply ⟨true, issued⟩) rest := rfl
    rw [hstep, WithCall.apply_good]
    by_cases h : c.operandsValid = true
    · simp [h, ih, poisonPolicy]
    · simp [h, run_poisoned, poisonPolicy]

/-- Every sequence of calls on the code follows the poison-on-first-error policy. -/
theorem run_eq_poisonPolicy (b : CWithSpecBuilder dir w) (calls : List (WithCall dir w)) :
    run b calls =
      ⟨(poisonPolicy b.isGood calls).1, b.issued ++ (poisonPolicy b.isGood calls).2⟩ := by
  obtain ⟨_ | _, issued⟩ := b
  · cases calls <;> simp [run_poisoned, isGood, poisonPolicy]
  · exact run_good calls issued

/-- Assumes: a good builder, a valid event, valid elements before `bad`, and `bad` invalid. The
list bind issues the bindings of the elements before `bad`, in order, and poisons the builder. -/
theorem bindList_first_invalid {b : CWithSpecBuilder dir w} (hb : b.isGood = true)
    {ev : CSpecReference .event dir w} (hev : ev.isValid = true)
    {before after : List (CSpecReference .data dir w)} {bad : CSpecReference .data dir w}
    (hbefore : ∀ d ∈ before, d.isValid = true) (hbad : bad.isValid = false) :
    b.bindList ev (before ++ bad :: after) =
      ⟨false, b.issued ++ before.map fun d ↦ .bind ev.mRef d.mRef⟩ := by
  obtain ⟨_ | _, issued⟩ := b
  · simp [isGood] at hb
  · simp [bindList, check, hev, bindEach_good hev, List.takeWhile_append_of_pos hbefore, hbad,
      List.all_eq_true.mpr hbefore]


/-- A call with an invalid operand leaves the builder poisoned, whatever its state before. -/
theorem isGood_apply_of_invalid (b : CWithSpecBuilder dir w) {c : WithCall dir w}
    (hc : c.operandsValid = false) : (c.apply b).isGood = false := by
  obtain ⟨_ | _, issued⟩ := b
  · simp [WithCall.apply_poisoned, isGood]
  · simp [WithCall.apply_good, hc, isGood]

/-- The poison-on-first-error law of a with-builder, over every sequence of calls from every
builder. A poisoned builder stays poisoned and issues nothing; a call with an invalid operand
poisons it; the bindings issued are those `poisonPolicy` names, each call's own in call and list
order while the builder is good; and a list bind whose first invalid element is `bad` issues the
bindings of the elements before it, keeps them, and poisons the builder. -/
theorem withSpecBuilder_poison_law (b : CWithSpecBuilder dir w)
    (calls : List (WithCall dir w)) :
    (b.isGood = false → run b calls = b) ∧
    (∀ c : WithCall dir w, c.operandsValid = false → (c.apply b).isGood = false) ∧
    run b calls =
      ⟨(poisonPolicy b.isGood calls).1, b.issued ++ (poisonPolicy b.isGood calls).2⟩ ∧
    (∀ (ev : CSpecReference .event dir w) (before after : List (CSpecReference .data dir w))
      (bad : CSpecReference .data dir w), b.isGood = true → ev.isValid = true →
      (∀ d ∈ before, d.isValid = true) → bad.isValid = false →
      b.bindList ev (before ++ bad :: after) =
        ⟨false, b.issued ++ before.map fun d ↦ .bind ev.mRef d.mRef⟩) := by
  refine ⟨fun hb ↦ ?_, fun _ hc ↦ isGood_apply_of_invalid b hc, run_eq_poisonPolicy b calls,
    fun _ _ _ _ hb hev hbefore hbad ↦ bindList_first_invalid hb hev hbefore hbad⟩
  obtain ⟨_ | _, issued⟩ := b
  · exact run_poisoned issued calls
  · simp [isGood] at hb

/-! ### The interface builder -/

/-- The two with-builders of `CIfSpecBuilder`, `m_oIWith` and `m_oOWith`. Its event, data and
adapter builders take no part in its binds. -/
structure CIfSpecBuilder (w : ℕ) where
  m_oIWith : CWithSpecBuilder .input w := {}
  m_oOWith : CWithSpecBuilder .output w := {}

namespace CIfSpecBuilder

/-- `getWithFromDir(pa_oEventRef)` followed by the call: a bind of `CIfSpecBuilder` goes to the
with-builder of its event's direction. -/
def bindWith : (dir : SpecDir) → CIfSpecBuilder w → WithCall dir w → CIfSpecBuilder w
  | .input, b, c => { b with m_oIWith := c.apply b.m_oIWith }
  | .output, b, c => { b with m_oOWith := c.apply b.m_oOWith }

/-- `bind(CSpecReference<CEventSpecTag, DirTag>, CSpecReference<CDataSpecTag, DirTag>)`. -/
def bind (b : CIfSpecBuilder w) (pa_oEventRef : CSpecReference .event dir w)
    (pa_oDataRef : CSpecReference .data dir w) : CIfSpecBuilder w :=
  bindWith dir b (.bind pa_oEventRef pa_oDataRef)

/-- `bind(CSpecReference<CEventSpecTag, DirTag>, std::initializer_list<...>)`. -/
def bindList (b : CIfSpecBuilder w) (pa_oEventRef : CSpecReference .event dir w)
    (pa_loDataRef : List (CSpecReference .data dir w)) : CIfSpecBuilder w :=
  bindWith dir b (.bindList pa_oEventRef pa_loDataRef)

/-- `bindRange(CSpecReference<CEventSpecTag, DirTag>, first, last)`. -/
def bindRange (b : CIfSpecBuilder w) (pa_oEventRef : CSpecReference .event dir w)
    (pa_oFirstDataRef pa_oLastDataRef : CSpecReference .data dir w) : CIfSpecBuilder w :=
  bindWith dir b (.bindRange pa_oEventRef pa_oFirstDataRef pa_oLastDataRef)

/-- `bindRange(CSpecReference<CEventSpecTag, DirTag>, CSpecReferenceRange<...>)`. -/
def bindRangeOf (b : CIfSpecBuilder w) (pa_oEventRef : CSpecReference .event dir w)
    (pa_oDataRefRange : CSpecReferenceRange .data dir w) : CIfSpecBuilder w :=
  bindWith dir b (.bindRangeOf pa_oEventRef pa_oDataRefRange)

/-- A bind call of either direction on `CIfSpecBuilder`. -/
inductive IfCall (w : ℕ)
  | input (c : WithCall .input w)
  | output (c : WithCall .output w)

/-- The calls made in order. -/
def runIf (b : CIfSpecBuilder w) : List (IfCall w) → CIfSpecBuilder w
  | [] => b
  | .input c :: rest => runIf (bindWith .input b c) rest
  | .output c :: rest => runIf (bindWith .output b c) rest

/-- The input calls of a sequence, in order. -/
def inputCalls : List (IfCall w) → List (WithCall .input w)
  | [] => []
  | .input c :: rest => c :: inputCalls rest
  | .output _ :: rest => inputCalls rest

/-- The output calls of a sequence, in order. -/
def outputCalls : List (IfCall w) → List (WithCall .output w)
  | [] => []
  | .input _ :: rest => outputCalls rest
  | .output c :: rest => c :: outputCalls rest

/-- However the calls of the two directions interleave, each with-builder sees exactly the calls
of its own direction, in their order, so the poison law holds for each direction on its own. -/
theorem runIf_eq (b : CIfSpecBuilder w) (calls : List (IfCall w)) :
    runIf b calls = ⟨run b.m_oIWith (inputCalls calls), run b.m_oOWith (outputCalls calls)⟩ := by
  induction calls generalizing b with
  | nil => rfl
  | cons c rest ih =>
    cases c <;> simp [runIf, ih, bindWith, inputCalls, outputCalls, run]

/-- However the calls of the two directions interleave, each with-builder of `CIfSpecBuilder` ends
with the flag and the base-level bindings that the poison-on-first-error policy gives for the
calls of its own direction alone: an invalid operand poisons the with-builder of its event's
direction and never the other one, which goes on issuing its own bindings. -/
theorem runIf_poisonPolicy (b : CIfSpecBuilder w) (calls : List (IfCall w)) :
    runIf b calls =
      ⟨⟨(poisonPolicy b.m_oIWith.isGood (inputCalls calls)).1,
          b.m_oIWith.issued ++ (poisonPolicy b.m_oIWith.isGood (inputCalls calls)).2⟩,
        ⟨(poisonPolicy b.m_oOWith.isGood (outputCalls calls)).1,
          b.m_oOWith.issued ++ (poisonPolicy b.m_oOWith.isGood (outputCalls calls)).2⟩⟩ := by
  rw [runIf_eq, run_eq_poisonPolicy, run_eq_poisonPolicy]

end CIfSpecBuilder

end Forte.SpecBuilder
