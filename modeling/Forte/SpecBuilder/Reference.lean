import Mathlib.Data.BitVec
import Mathlib.Tactic.Positivity
import Mathlib.Tactic.NormNum.Basic

/-!
# Port references of the interface specification builder

`ifSpecBuilder.h` hands out port indices as `CSpecReference`, a `TDataIOID` whose maximum value
`scmMaxRefValue` stands for the invalid reference, and port ranges as `CSpecReferenceRange`, a
pair of references. `TDataIOID` is declared outside `src/`. It is an unsigned integer type, taken
here as `BitVec w` for an arbitrary width `w`; forte's own with-tables, terminated by `255` as in
`Master.cpp`, have `w = 8`. A C++ `int` is an `ℤ`, without the signed overflow that C++ leaves
undefined.

`CSpecReference.ofInt` is the converting constructor `CSpecReference(int)`. A negative index gives
the invalid reference, and any other is narrowed by `static_cast<TDataIOID>`, reduced modulo
`2 ^ w` (`isValid_ofInt_iff`, `deref_ofInt`). Below `scmMaxRefValue` the conversion is faithful
(`deref_ofInt_of_lt`), and every reference converts back to itself (`ofInt_deref`), which the
list bind of `CWithSpecBuilder` relies on. At `2 ^ w` it aliases port `0` (`ofInt_two_pow`).

`CSpecReferenceRange.get` is `operator[]`. On a valid range the offset `k` gives a valid reference
exactly when `0 ≤ k ≤ *mLast - *mFirst`, and then the port `*mFirst + k` (`isValid_get_iff`,
`deref_get`). Validity of a range is the validity of its two ends and nothing more, so an inverted
pair is a valid range with no valid offset (`ofPair_inverted`).
-/

set_option autoImplicit false
set_option relaxedAutoImplicit false

namespace Forte.SpecBuilder

/-- The kind tag of a port reference: `CDataSpecTag` or `CEventSpecTag`. -/
inductive SpecKind
  | data
  | event
  deriving DecidableEq, Repr

/-- The direction tag of a port reference: `CInputSpecTag` or `COutputSpecTag`. -/
inductive SpecDir
  | input
  | output
  deriving DecidableEq, Repr

/-- `std::numeric_limits<TDataIOID>::max()`, the value of the invalid reference. -/
def scmMaxRefValue (w : ℕ) : BitVec w := BitVec.allOnes w

/-- `CSpecReference<TypeTag, DirTag>`. The default constructor leaves `mRef` at
`scmMaxRefValue`. -/
structure CSpecReference (kind : SpecKind) (dir : SpecDir) (w : ℕ) where
  mRef : BitVec w := scmMaxRefValue w
  deriving DecidableEq, Repr

/-- `CSpecReferenceRange<TypeTag, DirTag>`: the first and the last port of a range. -/
structure CSpecReferenceRange (kind : SpecKind) (dir : SpecDir) (w : ℕ) where
  mFirst : CSpecReference kind dir w := {}
  mLast : CSpecReference kind dir w := {}
  deriving DecidableEq, Repr

variable {kind : SpecKind} {dir : SpecDir} {w : ℕ}

namespace CSpecReference

/-- `CSpecReference(int paRef)`. -/
def ofInt (paRef : ℤ) : CSpecReference kind dir w :=
  if paRef < 0 then ⟨scmMaxRefValue w⟩ else ⟨BitVec.ofInt w paRef⟩

/-- `isValid()`. -/
def isValid (r : CSpecReference kind dir w) : Bool :=
  r.mRef != scmMaxRefValue w

/-- `operator*`, the port index as the number it is promoted to in `int` arithmetic. -/
def deref (r : CSpecReference kind dir w) : ℕ :=
  r.mRef.toNat

theorem deref_lt (r : CSpecReference kind dir w) : r.deref < 2 ^ w :=
  r.mRef.isLt

/-- A reference is valid exactly when its index is below `scmMaxRefValue`. -/
theorem isValid_iff (r : CSpecReference kind dir w) :
    r.isValid = true ↔ (r.deref : ℤ) < 2 ^ w - 1 := by
  have hlt := r.deref_lt
  have h2 : ((2 ^ w : ℕ) : ℤ) = 2 ^ w := by simp
  simp only [isValid, scmMaxRefValue, bne_iff_ne, ne_eq, BitVec.toNat_eq,
    BitVec.toNat_allOnes, deref] at hlt ⊢
  omega

theorem ofInt_of_neg {paRef : ℤ} (h : paRef < 0) :
    (ofInt paRef : CSpecReference kind dir w) = ⟨scmMaxRefValue w⟩ := by
  simp [ofInt, h]

theorem deref_ofInt {paRef : ℤ} (h : 0 ≤ paRef) :
    ((ofInt paRef : CSpecReference kind dir w).deref : ℤ) = paRef % 2 ^ w := by
  have hnn : 0 ≤ paRef % 2 ^ w := Int.emod_nonneg _ (by positivity)
  simp [ofInt, deref, not_lt.mpr h, BitVec.toNat_ofInt, Int.toNat_of_nonneg hnn]

/-- The converted reference is valid exactly when the index is non-negative and its residue
modulo `2 ^ w` is not `scmMaxRefValue`. -/
theorem isValid_ofInt_iff (paRef : ℤ) :
    (ofInt paRef : CSpecReference kind dir w).isValid = true ↔
      0 ≤ paRef ∧ paRef % 2 ^ w < 2 ^ w - 1 := by
  rcases lt_or_le paRef 0 with h | h
  · have hmax : (⟨scmMaxRefValue w⟩ : CSpecReference kind dir w).isValid = false := by
      simp [isValid]
    simp [ofInt_of_neg h, hmax, not_le.mpr h]
  · rw [isValid_iff, deref_ofInt h]
    simp [h]

/-- Below `scmMaxRefValue` an index converts faithfully. -/
theorem deref_ofInt_of_lt {paRef : ℤ} (h : 0 ≤ paRef) (hlt : paRef < 2 ^ w - 1) :
    (ofInt paRef : CSpecReference kind dir w).isValid = true ∧
      ((ofInt paRef : CSpecReference kind dir w).deref : ℤ) = paRef := by
  have hmod : paRef % 2 ^ w = paRef := Int.emod_eq_of_lt h (by omega)
  exact ⟨(isValid_ofInt_iff paRef).mpr ⟨h, by omega⟩, by rw [deref_ofInt h, hmod]⟩

/-- A reference converts back to itself through its index. -/
theorem ofInt_deref (r : CSpecReference kind dir w) :
    (ofInt r.deref : CSpecReference kind dir w) = r := by
  simp [ofInt, deref]

/-- The index `2 ^ w` is narrowed to port `0`, a valid reference. -/
theorem ofInt_two_pow (hw : 0 < w) :
    (ofInt (2 ^ w) : CSpecReference kind dir w).isValid = true ∧
      (ofInt (2 ^ w) : CSpecReference kind dir w).deref = 0 := by
  have h2 : (2 : ℤ) ≤ 2 ^ w := by
    calc (2 : ℤ) = 2 ^ 1 := by norm_num
      _ ≤ 2 ^ w := pow_le_pow_right₀ (by norm_num) hw
  have hd := @deref_ofInt kind dir w (2 ^ w) (by positivity)
  rw [Int.emod_self] at hd
  exact ⟨(isValid_ofInt_iff _).mpr ⟨by positivity, by rw [Int.emod_self]; omega⟩,
    by exact_mod_cast hd⟩

end CSpecReference

namespace CSpecReferenceRange

open CSpecReference

/-- `CSpecReferenceRange(std::pair<int, int> paRangePair)`. -/
def ofPair (paRangePair : ℤ × ℤ) : CSpecReferenceRange kind dir w :=
  ⟨ofInt paRangePair.1, ofInt paRangePair.2⟩

/-- `isValid()`. -/
def isValid (r : CSpecReferenceRange kind dir w) : Bool :=
  r.mFirst.isValid && r.mLast.isValid

/-- `operator[](int paOffset)`. -/
def get (r : CSpecReferenceRange kind dir w) (paOffset : ℤ) : CSpecReference kind dir w :=
  let id : ℤ := r.mFirst.deref + paOffset
  ofInt (if r.isValid && decide (id ≥ r.mFirst.deref) && decide (id ≤ r.mLast.deref) then id
    else -1)

/-- Assumes: a valid range. The offset `k` gives a valid reference exactly when it lies in
`0 ≤ k ≤ *mLast - *mFirst`. -/
theorem isValid_get_iff {r : CSpecReferenceRange kind dir w} (hr : r.isValid = true)
    (paOffset : ℤ) :
    (r.get paOffset).isValid = true ↔
      0 ≤ paOffset ∧ paOffset ≤ (r.mLast.deref : ℤ) - r.mFirst.deref := by
  have hlast := (CSpecReference.isValid_iff r.mLast).mp (Bool.and_eq_true _ _ ▸ hr).2
  simp only [get, hr, Bool.true_and, Bool.and_eq_true, decide_eq_true_eq]
  split_ifs with hin
  · rw [isValid_ofInt_iff, Int.emod_eq_of_lt (by omega) (by omega)]
    omega
  · simp only [isValid_ofInt_iff]
    omega

/-- Assumes: a valid range. A valid offset reference is the port `*mFirst + k`. -/
theorem deref_get {r : CSpecReferenceRange kind dir w} (hr : r.isValid = true) {paOffset : ℤ}
    (hk : (r.get paOffset).isValid = true) :
    ((r.get paOffset).deref : ℤ) = r.mFirst.deref + paOffset := by
  have hlast := (CSpecReference.isValid_iff r.mLast).mp (Bool.and_eq_true _ _ ▸ hr).2
  have hin := (isValid_get_iff hr paOffset).mp hk
  have hcond : (r.isValid && decide ((r.mFirst.deref : ℤ) + paOffset ≥ r.mFirst.deref) &&
      decide ((r.mFirst.deref : ℤ) + paOffset ≤ r.mLast.deref)) = true := by
    simp only [hr, Bool.true_and, Bool.and_eq_true, decide_eq_true_eq]
    omega
  simp only [get, hcond, if_true]
  exact (deref_ofInt_of_lt (by omega) (by omega)).2

/-- Assumes: `0 ≤ b < a < scmMaxRefValue`. The inverted pair `(a, b)` is a valid range, and no
offset of it is a valid reference. -/
theorem ofPair_inverted {a b : ℤ} (hb : 0 ≤ b) (hba : b < a) (ha : a < 2 ^ w - 1) :
    (ofPair (a, b) : CSpecReferenceRange kind dir w).isValid = true ∧
      (ofPair (a, b) : CSpecReferenceRange kind dir w).mLast.deref <
        (ofPair (a, b) : CSpecReferenceRange kind dir w).mFirst.deref ∧
      ∀ paOffset, ((ofPair (a, b) : CSpecReferenceRange kind dir w).get paOffset).isValid =
        false := by
  obtain ⟨hav, had⟩ := @deref_ofInt_of_lt kind dir w a (by omega) ha
  obtain ⟨hbv, hbd⟩ := @deref_ofInt_of_lt kind dir w b hb (by omega)
  have hvalid : (ofPair (a, b) : CSpecReferenceRange kind dir w).isValid = true := by
    simp [isValid, ofPair, hav, hbv]
  refine ⟨hvalid, ?_, fun paOffset ↦ ?_⟩
  · simp only [ofPair]
    omega
  · have := (isValid_get_iff hvalid paOffset).not.mpr
    simp only [ofPair, had, hbd, Bool.not_eq_true] at this
    exact this (by omega)

end CSpecReferenceRange

/-! ### What the conversions guarantee -/

open CSpecReference CSpecReferenceRange in
/-- The conversions of integer port indices. `CSpecReference(n)` is invalid for a negative `n`
and otherwise narrows `n` modulo `2 ^ w`, so it is valid exactly when that residue is below
`scmMaxRefValue`, and then dereferences to it. On a valid range, built from two references or from
a pair, the offset `k` is a valid reference exactly for `0 ≤ k ≤ *mLast - *mFirst`, and it
dereferences to `*mFirst + k`. -/
theorem specReference_conversion :
    (∀ n : ℤ, ((ofInt n : CSpecReference kind dir w).isValid = true ↔
        0 ≤ n ∧ n % 2 ^ w < 2 ^ w - 1) ∧
      (0 ≤ n → ((ofInt n : CSpecReference kind dir w).deref : ℤ) = n % 2 ^ w)) ∧
    ∀ r : CSpecReferenceRange kind dir w, r.isValid = true → ∀ k : ℤ,
      ((r.get k).isValid = true ↔ 0 ≤ k ∧ k ≤ (r.mLast.deref : ℤ) - r.mFirst.deref) ∧
      ((r.get k).isValid = true → ((r.get k).deref : ℤ) = r.mFirst.deref + k) :=
  ⟨fun n ↦ ⟨isValid_ofInt_iff n, deref_ofInt⟩,
    fun _ hr k ↦ ⟨isValid_get_iff hr k, deref_get hr⟩⟩

open CSpecReference CSpecReferenceRange in
/-- With an 8-bit `TDataIOID`, the index `256` is a valid reference to port `0`, and the inverted
pair `(5, 3)` is a valid range whose last port precedes its first. -/
theorem specReference_aliases_and_inverts :
    (ofInt 256 : CSpecReference .data .input 8).isValid = true ∧
      (ofInt 256 : CSpecReference .data .input 8).deref = 0 ∧
      (ofPair (5, 3) : CSpecReferenceRange .data .input 8).isValid = true ∧
      (ofPair (5, 3) : CSpecReferenceRange .data .input 8).mLast.deref <
        (ofPair (5, 3) : CSpecReferenceRange .data .input 8).mFirst.deref :=
  have halias := @ofInt_two_pow .data .input 8 (by norm_num)
  have hinverted := @ofPair_inverted .data .input 8 5 3 (by decide) (by decide) (by decide)
  ⟨halias.1, halias.2, hinverted.1, hinverted.2.1⟩

end Forte.SpecBuilder
