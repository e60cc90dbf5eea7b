import Playhouse.Proofs.Binary64.Sign

/-!
# The order of binary64 values

`Number x` says that `x` is not not-a-number. Two numbers can always be compared: if the one is not
below the other it is at least as great (`le_of_not_lt`). Whatever has been compared with success is
a number (`number_of_le`). Values that compare as equal are the same, to the signs of zeros
(`equalToSign_of_beq`).
-/

namespace Playhouse.Binary64

open Float.Model.UnpackedFloat
open Float.Model (UnpackedFloat Format)

def Number (x : Float) : Prop :=
  x.isNaN = false

instance (x : Float) : Decidable (Number x) :=
  inferInstanceAs (Decidable (_ = _))

/-! ## Unpacked values -/

variable {u v : UnpackedFloat}

theorem lex_swap (e f : Int) (m n : Nat) :
    (compare e f).then (compare m n) = ((compare f e).then (compare n m)).swap := by
  rw [Ordering.swap_then, Int.compare_swap, Nat.compare_swap]

theorem compare_swap (u v : UnpackedFloat) : u.compare v = (v.compare u).map Ordering.swap := by
  cases u with
  | notANumber => cases v <;> rfl
  | infinity s | zero s =>
    cases v with
    | notANumber => cases s <;> rfl
    | infinity t | zero t | finite t n f positive => cases s <;> cases t <;> rfl
  | finite s m e positive =>
    cases v with
    | notANumber => cases s <;> rfl
    | infinity t | zero t => cases s <;> cases t <;> rfl
    | finite t n f positive' =>
      cases s <;> cases t
      · exact congrArg (some ·.swap) (lex_swap e f m n)
      · rfl
      · rfl
      · exact congrArg some (lex_swap e f m n)

theorem compare_eq_none_iff : u.compare v = none ↔ u.isNaN = true ∨ v.isNaN = true := by
  constructor
  · intro apart
    cases u with
    | notANumber => exact .inl rfl
    | infinity s | zero s | finite s m e positive =>
      cases v with
      | notANumber => exact .inr rfl
      | infinity t | zero t | finite t n f positive' => cases s <;> cases t <;> cases apart
  · rintro (left | right)
    · cases u with
      | notANumber => cases v <;> rfl
      | infinity s | zero s | finite s m e positive => cases left
    · cases v with
      | notANumber =>
        cases u with
        | notANumber => rfl
        | infinity s | zero s | finite s m e positive => cases s <;> rfl
      | infinity t | zero t | finite t n f positive' => cases right

theorem compare_self (number : u.isNaN = false) : u.compare u = some .eq := by
  cases u with
  | notANumber => cases number
  | infinity s | zero s => cases s <;> rfl
  | finite s m e positive =>
    have lex : (compare e e).then (compare m m) = .eq := by
      rw [Int.compare_eq_eq.2 rfl, Nat.compare_eq_eq.2 rfl]
      rfl
    cases s
    · exact congrArg (some ·.swap) lex
    · exact congrArg some lex

theorem lt_unpacked_iff : u.lt v = true ↔ u.compare v = some .lt := by
  rw [UnpackedFloat.lt, beq_iff_eq]

theorem le_unpacked_iff : u.le v = true ↔ ∃ o, u.compare v = some o ∧ o.isLE = true := by
  rw [UnpackedFloat.le, Option.any_eq_true]

theorem lt_finite_iff {m n : Nat} {e f : Int} {positive : 0 < m} {positive' : 0 < n} :
    UnpackedFloat.lt (.finite .positive m e positive) (.finite .positive n f positive') = true ↔
      e < f ∨ e = f ∧ m < n := by
  rw [lt_unpacked_iff]
  change some ((compare e f).then (compare m n)) = some .lt ↔ _
  rw [Option.some_inj, Ordering.then_eq_lt, Int.compare_eq_lt, Int.compare_eq_eq,
    Nat.compare_eq_lt]

theorem eq_of_lex {e f : Int} {m n : Nat} (same : (compare e f).then (compare m n) = .eq) :
    e = f ∧ m = n := by
  obtain ⟨first, second⟩ := Ordering.then_eq_eq.1 same
  exact ⟨Int.compare_eq_eq.1 first, Nat.compare_eq_eq.1 second⟩

/-- Only zeros compare as equal without being the same. -/
theorem eq_or_zero_of_compare (same : u.compare v = some .eq) :
    u = v ∨ (∃ s, u = .zero s) ∧ ∃ s, v = .zero s := by
  cases u with
  | notANumber => cases v <;> cases same
  | infinity s =>
    cases v with
    | infinity t => cases s <;> cases t <;> first | exact .inl rfl | cases same
    | notANumber | zero t | finite t n f positive => cases s <;> cases same
  | zero s =>
    cases v with
    | notANumber => cases same
    | infinity t | finite t n f positive => cases t <;> cases same
    | zero t => exact .inr ⟨⟨s, rfl⟩, t, rfl⟩
  | finite s m e positive =>
    cases v with
    | notANumber | zero t => cases s <;> cases same
    | infinity t => cases s <;> cases t <;> cases same
    | finite t n f positive' =>
      cases s <;> cases t
      · obtain ⟨rfl, rfl⟩ := eq_of_lex ((lex_swap f e n m).trans (Option.some.inj same))
        exact .inl rfl
      · cases same
      · cases same
      · obtain ⟨rfl, rfl⟩ := eq_of_lex (Option.some.inj same)
        exact .inl rfl

/-! ## Values -/

variable {x y : Float}

theorem le_iff : x ≤ y ↔ UnpackedFloat.le x.toModel.unpack y.toModel.unpack = true :=
  decide_eq_true_iff

theorem number_of_compare {o : Ordering}
    (found : x.toModel.unpack.compare y.toModel.unpack = some o) : Number x ∧ Number y := by
  have compared := mt compare_eq_none_iff.2 (found ▸ Option.some_ne_none o)
  rw [not_or, Bool.not_eq_true, Bool.not_eq_true] at compared
  exact compared

theorem number_of_le (less : x ≤ y) : Number x ∧ Number y := by
  obtain ⟨o, found, -⟩ := le_unpacked_iff.1 (le_iff.1 less)
  exact number_of_compare found

theorem le_of_lt (less : x < y) : x ≤ y :=
  le_iff.2 (le_unpacked_iff.2 ⟨.lt, lt_unpacked_iff.1 (lt_iff.1 less), rfl⟩)

theorem le_self (number : Number x) : x ≤ x :=
  le_iff.2 (le_unpacked_iff.2 ⟨.eq, compare_self number, rfl⟩)

theorem not_lt_of_le (less : x ≤ y) : ¬ y < x := by
  intro greater
  obtain ⟨o, found, order⟩ := le_unpacked_iff.1 (le_iff.1 less)
  rw [compare_swap, lt_unpacked_iff.1 (lt_iff.1 greater)] at found
  cases found
  cases order

theorem le_of_not_lt (hx : Number x) (hy : Number y) (above : ¬ x < y) : y ≤ x := by
  rw [lt_iff, lt_unpacked_iff] at above
  cases found : x.toModel.unpack.compare y.toModel.unpack with
  | none =>
    rcases compare_eq_none_iff.1 found with absurd | absurd
    · exact nomatch hx.symm.trans absurd
    · exact nomatch hy.symm.trans absurd
  | some o =>
    refine le_iff.2 (le_unpacked_iff.2 ⟨o.swap, ?_, ?_⟩)
    · rw [compare_swap, found]
      rfl
    · cases o with
      | lt => exact absurd found above
      | eq | gt => rfl

/-- What is not negative is zero, infinite or a positive finite value. -/
theorem unpack_of_nonneg (nonneg : 0.0 ≤ x) :
    (∃ s, x.toModel.unpack = .zero s) ∨ x.toModel.unpack = .infinity .positive ∨
      ∃ m e positive, x.toModel.unpack = .finite .positive m e positive := by
  have zero : (0.0 : Float).toModel.unpack = .zero .positive := rfl
  obtain ⟨o, order, isLE⟩ := le_unpacked_iff.1 (le_iff.1 nonneg)
  rw [zero] at order
  generalize x.toModel.unpack = u at order ⊢
  cases u with
  | notANumber => cases order
  | zero s => exact .inl ⟨s, rfl⟩
  | infinity s =>
    cases s with
    | negative =>
      cases order
      cases isLE
    | positive => exact .inr (.inl rfl)
  | finite s m e positive =>
    cases s with
    | negative =>
      cases order
      cases isLE
    | positive => exact .inr (.inr ⟨m, e, positive, rfl⟩)

/-! ## Equal values -/

theorem beq_iff : (x == y) = true ↔ x.toModel.unpack.compare y.toModel.unpack = some .eq := by
  change (x.toModel.unpack.compare y.toModel.unpack == some .eq) = true ↔ _
  rw [beq_iff_eq]

theorem eq_ofModel_pack (x : Float) : x = .ofModel (.pack x.toModel.unpack) := by
  rw [pack_unpack]

theorem eq_zero_of_unpack {s : Sign} (unpacked : x.toModel.unpack = .zero s) :
    x = 0.0 ∨ x = -0.0 := by
  rw [eq_ofModel_pack x, unpacked]
  cases s with
  | negative => exact .inr rfl
  | positive => exact .inl rfl

/-- The same, to the signs of zeros. -/
def EqualToSign (x y : Float) : Prop :=
  x = y ∨ (x = 0.0 ∨ x = -0.0) ∧ (y = 0.0 ∨ y = -0.0)

theorem equalToSign_of_beq (same : (x == y) = true) : EqualToSign x y := by
  rcases eq_or_zero_of_compare (beq_iff.1 same) with unpacked | ⟨⟨s, left⟩, t, right⟩
  · rw [eq_ofModel_pack x, unpacked, ← eq_ofModel_pack]
    exact .inl rfl
  · exact .inr ⟨eq_zero_of_unpack left, eq_zero_of_unpack right⟩

theorem EqualToSign.eq (equal : EqualToSign x y) (left : x ≠ -0.0) (right : y ≠ -0.0) : x = y := by
  rcases equal with same | ⟨zero, zero'⟩
  · exact same
  · rw [zero.resolve_right left, zero'.resolve_right right]

end Playhouse.Binary64
