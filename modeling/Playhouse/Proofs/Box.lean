import Mathlib.Data.List.MinMax
import Playhouse.Proofs.Binary64.Difference

/-!
# Sides of contact

Two boxes that overlap have gone into each other through all four sides, by some number that is not
negative (`Box.nonneg_penetration`). So the penetrations can always be compared, and the side of
contact is the first side with the least one (`Box.contactSide_eq_argmin`).

Seen from the other box each penetration is that through the opposite side
(`Box.penetration_opposite`). So the two sides of contact are opposite if there is one side only
with the least penetration (`Box.contactSide_dual`).
-/

namespace Playhouse

open Binary64

/-- The search for a least element that starts with a given one. -/
theorem foldl_argAux {α : Type} (r : α → α → Prop) [DecidableRel r] (first : α) (l : List α) :
    l.foldl (List.argAux r) (some first) =
      some (l.foldl (fun best x => if r x best then x else best) first) := by
  induction l generalizing first with
  | nil => rfl
  | cons x l ih =>
    rw [List.foldl_cons, List.foldl_cons, ← ih]
    exact congrArg (l.foldl (List.argAux r)) (apply_ite some _ _ _).symm

/-! ## Sides -/

namespace Side

/-- The sides in the order in which ties are settled. -/
def all : List Side :=
  [.left, .right, .top, .bottom]

theorem mem_all (s : Side) : s ∈ all := by
  cases s <;> decide

def opposite : Side → Side
  | .left => .right
  | .right => .left
  | .top => .bottom
  | .bottom => .top

theorem opposite_opposite (s : Side) : s.opposite.opposite = s := by
  cases s <;> rfl

end Side

/-! ## Boxes -/

namespace Box

variable {a b : Box} {s t : Side}

theorem penetration_opposite (a b : Box) (s : Side) :
    b.penetration a s.opposite = a.penetration b s := by
  cases s <;> rfl

/-- No other side has a lesser penetration. -/
def IsLeast (a b : Box) (s : Side) : Prop :=
  ∀ t, a.penetration b s ≤ a.penetration b t

instance : DecidablePred (a.IsLeast b) := fun s =>
  decidable_of_iff (∀ t ∈ Side.all, a.penetration b s ≤ a.penetration b t)
    ⟨fun least t => least t t.mem_all, fun least t _ => least t⟩

theorem isLeast_opposite_iff : b.IsLeast a s.opposite ↔ a.IsLeast b s := by
  constructor
  · intro least t
    have le := least t.opposite
    rwa [penetration_opposite, penetration_opposite] at le
  · intro least t
    have le := least t.opposite
    rwa [← penetration_opposite a b s, ← penetration_opposite a b t.opposite,
      Side.opposite_opposite] at le

theorem overlaps_iff :
    a.overlaps b = true ↔ a.x < b.x + b.width ∧ b.x < a.x + a.width ∧
      a.y < b.y + b.height ∧ b.y < a.y + a.height := by
  simp [overlaps, and_assoc]

theorem nonneg_penetration (overlap : a.overlaps b = true) (s : Side) :
    0.0 ≤ a.penetration b s := by
  obtain ⟨right, left, bottom, top⟩ := overlaps_iff.1 overlap
  cases s with
  | left => exact nonneg_sub left
  | right => exact nonneg_sub right
  | top => exact nonneg_sub top
  | bottom => exact nonneg_sub bottom

/-- The penetration as a natural number. -/
def depth (a b : Box) (s : Side) : ℕ :=
  rank (a.penetration b s).toModel.unpack

theorem depth_le_iff (overlap : a.overlaps b = true) :
    a.depth b s ≤ a.depth b t ↔ a.penetration b s ≤ a.penetration b t :=
  (le_iff_rank (nonneg_penetration overlap s) (nonneg_penetration overlap t)).symm

theorem depth_lt_iff (overlap : a.overlaps b = true) :
    a.depth b s < a.depth b t ↔ a.penetration b s < a.penetration b t :=
  (lt_iff_rank (nonneg_penetration overlap s) (nonneg_penetration overlap t)).symm

theorem isLeast_iff (overlap : a.overlaps b = true) :
    a.IsLeast b s ↔ ∀ t ∈ Side.all, a.depth b s ≤ a.depth b t := by
  simp only [IsLeast, depth_le_iff overlap, Side.mem_all, true_implies]

theorem contactSide_eq_argmin (overlap : a.overlaps b = true) :
    a.contactSide b = Side.all.argmin (a.depth b) := by
  rw [contactSide, if_pos overlap]
  simp only [← depth_lt_iff overlap]
  exact (foldl_argAux (fun s t => a.depth b s < a.depth b t) .left [.right, .top, .bottom]).symm

theorem contactSide_eq_some_iff :
    a.contactSide b = some s ↔ a.overlaps b = true ∧ a.IsLeast b s ∧
      ∀ t, a.IsLeast b t → Side.all.idxOf s ≤ Side.all.idxOf t := by
  by_cases overlap : a.overlaps b = true
  · rw [contactSide_eq_argmin overlap, List.argmin_eq_some_iff, isLeast_iff overlap]
    constructor
    · rintro ⟨-, least, first⟩
      exact ⟨overlap, least, fun t le =>
        first t t.mem_all ((isLeast_iff overlap).1 le s s.mem_all)⟩
    · rintro ⟨-, least, first⟩
      refine ⟨s.mem_all, least, fun t _ le => first t ((isLeast_iff overlap).2 fun u mem => ?_)⟩
      exact Nat.le_trans le (least u mem)
  · rw [contactSide, if_neg overlap]
    exact iff_of_false nofun fun found => overlap found.1

theorem isSome_contactSide_comm (a b : Box) :
    (b.contactSide a).isSome = (a.contactSide b).isSome := by
  rw [isSome_contactSide, isSome_contactSide, overlaps_comm]

theorem contactSide_opposite (only : ∃! s, a.IsLeast b s) :
    b.contactSide a = (a.contactSide b).map Side.opposite := by
  have both := isSome_contactSide_comm a b
  cases found : a.contactSide b with
  | none =>
    rw [found] at both
    exact Option.isNone_iff_eq_none.1 (by simpa using both)
  | some s =>
    rw [found] at both
    obtain ⟨t, found'⟩ := Option.isSome_iff_exists.1 both
    obtain ⟨-, least, -⟩ := contactSide_eq_some_iff.1 found
    obtain ⟨-, least', -⟩ := contactSide_eq_some_iff.1 found'
    rw [← t.opposite_opposite, isLeast_opposite_iff] at least'
    rw [found', only.unique least least', Option.map_some, Side.opposite_opposite]

/-- Two boxes overlap or not, whichever comes first, and there is a side of contact if they do. It
is the first side with the least penetration. If no other side has the same penetration, the other
box is met on the opposite side. -/
theorem contactSide_dual (a b : Box) :
    a.overlaps b = b.overlaps a ∧ ((a.contactSide b).isSome = true ↔ a.overlaps b = true) ∧
      (∀ s, a.contactSide b = some s ↔ a.overlaps b = true ∧ a.IsLeast b s ∧
        ∀ t, a.IsLeast b t → Side.all.idxOf s ≤ Side.all.idxOf t) ∧
      ((∃! s, a.IsLeast b s) → b.contactSide a = (a.contactSide b).map Side.opposite) := by
  refine ⟨overlaps_comm a b, ?_, fun s => contactSide_eq_some_iff, contactSide_opposite⟩
  rw [isSome_contactSide]

/-- A box without end, and one that reaches into it from the right. -/
def endless : Box :=
  ⟨90.0, 0.0, 50.0, 1.0 / 0.0⟩

def entering : Box :=
  ⟨100.0, 5.0, 95.0, 100.0⟩

theorem contactSide_dual_endless :
    (∃! s, endless.IsLeast entering s) ∧ endless.contactSide entering = some .left ∧
      entering.contactSide endless = some .right := by
  have only : ∃! s, endless.IsLeast entering s := by
    refine ⟨.left, by decide +kernel, fun s least => ?_⟩
    cases s with
    | left => rfl
    | right | top | bottom => exact absurd least (by decide +kernel)
  have side : endless.contactSide entering = some .left := by decide +kernel
  refine ⟨only, side, ?_⟩
  rw [(contactSide_dual endless entering).2.2.2 only, side]
  rfl

/-- A box in the same place is as near to its right side as to its left one. -/
example : entering.contactSide entering = some .left := by
  decide +kernel

end Box

end Playhouse
