import Playhouse.Tick.Proposal

/-!
# Which proposals collide

A `Sweep` goes through the proposals in the order of turns and compares each one with the later
ones. The first two that overlap collide: they are reverted where they stand in the list, and
neither of them is compared again. So an actor collides at most once in a tick.
-/

namespace Playhouse

/-- The proposals with those reverted that have collided so far, and their collisions. -/
structure Sweep where
  pending : List Proposal
  collisions : List Collision

namespace Sweep

/-- The first of the given proposals that `p` meets, with its place, and their collision. -/
def meet? (bounds : Bounds) (p : Proposal) (later : List (Proposal × Nat)) :
    Option (Nat × Collision) :=
  later.findSome? fun (q, j) =>
    if q.collided then none
    else
      ((p.box bounds).contactSide (q.box bounds)).map fun side =>
        (j, ⟨p.after.id, q.after.id, side⟩)

/-- Compares the proposal at `i` with the later ones, up to the first that it meets. -/
def advance (bounds : Bounds) (s : Sweep) (i : Nat) : Sweep :=
  match s.pending[i]? with
  | none => s
  | some p =>
    if p.collided then s
    else
      match meet? bounds p (s.pending.zipIdx.drop (i + 1)) with
      | none => s
      | some (j, collision) =>
        ⟨(s.pending.modify i Proposal.revert).modify j Proposal.revert,
          s.collisions ++ [collision]⟩

/-- The sweep through all proposals. -/
def through (bounds : Bounds) (proposals : List Proposal) : Sweep :=
  (List.range proposals.length).foldl (advance bounds) ⟨proposals, []⟩

end Sweep

end Playhouse
