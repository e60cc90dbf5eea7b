import Playhouse.Proofs.Binary64.Rank
import Playhouse.Proofs.Tick.Account
import Playhouse.Proofs.Tick.Pose

/-!
# Walls

What a wall does to an actor is decided by where its block would take it. Outside in `x` it turns
around at that wall, else outside in `y` at that one, and inside not at all
(`Proposal.wall_eq_x_iff`, `Proposal.wall_eq_y_iff`); both coordinates are brought back to the
canvas in any case. A collision takes back the pose but not the turn.

`World.Passage` collects all of this about an actor that executes a block. It holds in worlds in
which every role is legal (`World.Keyed.exists_passage`): there is no coordinate then that would be
neither inside nor outside.
-/

namespace Playhouse

open Binary64

/-! ## Inside and outside -/

section Within

variable {greatest x y : Float}

theorem isOutside_iff (nonneg : 0.0 ≤ greatest) (number : Number x) :
    isOutside greatest x = true ↔ ¬ Within greatest x := by
  rw [isOutside, Bool.or_eq_true, decide_eq_true_iff, decide_eq_true_iff]
  constructor
  · rintro (below | above) within
    · exact not_lt_of_le within.nonneg below
    · exact not_lt_of_le within.le above
  · intro outside
    by_contra inside
    rw [not_or] at inside
    exact outside ⟨le_of_not_lt number rfl inside.1,
      le_of_not_lt (number_of_le nonneg).2 number inside.2⟩

theorem Within.clamp_eq (within : Within greatest x) : clamp greatest x = x := by
  unfold clamp
  dsimp only
  rw [if_neg (not_lt_of_le within.nonneg), if_neg (not_lt_of_le within.le)]

/-- A sum with zero stays inside. -/
theorem Within.add_zero (within : Within greatest x) (zero : y = 0.0 ∨ y = -0.0) :
    Within greatest (x + y) ∧ (x + y == x) = true := by
  have equal := equalToSign_add_zero zero within.number
  refine ⟨?_, equal.beq within.number⟩
  rcases equal with same | ⟨sum, -⟩
  · rw [same]
    exact within
  · refine ⟨?_, zero_le sum (nonneg_of_le within.nonneg within.le)⟩
    rcases sum with same | same <;> rw [same] <;> decide

end Within

/-! ## Proposals -/

namespace Proposal

variable {b : Bounds} {actor : Actor} {heading : Heading} {block : Block} {x y : Float}

theorem wall_eq_x_iff (number : Number x) : wall b x y = some .x ↔ ¬ Within b.maxX x := by
  rw [← isOutside_iff b.maxX_nonneg number, wall]
  change (if isOutside b.maxX x = true then _ else _) = _ ↔ _
  split
  · rename_i outside
    exact iff_of_true rfl outside
  · rename_i inside
    split <;> simp [inside]

theorem wall_eq_y_iff (hx : Number x) (hy : Number y) :
    wall b x y = some .y ↔ Within b.maxX x ∧ ¬ Within b.maxY y := by
  have insideX := not_congr (isOutside_iff b.maxX_nonneg hx)
  rw [not_not] at insideX
  rw [← isOutside_iff b.maxY_nonneg hy, ← insideX, wall]
  change (if isOutside b.maxX x = true then _
    else if isOutside b.maxY y = true then _ else _) = _ ↔ _
  split
  · rename_i outside
    simp [outside]
  · rename_i inside
    split
    · rename_i outside
      simp [inside, outside]
    · rename_i inside'
      simp [inside']

/-- Wherever a block would take an actor, it is brought back to the canvas. -/
theorem after_of (b : Bounds) (turn : ActorId) (actor : Actor) (heading : Heading)
    (block : Block) :
    (Proposal.of b turn actor heading block).after.x =
        b.clampX (target actor heading block).x ∧
      (Proposal.of b turn actor heading block).after.y =
        b.clampY (target actor heading block).y :=
  ⟨b.clampX_of_isOutsideX _, b.clampY_of_isOutsideY _⟩

theorem bounce_of (b : Bounds) (turn : ActorId) (actor : Actor) (heading : Heading)
    (block : Block) :
    (Proposal.of b turn actor heading block).bounce =
      wall b (target actor heading block).x (target actor heading block).y := rfl

theorem number_target (legal : actor.Legal b) (usable : block.Usable) (heading : Heading) :
    Number (target actor heading block).x ∧ Number (target actor heading block).y := by
  rcases found : displacement block with ⟨dx, dy, angle⟩
  obtain ⟨hdx, hdy, -⟩ := isFinite_displacement usable found
  unfold target
  rw [found]
  exact ⟨number_add legal.x.number (heading.isFinite_mul_sign hdx),
    number_add legal.y.number (heading.isFinite_mul_sign hdy)⟩

theorem zero_mul_sign (heading : Heading) :
    0.0 * heading.sign = 0.0 ∨ 0.0 * heading.sign = -0.0 := by
  cases heading with
  | forward => exact .inl rfl
  | backward => exact .inr rfl

end Proposal

/-- A block that turns the actor or goes back to the start of the program. -/
def Block.IsStationary (block : Block) : Prop :=
  (∃ angle, block = .turn angle) ∨ block = .restart

namespace Proposal

variable {b : Bounds} {actor : Actor} {block : Block}

theorem target_of_isStationary (stationary : block.IsStationary) (legal : actor.Legal b)
    (heading : Heading) :
    (Within b.maxX (target actor heading block).x ∧
      ((target actor heading block).x == actor.x) = true) ∧
    Within b.maxY (target actor heading block).y ∧
      ((target actor heading block).y == actor.y) = true := by
  have zero := zero_mul_sign heading
  rcases stationary with ⟨angle, rfl⟩ | rfl <;>
    exact ⟨legal.x.add_zero zero, legal.y.add_zero zero⟩

/-- Who does not move does not meet a wall. -/
theorem of_isStationary (stationary : block.IsStationary) (legal : actor.Legal b)
    (turn : ActorId) (heading : Heading) :
    (Proposal.of b turn actor heading block).bounce = none ∧
      ((Proposal.of b turn actor heading block).after.x == actor.x) = true ∧
      ((Proposal.of b turn actor heading block).after.y == actor.y) = true := by
  obtain ⟨⟨insideX, x_eq⟩, insideY, y_eq⟩ := target_of_isStationary stationary legal heading
  obtain ⟨afterX, afterY⟩ := after_of b turn actor heading block
  refine ⟨?_, ?_, ?_⟩
  · rw [bounce_of]
    cases met : wall b (target actor heading block).x (target actor heading block).y with
    | none => rfl
    | some axis =>
      cases axis with
      | x => exact absurd insideX ((wall_eq_x_iff insideX.number).1 met)
      | y => exact absurd insideY ((wall_eq_y_iff insideX.number insideY.number).1 met).2
  · rw [afterX, Bounds.clampX, insideX.clamp_eq]
    exact x_eq
  · rw [afterY, Bounds.clampY, insideY.clamp_eq]
    exact y_eq

end Proposal

/-! ## Ticks -/

namespace World

variable {w : World} {offset now : Float} {id : ActorId}

/-- In a tick `id` executes `block`, which would take it to the target, and meets `wall`. -/
structure Passage (w : World) (offset now : Float) (id : ActorId) (actor : Actor)
    (cursor : Cursor) (block : Block) (wall : Option Axis) : Prop where
  next_eq : (w.awake now).scene.nextBlock id = some (cursor, block)
  moves : block.isSpeech = false
  before_eq : w.scene.actors.get? id = some actor
  heading_eq : (w.scene.cursors.get? id).map (·.heading) = some cursor.heading
  wall_x : wall = some .x ↔
    ¬ Within w.scene.bounds.maxX (Proposal.target actor cursor.heading block).x
  wall_y : wall = some .y ↔
    Within w.scene.bounds.maxX (Proposal.target actor cursor.heading block).x ∧
      ¬ Within w.scene.bounds.maxY (Proposal.target actor cursor.heading block).y
  bounce_eq : (w.tick offset now).2.bounces.filter (·.actor = id) = wall.toList.map (⟨id, ·⟩)
  /-- The actor turns around if there is a wall, whether it collides or not. -/
  turned_eq : ((w.tick offset now).1.scene.cursors.get? id).map (·.heading) =
    some (if wall.isSome then cursor.heading.flipped else cursor.heading)
  clamped : Apart id (w.tick offset now) → ∃ after,
    (w.tick offset now).1.scene.actors.get? id = some after ∧
      after.x = w.scene.bounds.clampX (Proposal.target actor cursor.heading block).x ∧
      after.y = w.scene.bounds.clampY (Proposal.target actor cursor.heading block).y
  reverted : ¬ Apart id (w.tick offset now) →
    (w.tick offset now).1.scene.actors.get? id = some actor
  stationary : block.IsStationary → wall = none ∧ ∃ after,
    (w.tick offset now).1.scene.actors.get? id = some after ∧
      (after.x == actor.x) = true ∧ (after.y == actor.y) = true

theorem Keyed.actor_tick_of_motion (keyed : w.Keyed) {p : Proposal} {actor : Actor}
    (found : (w.awake now).actOf offset now id = some (.motion p))
    (present : w.scene.actors.get? id = some actor) :
    (w.tick offset now).1.scene.actors.get? id =
      some (if Apart id (w.tick offset now) then p.after else p.before) := by
  obtain ⟨alone, together⟩ := keyed.role_tick_of_motion found
  change ((w.tick offset now).1.role id).actor = _
  by_cases apart : Apart id (w.tick offset now)
  · rw [if_pos apart, alone apart]
    exact congrArg (Option.map _) present
  · obtain ⟨program, isSecond, role⟩ := together apart
    rw [if_neg apart, role]
    exact congrArg (Option.map _) present

theorem Keyed.exists_passage (keyed : w.Keyed) (legal : (w.role id).Legal w.scene.bounds)
    (executes : id ∈ (w.tick offset now).2.executed) :
    ∃ actor cursor block wall, w.Passage offset now id actor cursor block wall := by
  obtain ⟨p, found⟩ := keyed.mem_executed_iff.1 executes
  obtain ⟨actor, cursor, program, block, ready, moves, own⟩ := actOf_eq_motion found
  obtain ⟨comes, next⟩ := deferred_of_readyFor ready
  have legal := legal_awake legal now
  have pose : actor.Legal w.scene.bounds := legal.pose actor ready.actor_eq
  have usable : block.Usable := legal.usable_of_at ready.toAt
  obtain ⟨hx, hy⟩ := Proposal.number_target pose usable cursor.heading
  have after := keyed.actor_tick_of_motion found ready.actor_eq
  refine ⟨actor, cursor, block, p.bounce, ?_⟩
  subst own
  exact {
    next_eq := next
    moves := moves
    before_eq := ready.actor_eq
    heading_eq := by
      change (w.role id).cursor.map (·.heading) = _
      rw [← heading_awake w now, ready.cursor_eq, Option.map_some]
    wall_x := Proposal.wall_eq_x_iff hx
    wall_y := Proposal.wall_eq_y_iff hx hy
    bounce_eq := keyed.filter_bounces found
    turned_eq := by
      rw [keyed.cursor_tick_of_motion found comes, Option.map_some]
      rfl
    clamped := by
      intro apart
      rw [if_pos apart] at after
      exact ⟨_, after, Proposal.after_of w.scene.bounds id actor cursor.heading block⟩
    reverted := by
      intro joined
      rwa [if_neg joined] at after
    stationary := by
      intro stationary
      obtain ⟨free, x_eq, y_eq⟩ := Proposal.of_isStationary stationary pose id cursor.heading
      refine ⟨free, _, after, ?_⟩
      split
      · exact ⟨x_eq, y_eq⟩
      · exact ⟨beq_iff.2 (compare_self pose.x.number), beq_iff.2 (compare_self pose.y.number)⟩ }

end World

end Playhouse
