import Playhouse.Proofs.Block
import Playhouse.Proofs.Geometry
import Playhouse.Proofs.Tick.Outcome

/-!
# Legal poses

A pose is `Legal` if the actor is inside the canvas and its angle is from zero to below a full turn.
From a legal pose every usable block leads to a legal one again (`Proposal.legal_of`). It may move
the actor so far that a coordinate becomes infinite on the way to the wall, but there is never an
infinity on both sides of a sum, which would be not-a-number.

A collision gives an actor the program of another one. So ticks keep poses legal only together with
the programs of all roles (`Outcome.legal`).
-/

namespace Playhouse

open Binary64

structure Actor.Legal (b : Bounds) (a : Actor) : Prop where
  x : Within b.maxX a.x
  y : Within b.maxY a.y
  angle : IsAngle a.angle

variable {b : Bounds}

/-! ## Proposals -/

theorem Heading.isFinite_mul_sign (heading : Heading) {x : Float} (finite : x.isFinite = true) :
    (x * heading.sign).isFinite = true := by
  cases heading with
  | forward => exact isFinite_mul_unit (s := .positive) finite rfl
  | backward => exact isFinite_mul_unit (s := .negative) finite rfl

namespace Proposal

variable {actor : Actor} {block : Block}

theorem isFinite_displacement (usable : block.Usable) {dx dy angle : Float}
    (found : displacement block = (dx, dy, angle)) :
    dx.isFinite = true ∧ dy.isFinite = true ∧ angle.isFinite = true := by
  cases block with
  | move _ _ =>
    cases found
    exact ⟨usable.1, usable.2, rfl⟩
  | turn _ =>
    cases found
    exact ⟨rfl, rfl, usable⟩
  | speak _ _ _ | restart =>
    cases found
    exact ⟨rfl, rfl, rfl⟩

theorem legal_of (turn : ActorId) (heading : Heading) (legal : actor.Legal b)
    (usable : block.Usable) : (Proposal.of b turn actor heading block).after.Legal b := by
  rcases found : displacement block with ⟨dx, dy, angle⟩
  obtain ⟨hdx, hdy, hangle⟩ := isFinite_displacement usable found
  unfold Proposal.of target
  rw [found]
  exact {
    x := within_ite b.maxX_nonneg
      (number_add legal.x.number (heading.isFinite_mul_sign hdx))
    y := within_ite b.maxY_nonneg
      (number_add legal.y.number (heading.isFinite_mul_sign hdy))
    angle := isAngle_normalizeDegrees
      (isFinite_angle_add legal.angle.nonneg legal.angle.lt (heading.isFinite_mul_sign hangle)) }

end Proposal

/-! ## Roles -/

namespace Role

/-- The pose is legal and so is what the program can make of it. -/
structure Legal (b : Bounds) (r : Role) : Prop where
  pose : ∀ actor, r.actor = some actor → actor.Legal b
  program : ∀ program, r.program = some program → program.Usable

namespace Legal

variable {r : Role}

theorem vacant : Role.vacant.Legal b where
  pose := nofun
  program := nofun

theorem enter (legal : r.Legal b) {actor : Actor} (pose : actor.Legal b) :
    (r.enter actor).Legal b where
  pose := by
    intro entered found
    cases found
    exact pose
  program := legal.program

theorem install (legal : r.Legal b) {program : Program} (usable : program.Usable) :
    (r.install program).Legal b where
  pose := legal.pose
  program := by
    intro installed found
    cases found
    exact usable

theorem place (legal : r.Legal b) {pose : Actor → Actor}
    (keeps : ∀ actor : Actor, actor.Legal b → (pose actor).Legal b) : (r.place pose).Legal b where
  pose := by
    intro actor found
    obtain ⟨old, known, rfl⟩ := Option.map_eq_some_iff.1 found
    exact keeps old (legal.pose old known)
  program := legal.program

theorem takeOver (legal : r.Legal b) {program : Option Program}
    (usable : ∀ p, program = some p → p.Usable) (isSecond : Bool) :
    (r.takeOver program isSecond).Legal b where
  pose := legal.pose
  program := usable

theorem commit (legal : r.Legal b) {p : Proposal} (after : p.after.Legal b) :
    (r.commit p).Legal b where
  pose := by
    intro actor found
    obtain ⟨old, -, rfl⟩ := Option.map_eq_some_iff.1 found
    exact after
  program := legal.program

/-- The block that a legal role is at can be used. -/
theorem usable_of_at (legal : r.Legal b) {actor : Actor} {cursor : Cursor} {program : Program}
    {block : Block} (stands : r.At actor cursor program block) : block.Usable :=
  legal.program program stands.program_eq block (List.mem_of_getElem? stands.block_eq)

end Legal

end Role

/-! ## Ticks -/

namespace World

variable {w : World} {offset now : Float} {id : ActorId} {r : Role}

theorem legal_awake (legal : (w.role id).Legal b) (now : Float) :
    ((w.awake now).role id).Legal b := by
  rw [role_awake]
  split
  · exact ⟨legal.pose, legal.program⟩
  · exact legal

/-- Both the pose that an actor proposes and the one that it leaves are legal. -/
theorem legal_of_actOf (legal : (w.role id).Legal w.scene.bounds) {p : Proposal}
    (found : w.actOf offset now id = some (.motion p)) :
    p.before.Legal w.scene.bounds ∧ p.after.Legal w.scene.bounds := by
  obtain ⟨actor, cursor, program, block, ready, -, rfl⟩ := actOf_eq_motion found
  have pose := legal.pose actor ready.actor_eq
  exact ⟨pose, Proposal.legal_of id cursor.heading pose (legal.usable_of_at ready.toAt)⟩

theorem Outcome.legal (outcome : w.Outcome offset now id r)
    (legal : ∀ id, (w.role id).Legal w.scene.bounds) : r.Legal w.scene.bounds := by
  have released : (w.role id).release.Legal w.scene.bounds :=
    ⟨(legal id).pose, (legal id).program⟩
  cases outcome with
  | rests _ => exact released
  | speaks _ => exact ⟨released.pose, released.program⟩
  | moves found _ => exact released.commit (legal_of_actOf (legal id) found).2
  | collides _ _ found _ =>
    exact (released.takeOver (legal _).program _).commit (legal_of_actOf (legal id) found).1

end World

end Playhouse
