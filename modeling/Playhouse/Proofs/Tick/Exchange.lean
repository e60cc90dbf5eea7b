import Mathlib.Data.List.Nodup
import Mathlib.Logic.Equiv.Basic
import Playhouse.Proofs.Tick.Interference

/-!
# What collisions do

After a tick the programs are those from before it, exchanged once for every collision
(`World.programs_tick`), so a run of ticks neither loses nor doubles a program
(`World.values_programs_ticks`). Exactly the second members of collisions are held
(`World.contains_held_tick`).

An actor that collides stays where it is and is at the beginning of the program of the other one
(`World.Keyed.takesOver`). Its block counts as performed: the cursor is behind the first block, or
at it after a restart, and a wall turns the actor around.
-/

namespace Playhouse

/-! ## Exchanged programs -/

/-- Maps whose look-ups differ by a permutation of the ids hold the same values. -/
theorem IdMap.values_perm {α : Type} {m m' : IdMap α} (σ : Equiv.Perm ActorId)
    (same : ∀ id, m'.get? id = m.get? (σ id)) : m'.values.Perm m.values := by
  have move : Function.Injective fun p : ActorId × α => (σ.symm p.1, p.2) := by
    rintro ⟨i, a⟩ ⟨j, b⟩ moved
    simpa using moved
  have entries : m'.entries.Perm (m.entries.map fun p => (σ.symm p.1, p.2)) := by
    refine (List.perm_ext_iff_of_nodup m'.nodup_entries (m.nodup_entries.map move)).2 ?_
    rintro ⟨id, a⟩
    rw [mem_entries_iff, same, ← mem_entries_iff, List.mem_map]
    constructor
    · intro mem
      exact ⟨(σ id, a), mem, by rw [Equiv.symm_apply_apply]⟩
    · rintro ⟨⟨key, b⟩, mem, moved⟩
      cases moved
      rwa [Equiv.apply_symm_apply]
  simpa only [values, List.map_map, Function.comp_def] using entries.map (·.2)

namespace Programs

/-- What a collision does to the programs. -/
def exchange (p : Programs) (c : Collision) : Programs :=
  p.swap c.first c.second

theorem get?_swap_eq (p : Programs) (a b id : ActorId) :
    (p.swap a b).get? id = p.get? (Equiv.swap a b id) := by
  rw [get?_swap, Equiv.swap_apply_def]
  split
  · rfl
  · split <;> rfl

theorem values_exchange (p : Programs) (c : Collision) : (p.exchange c).values.Perm p.values :=
  IdMap.values_perm (Equiv.swap c.first c.second) (p.get?_swap_eq c.first c.second)

theorem values_foldl_exchange (collisions : List Collision) (p : Programs) :
    (collisions.foldl exchange p).values.Perm p.values := by
  induction collisions generalizing p with
  | nil => rfl
  | cons c collisions ih => exact (ih (p.exchange c)).trans (p.values_exchange c)

end Programs

namespace World

variable {w : World} {offset now : Float} {id : ActorId}

theorem programs_tick (w : World) (offset now : Float) :
    (w.tick offset now).1.scene.programs =
      (w.tick offset now).2.collisions.foldl Programs.exchange w.scene.programs := by
  rw [w.scene_tick_exchanged Scene.programs offset now fun _ _ => rfl]
  exact (List.foldl_hom Scene.programs fun _ _ => rfl).symm

/-- The second members of collisions are held, and nobody else is. -/
theorem contains_held_tick (w : World) (offset now : Float) (id : ActorId) :
    (w.tick offset now).1.scene.held.contains id = true ↔
      ∃ c ∈ (w.tick offset now).2.collisions, c.second = id := by
  have held : (w.tick offset now).1.scene.held =
      ((w.tick offset now).2.collisions.map (·.second)).foldl IdSet.insert ∅ := by
    rw [w.scene_tick_exchanged Scene.held offset now fun _ _ => rfl, List.foldl_map]
    exact (List.foldl_hom Scene.held fun _ _ => rfl).symm
  have empty : (∅ : IdSet).contains id = false := rfl
  rw [held, IdSet.contains_foldl_insert, empty, Bool.false_or, decide_eq_true_iff, List.mem_map]

theorem values_programs_tick (w : World) (offset now : Float) :
    (w.tick offset now).1.scene.programs.values.Perm w.scene.programs.values := by
  rw [programs_tick]
  exact Programs.values_foldl_exchange _ _

theorem values_programs_ticks {played : World × Report} {times : List Float}
    (mem : played ∈ w.ticks offset times) :
    played.1.scene.programs.values.Perm w.scene.programs.values := by
  induction times generalizing w with
  | nil => cases mem
  | cons now later ih =>
    rcases List.mem_cons.1 mem with rfl | mem
    · exact w.values_programs_tick offset now
    · exact (ih mem).trans (w.values_programs_tick offset now)

/-! ## Actors that collide -/

/-- In a tick `id` has performed `block`, running into `other` and maybe into a wall. It stays where
it is and goes on with the program of the other one. -/
structure TakesOver (w : World) (offset now : Float) (id other : ActorId) (actor : Actor)
    (cursor : Cursor) (block : Block) (program : Program) (wall : Option Axis) : Prop where
  next_eq : (w.awake now).scene.nextBlock id = some (cursor, block)
  heading_eq : (w.scene.cursors.get? id).map (·.heading) = some cursor.heading
  before_eq : w.scene.actors.get? id = some actor
  after_eq : (w.tick offset now).1.scene.actors.get? id = some actor
  other_eq : w.scene.programs.get? other = some program
  program_eq : (w.tick offset now).1.scene.programs.get? id = some program
  wall_eq : wall =
    Proposal.wall w.scene.bounds (Proposal.target actor cursor.heading block).x
      (Proposal.target actor cursor.heading block).y
  bounce_eq : (w.tick offset now).2.bounces.filter (·.actor = id) = wall.toList.map (⟨id, ·⟩)
  cursor_eq : (w.tick offset now).1.scene.cursors.get? id = some {
    position := if block.isRestart then 0 else 1
    heading := if wall.isSome then cursor.heading.flipped else cursor.heading
    length := program.length }

section Contact

variable {c : Contact} {p q : Proposal} {isSecond : Bool}

theorem mem_proposals_of_sides (mem : c ∈ w.contacts offset now)
    (sides : (p, q) = if isSecond then (c.second, c.first) else (c.first, c.second)) :
    p ∈ w.proposals offset now ∧ q ∈ w.proposals offset now ∧
      (p.turn = c.first.turn ∨ p.turn = c.second.turn) := by
  have joins := joins_of_mem_contacts mem
  cases isSecond <;> cases sides
  · exact ⟨joins.first_mem, joins.second_mem, .inl rfl⟩
  · exact ⟨joins.second_mem, joins.first_mem, .inr rfl⟩

/-- What becomes of a role that is in a contact. -/
theorem Outcome.eq_of_contact {r : Role} (outcome : w.Outcome offset now p.turn r)
    (mem : c ∈ w.contacts offset now)
    (sides : (p, q) = if isSecond then (c.second, c.first) else (c.first, c.second)) :
    r = ((w.role p.turn).release.takeOver (w.role q.turn).program isSecond).commit p.revert := by
  obtain ⟨proposed, -, member⟩ := mem_proposals_of_sides mem sides
  have found := mem_proposals_iff.1 proposed
  cases outcome with
  | rests other | speaks other =>
    rw [found] at other
    cases other
  | moves _ apart => exact absurd (Contact.mem_turns_iff.2 ⟨c, mem, member⟩) apart
  | @collides d p' q' isSecond' mem' sides' found' _ =>
    obtain rfl : p = p' := Act.motion.inj (Option.some.inj (found.symm.trans found'))
    obtain ⟨-, -, member'⟩ := mem_proposals_of_sides mem' sides'
    obtain rfl : c = d :=
      Contact.eq_of_mem_turns (w.nodup_turns_contacts offset now) mem mem' member member'
    have differ : c.first ≠ c.second := by
      intro same
      exact ActorId.ne_of_lt (joins_of_mem_contacts mem).less (congrArg Proposal.turn same)
    -- The two members of a contact differ, so both views of it are from the same side.
    cases isSecond <;> cases isSecond' <;> cases sides <;>
      obtain ⟨side, rfl⟩ := Prod.mk.inj sides'
    · rfl
    · exact absurd side differ
    · exact absurd side.symm differ
    · rfl

/-- The cursor after a program has been taken over and a block performed. -/
theorem cursor_takeOver_commit {r : Role} {cursor : Cursor} {program : Program}
    (cursor_eq : r.cursor = some cursor) (nonempty : 0 < program.length) :
    ((r.takeOver (some program) isSecond).commit p).cursor =
      some ⟨if p.restarts then 0 else 1, p.heading, program.length⟩ := by
  have first : min (0 + 1) program.length = 1 := by omega
  simp [Role.takeOver, Role.commit, cursor_eq, Cursor.rewind, Cursor.advance, first]

/-- The bounces that a report names for an actor that moves. -/
theorem Keyed.filter_bounces (keyed : w.Keyed)
    (found : (w.awake now).actOf offset now id = some (.motion p)) :
    (w.tick offset now).2.bounces.filter (·.actor = id) = p.bounce.toList.map (⟨id, ·⟩) := by
  obtain rfl : p.turn = id := turn_of_actOf found
  have about := congrArg Report.bounces (keyed.about_tick offset now p.turn)
  rw [found] at about
  refine about.trans ?_
  cases wall : p.bounce <;> simp [Act.proposal?, wall]

/-- Waking up does not turn an actor around. -/
theorem heading_awake (w : World) (now : Float) (id : ActorId) :
    ((w.awake now).role id).cursor.map (·.heading) = (w.role id).cursor.map (·.heading) := by
  rw [role_awake]
  split
  · rw [Role.wake, Option.map_map]
    rfl
  · rfl

theorem Keyed.takesOver_of_contact (keyed : w.Keyed) (isSecond : Bool)
    (mem : c ∈ (w.awake now).contacts offset now)
    (sides : (p, q) = if isSecond then (c.second, c.first) else (c.first, c.second)) :
    ∃ actor cursor block program wall,
      w.TakesOver offset now p.turn q.turn actor cursor block program wall := by
  obtain ⟨first, second, -⟩ := mem_proposals_of_sides mem sides
  have found := mem_proposals_iff.1 first
  obtain ⟨actor, cursor, program, block, ready, -, own⟩ := actOf_eq_motion found
  obtain ⟨_, cursor', program', _, other, -⟩ := actOf_eq_motion (mem_proposals_iff.1 second)
  have role := (keyed.outcome_tick offset now p.turn).eq_of_contact mem sides
  have taken : ((w.awake now).role q.turn).program = some program' := other.program_eq
  rw [taken] at role
  -- The other one is at a block of its program, so this is not empty.
  have nonempty : 0 < program'.length :=
    Nat.zero_lt_of_lt (List.getElem?_eq_some_iff.1 other.block_eq).1
  refine ⟨actor, cursor, block, program', p.bounce, ?_⟩
  exact {
    next_eq := Scene.nextBlock_eq_some_iff.2
      ⟨ready.cursor_eq, ready.not_idle, program, ready.program_eq, ready.block_eq⟩
    heading_eq := by
      change (w.role p.turn).cursor.map (·.heading) = _
      rw [← heading_awake w now, ready.cursor_eq, Option.map_some]
    before_eq := ready.actor_eq
    after_eq := by
      change ((w.tick offset now).1.role p.turn).actor = some actor
      rw [role]
      refine (congrArg (Option.map fun _ => p.before) ready.actor_eq).trans ?_
      rw [own]
      rfl
    other_eq := taken
    program_eq := congrArg Role.program role
    wall_eq := by
      rw [own]
      rfl
    bounce_eq := keyed.filter_bounces found
    cursor_eq := by
      change ((w.tick offset now).1.role p.turn).cursor = _
      rw [role, cursor_takeOver_commit (r := ((w.awake now).role p.turn).release) ready.cursor_eq
        nonempty, own]
      rfl }

end Contact

/-- Both members of a collision take over the program of the other one. -/
theorem Keyed.takesOver (keyed : w.Keyed) :
    ∀ c ∈ (w.tick offset now).2.collisions,
      (∃ actor cursor block program wall,
        w.TakesOver offset now c.first c.second actor cursor block program wall) ∧
      ∃ actor cursor block program wall,
        w.TakesOver offset now c.second c.first actor cursor block program wall := by
  intro collision reported
  rw [keyed.report_tick] at reported
  obtain ⟨c, mem, rfl⟩ := List.mem_map.1 reported
  rw [(keyed.awake now).collision_eq mem]
  exact ⟨keyed.takesOver_of_contact false mem rfl, keyed.takesOver_of_contact true mem rfl⟩

end World

end Playhouse
