import Playhouse.Proofs.Tick.Act
import Playhouse.Proofs.Tick.Sweep

/-!
# The parts of a tick

Once its bubbles have expired a world plays a tick in three parts: programs change hands
(`World.exchanged`), proposals are committed (`World.moved`) and bubbles appear (`World.play`). For
each of them lemmas say what becomes of a single role.

They are about worlds that are `Keyed`, where actors are stored under their own ids.
-/

namespace Playhouse

/-! ## Single steps -/

section Single

variable {s : Scene} {b : Bubbles} {id : ActorId}

theorem role_commit (s : Scene) (b : Bubbles) (p : Proposal) (id : ActorId) :
    World.role ⟨s.commit p, b⟩ id =
      if p.after.id = id then (World.role ⟨s, b⟩ id).commit p else World.role ⟨s, b⟩ id := by
  unfold World.role Scene.commit
  simp only [IdMap.replace, IdMap.get?_adjust]
  split <;> rfl

theorem role_put (s : Scene) (b : Bubbles) (key : ActorId) (new : Bubble) (id : ActorId) :
    World.role ⟨s, b.put key new⟩ id =
      if key = id then (World.role ⟨s, b⟩ id).speak new else World.role ⟨s, b⟩ id := by
  unfold World.role Bubbles.put Bubbles.isPaused
  simp only [IdMap.get?_insert, IdSet.contains_insert]
  split
  · rename_i same
    simp [Role.speak, same]
  · rename_i other
    simp [other]

theorem get?_programs_exchange (s : Scene) (c : Collision) :
    (s.exchange c).programs.get? id =
      if id = c.first then s.programs.get? c.second
      else if id = c.second then s.programs.get? c.first
      else s.programs.get? id :=
  Programs.get?_swap s.programs c.first c.second id

theorem get?_cursors_exchange (s : Scene) {c : Collision} (differ : c.first ≠ c.second) :
    (s.exchange c).cursors.get? id =
      if id = c.first then (s.cursors.get? id).map (·.rewind (s.programs.lengthOf c.second))
      else if id = c.second then (s.cursors.get? id).map (·.rewind (s.programs.lengthOf c.first))
      else s.cursors.get? id := by
  have first : (s.programs.swap c.first c.second).lengthOf c.first =
      s.programs.lengthOf c.second := by
    rw [Programs.lengthOf, Programs.get?_swap, if_pos rfl, Programs.lengthOf]
  have second : (s.programs.swap c.first c.second).lengthOf c.second =
      s.programs.lengthOf c.first := by
    rw [Programs.lengthOf, Programs.get?_swap, if_neg differ.symm, if_pos rfl, Programs.lengthOf]
  simp only [Scene.exchange, Scene.rewind, IdMap.get?_adjust, first, second]
  grind

theorem contains_held_exchange (s : Scene) (c : Collision) :
    (s.exchange c).held.contains id = (decide (c.second = id) || s.held.contains id) :=
  IdSet.contains_insert s.held c.second id

theorem role_exchange_other {c : Collision} (differ : c.first ≠ c.second) (first : id ≠ c.first)
    (second : id ≠ c.second) : World.role ⟨s.exchange c, b⟩ id = World.role ⟨s, b⟩ id := by
  unfold World.role
  rw [get?_programs_exchange, if_neg first, if_neg second]
  rw [get?_cursors_exchange s differ, if_neg first, if_neg second]
  rw [contains_held_exchange, decide_eq_false second.symm, Bool.false_or]
  rfl

theorem role_exchange_first {c : Collision} (differ : c.first ≠ c.second) :
    World.role ⟨s.exchange c, b⟩ c.first =
      (World.role ⟨s, b⟩ c.first).takeOver (s.programs.get? c.second) false := by
  unfold World.role
  rw [get?_programs_exchange, if_pos rfl, get?_cursors_exchange s differ, if_pos rfl]
  rw [contains_held_exchange, decide_eq_false differ.symm, Bool.false_or]
  rw [Role.takeOver, Bool.or_false]
  rfl

theorem role_exchange_second {c : Collision} (differ : c.first ≠ c.second) :
    World.role ⟨s.exchange c, b⟩ c.second =
      (World.role ⟨s, b⟩ c.second).takeOver (s.programs.get? c.first) true := by
  unfold World.role
  rw [get?_programs_exchange, if_neg differ.symm, if_pos rfl]
  rw [get?_cursors_exchange s differ, if_neg differ.symm, if_pos rfl]
  rw [contains_held_exchange, decide_eq_true rfl, Bool.true_or]
  rw [Role.takeOver, Bool.or_true]
  rfl

end Single

/-! ## The parts of a tick -/

namespace World

variable {w : World} {offset now : Float} {id : ActorId} {p : Proposal} {c : Contact}

/-- Actors are stored under their own ids. -/
def Keyed (w : World) : Prop :=
  ∀ id actor, w.scene.actors.get? id = some actor → actor.id = id

theorem keyed_iff : w.Keyed ↔ ∀ p ∈ w.scene.actors.entries, p.2.id = p.1 := by
  constructor
  · intro keyed p mem
    exact keyed p.1 p.2 (IdMap.mem_entries_iff.1 mem)
  · intro keyed id actor found
    exact keyed (id, actor) (IdMap.mem_entries_iff.2 found)

instance (w : World) : Decidable w.Keyed :=
  decidable_of_iff _ keyed_iff.symm

def speeches (w : World) (offset now : Float) : List (ActorId × Bubble) :=
  (w.acts offset now).filterMap Act.speech?

def proposals (w : World) (offset now : Float) : List Proposal :=
  (w.acts offset now).filterMap Act.proposal?

def contacts (w : World) (offset now : Float) : List Contact :=
  Contact.among w.scene.bounds [] (w.proposals offset now)

/-- What is left of a proposal after all collisions. -/
def settle (w : World) (offset now : Float) (p : Proposal) : Proposal :=
  p.mark (Contact.turns (w.contacts offset now))

def collisions (w : World) (offset now : Float) : List Collision :=
  (w.contacts offset now).map Contact.collision

/-- The programs have changed hands. -/
def exchanged (w : World) (offset now : Float) : World :=
  ⟨(w.collisions offset now).foldl Scene.exchange { w.scene with held := ∅ }, w.bubbles⟩

/-- The poses, headings and cursors have been taken over. -/
def moved (w : World) (offset now : Float) : World :=
  ⟨((w.proposals offset now).map (w.settle offset now)).foldl Scene.commit
    (w.exchanged offset now).scene, w.bubbles⟩

/-- The new bubbles have appeared. -/
def play (w : World) (offset now : Float) : World :=
  ⟨(w.moved offset now).scene,
    (w.speeches offset now).foldl (fun bubbles p => bubbles.put p.1 p.2) w.bubbles⟩

/-! ### Speeches and proposals -/

theorem mem_speeches_iff {bubble : Bubble} :
    (id, bubble) ∈ w.speeches offset now ↔ w.actOf offset now id = some (.speech id bubble) := by
  unfold speeches
  rw [List.mem_filterMap]
  constructor
  · rintro ⟨a, mem, found⟩
    cases a with
    | speech turn said =>
      cases found
      exact mem_acts_iff.1 mem
    | motion p => cases found
  · intro found
    exact ⟨.speech id bubble, mem_acts_iff.2 found, rfl⟩

theorem pairwise_speeches (w : World) (offset now : Float) :
    (w.speeches offset now).Pairwise fun p q => p.1 < q.1 := by
  unfold speeches
  rw [List.pairwise_filterMap]
  refine (w.pairwise_acts offset now).imp ?_
  intro a b less p hp q hq
  cases a with
  | motion _ => cases hp
  | speech _ _ =>
    cases b with
    | motion _ => cases hq
    | speech _ _ =>
      cases hp
      cases hq
      exact less

theorem mem_proposals_iff :
    p ∈ w.proposals offset now ↔ w.actOf offset now p.turn = some (.motion p) := by
  unfold proposals
  rw [List.mem_filterMap]
  constructor
  · rintro ⟨a, mem, found⟩
    cases a with
    | speech turn said => cases found
    | motion q =>
      cases found
      exact mem_acts_iff.1 mem
  · intro found
    exact ⟨.motion p, mem_acts_iff.2 found, rfl⟩

theorem pairwise_proposals (w : World) (offset now : Float) :
    (w.proposals offset now).Pairwise fun p q => p.turn < q.turn := by
  unfold proposals
  rw [List.pairwise_filterMap]
  refine (w.pairwise_acts offset now).imp ?_
  intro a b less p hp q hq
  cases a with
  | speech _ _ => cases hp
  | motion _ =>
    cases b with
    | speech _ _ => cases hq
    | motion _ =>
      cases hp
      cases hq
      exact less

theorem nodup_proposals (w : World) (offset now : Float) : (w.proposals offset now).Nodup := by
  refine (w.pairwise_proposals offset now).imp ?_
  intro p q less same
  exact ActorId.ne_of_lt less (congrArg Proposal.turn same)

theorem eq_of_mem_proposals {q : Proposal} (hp : p ∈ w.proposals offset now)
    (hq : q ∈ w.proposals offset now) (same : p.turn = q.turn) : p = q := by
  have found := mem_proposals_iff.1 hp
  rw [same, mem_proposals_iff.1 hq] at found
  exact (Act.motion.inj (Option.some.inj found)).symm

theorem collided_of_mem_proposals (mem : p ∈ w.proposals offset now) : p.collided = false := by
  obtain ⟨actor, cursor, program, block, -, -, same⟩ := actOf_eq_motion (mem_proposals_iff.1 mem)
  rw [same]
  rfl

/-- In a keyed world a proposal is about the actor whose turn it is. -/
theorem Keyed.id_of_mem_proposals (keyed : w.Keyed) (mem : p ∈ w.proposals offset now) :
    p.before.id = p.turn ∧ p.after.id = p.turn := by
  obtain ⟨actor, cursor, program, block, ready, -, same⟩ :=
    actOf_eq_motion (mem_proposals_iff.1 mem)
  have id : actor.id = p.turn := keyed p.turn actor ready.actor_eq
  rw [same]
  exact ⟨id, id⟩

theorem Keyed.id_settle (keyed : w.Keyed) (mem : p ∈ w.proposals offset now) :
    (w.settle offset now p).after.id = p.turn := by
  obtain ⟨before, after⟩ := keyed.id_of_mem_proposals mem
  unfold settle Proposal.mark
  split
  · exact before
  · exact after

/-! ### Contacts -/

theorem sweep_eq (w : World) (offset now : Float) :
    Sweep.through w.scene.bounds (w.proposals offset now) =
      ⟨(w.proposals offset now).map (w.settle offset now), w.collisions offset now⟩ :=
  Sweep.through_eq (w.pairwise_proposals offset now) fun _ => collided_of_mem_proposals

theorem tick_eq (w : World) (offset now : Float) :
    w.tick offset now =
      ((w.awake now).play offset now,
        { bubbleEvents :=
            (w.bubbles.expired now).map BubbleEvent.hidden
              ++ ((w.awake now).speeches offset now).map fun p => .shown p.1 p.2
          collisions := (w.awake now).collisions offset now
          bounces :=
            (((w.awake now).proposals offset now).map
              ((w.awake now).settle offset now)).filterMap
                fun p => p.bounce.map fun axis => ⟨p.after.id, axis⟩
          executed :=
            (((w.awake now).proposals offset now).map
              ((w.awake now).settle offset now)).map (·.after.id) }) := by
  have swept := (w.awake now).sweep_eq offset now
  unfold tick
  unfold proposals at swept
  simp only [swept]
  rfl

theorem tick_eq_play (w : World) (offset now : Float) :
    (w.tick offset now).1 = (w.awake now).play offset now := by
  rw [tick_eq]

theorem joins_of_mem_contacts (mem : c ∈ w.contacts offset now) :
    c.Joins [] (w.proposals offset now) :=
  Contact.joins_of_mem_among (w.pairwise_proposals offset now) mem

theorem nodup_turns_contacts (w : World) (offset now : Float) :
    (Contact.turns (w.contacts offset now)).Nodup :=
  Contact.nodup_turns_among (w.pairwise_proposals offset now)

theorem Keyed.collision_eq (keyed : w.Keyed) (mem : c ∈ w.contacts offset now) :
    c.collision = ⟨c.first.turn, c.second.turn, c.side⟩ := by
  have joins := joins_of_mem_contacts mem
  have first := (keyed.id_of_mem_proposals joins.first_mem).2
  have second := (keyed.id_of_mem_proposals joins.second_mem).2
  rw [Contact.collision, first, second]

/-! ### Programs change hands -/

theorem role_released (w : World) (id : ActorId) :
    role ⟨{ w.scene with held := ∅ }, w.bubbles⟩ id = (w.role id).release := rfl

theorem exchanged_eq (w : World) (offset now : Float) :
    w.exchanged offset now =
      ⟨(w.contacts offset now).foldl (fun s c => s.exchange c.collision)
        { w.scene with held := ∅ }, w.bubbles⟩ := by
  rw [exchanged, collisions, List.foldl_map]

theorem Keyed.role_exchanged_of_notMem (keyed : w.Keyed)
    (apart : id ∉ Contact.turns (w.contacts offset now)) :
    (w.exchanged offset now).role id = (w.role id).release := by
  rw [exchanged_eq, ← role_released w id]
  refine foldl_frame (fun s => role ⟨s, w.bubbles⟩ id) ?_ { w.scene with held := ∅ }
  intro s d mem
  have less := (joins_of_mem_contacts mem).less
  rw [Contact.mem_turns_iff] at apart
  rw [keyed.collision_eq mem]
  refine role_exchange_other (ActorId.ne_of_lt less) ?_ ?_
  · intro same
    exact apart ⟨d, mem, .inl same⟩
  · intro same
    exact apart ⟨d, mem, .inr same⟩

/-- A collision changes nothing but the roles of its two actors. -/
theorem Keyed.role_exchange_of_ne (keyed : w.Keyed) {d : Contact}
    (hc : c ∈ w.contacts offset now) (hd : d ∈ w.contacts offset now) (differ : d ≠ c)
    (member : id = c.first.turn ∨ id = c.second.turn) (s : Scene) :
    role ⟨s.exchange d.collision, w.bubbles⟩ id = role ⟨s, w.bubbles⟩ id := by
  have apart : ¬ (id = d.first.turn ∨ id = d.second.turn) := by
    intro shared
    exact differ (Contact.eq_of_mem_turns (w.nodup_turns_contacts offset now) hd hc shared member)
  rw [not_or] at apart
  rw [keyed.collision_eq hd]
  exact role_exchange_other (ActorId.ne_of_lt (joins_of_mem_contacts hd).less) apart.1 apart.2

theorem Keyed.role_exchanged_of_mem (keyed : w.Keyed) (mem : c ∈ w.contacts offset now) :
    (w.exchanged offset now).role c.first.turn =
        (w.role c.first.turn).release.takeOver (w.role c.second.turn).program false ∧
      (w.exchanged offset now).role c.second.turn =
        (w.role c.second.turn).release.takeOver (w.role c.first.turn).program true := by
  have nodup := Contact.nodup_of_nodup_turns (w.nodup_turns_contacts offset now)
  have less := (joins_of_mem_contacts mem).less
  -- Both roles are viewed at once, since each one takes over what the other one has.
  have both := foldl_hit (f := fun s c => s.exchange c.collision)
    (fun s => (role ⟨s, w.bubbles⟩ c.first.turn, role ⟨s, w.bubbles⟩ c.second.turn))
    (fun r => (r.1.takeOver r.2.program false, r.2.takeOver r.1.program true))
    nodup mem ?_ ?_ { w.scene with held := ∅ }
  · rw [exchanged_eq]
    exact ⟨congrArg Prod.fst both, congrArg Prod.snd both⟩
  · intro s
    rw [keyed.collision_eq mem]
    refine Prod.ext ?_ ?_
    · exact role_exchange_first (ActorId.ne_of_lt less)
    · exact role_exchange_second (ActorId.ne_of_lt less)
  · intro s d hd differ
    refine Prod.ext ?_ ?_
    · exact keyed.role_exchange_of_ne mem hd differ (.inl rfl) s
    · exact keyed.role_exchange_of_ne mem hd differ (.inr rfl) s

/-! ### Proposals are committed -/

theorem Keyed.role_moved_of_notMem (keyed : w.Keyed)
    (still : ∀ p ∈ w.proposals offset now, p.turn ≠ id) :
    (w.moved offset now).role id = (w.exchanged offset now).role id := by
  rw [moved, List.foldl_map]
  refine foldl_frame (fun s => role ⟨s, w.bubbles⟩ id) ?_ (w.exchanged offset now).scene
  intro s p mem
  rw [role_commit, keyed.id_settle mem, if_neg (still p mem)]

theorem Keyed.role_moved_of_mem (keyed : w.Keyed) (mem : p ∈ w.proposals offset now) :
    (w.moved offset now).role p.turn =
      ((w.exchanged offset now).role p.turn).commit (w.settle offset now p) := by
  rw [moved, List.foldl_map]
  refine foldl_hit (fun s => role ⟨s, w.bubbles⟩ p.turn) (·.commit (w.settle offset now p))
    (w.nodup_proposals offset now) mem ?_ ?_ (w.exchanged offset now).scene
  · intro s
    rw [role_commit, keyed.id_settle mem, if_pos rfl]
  · intro s q hq differ
    rw [role_commit, keyed.id_settle hq, if_neg]
    intro same
    exact differ (eq_of_mem_proposals hq mem same)

/-! ### Bubbles appear -/

theorem role_play_of_notMem (silent : ∀ bubble, (id, bubble) ∉ w.speeches offset now) :
    (w.play offset now).role id = (w.moved offset now).role id := by
  refine foldl_frame (fun b => role ⟨(w.moved offset now).scene, b⟩ id) ?_ w.bubbles
  intro b p mem
  rw [role_put, if_neg]
  rintro rfl
  exact silent p.2 mem

theorem role_play_of_mem {bubble : Bubble} (mem : (id, bubble) ∈ w.speeches offset now) :
    (w.play offset now).role id = ((w.moved offset now).role id).speak bubble := by
  have nodup : (w.speeches offset now).Nodup := by
    refine (w.pairwise_speeches offset now).imp ?_
    intro p q less same
    exact ActorId.ne_of_lt less (congrArg Prod.fst same)
  refine foldl_hit (fun b => role ⟨(w.moved offset now).scene, b⟩ id) (·.speak bubble) nodup mem
    ?_ ?_ w.bubbles
  · intro b
    rw [role_put, if_pos rfl]
  · intro b p hp differ
    rw [role_put, if_neg]
    rintro rfl
    -- An id speaks once, so both entries hold the same bubble.
    have found := mem_speeches_iff.1 hp
    rw [mem_speeches_iff.1 mem] at found
    cases found
    exact differ rfl

end World

end Playhouse
