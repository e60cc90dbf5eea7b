import Playhouse.Proofs.Tick.Mention

/-!
# Collisions as a greedy matching

A `Mover` is an actor with the box that it proposes. `Matching.greedy` goes through all pairs of
movers in lexicographic order and takes a pair if the two boxes overlap and neither actor is in a
pair that was taken before.

For movers in ascending order the pairs that are taken are ascending (`first_lt_second`) and have
no actor in common (`nodup_members`), and of two movers that overlap at least one is taken
(`mem_members_of_overlaps`). The collisions of a tick are the greedy matching of its movers
(`World.Keyed.collisions_tick`).
-/

namespace Playhouse

/-- An actor and the box that it proposes. -/
structure Mover where
  id : ActorId
  box : Box

/-- Whose turn it is, with the proposed box. -/
def Proposal.mover (bounds : Bounds) (p : Proposal) : Mover :=
  ⟨p.turn, p.box bounds⟩

namespace Matching

/-- All pairs of an earlier and a later member of a list, in lexicographic order. -/
def pairs {α : Type} : List α → List (α × α)
  | [] => []
  | a :: later => later.map (a, ·) ++ pairs later

/-- The actors in some collision. -/
def members (chosen : List Collision) : List ActorId :=
  chosen.flatMap fun c => [c.first, c.second]

/-- Takes a pair if the two boxes overlap and neither actor is in a pair taken before. -/
def take (chosen : List Collision) (pair : Mover × Mover) : List Collision :=
  if pair.1.box.overlaps pair.2.box ∧ pair.1.id ∉ members chosen ∧ pair.2.id ∉ members chosen then
    chosen ++ ((pair.1.box.contactSide pair.2.box).map (⟨pair.1.id, pair.2.id, ·⟩)).toList
  else chosen

def greedy (movers : List Mover) : List Collision :=
  (pairs movers).foldl take []

/-! ## Pairs -/

section Pairs

variable {α : Type} {l : List α}

theorem forall_mem_pairs {R : α → α → Prop} (ordered : l.Pairwise R) :
    ∀ pair ∈ pairs l, R pair.1 pair.2 := by
  induction l with
  | nil => nofun
  | cons a later ih =>
    obtain ⟨first, rest⟩ := List.pairwise_cons.1 ordered
    intro pair mem
    rcases List.mem_append.1 mem with mem | mem
    · obtain ⟨b, there, rfl⟩ := List.mem_map.1 mem
      exact first b there
    · exact ih rest pair mem

theorem mem_pairs_or_mem_pairs {a b : α} (ha : a ∈ l) (hb : b ∈ l) (differ : a ≠ b) :
    (a, b) ∈ pairs l ∨ (b, a) ∈ pairs l := by
  induction l with
  | nil => cases ha
  | cons c later ih =>
    rcases List.mem_cons.1 ha with rfl | first
    · have later := (List.mem_cons.1 hb).resolve_left (Ne.symm differ)
      exact .inl (List.mem_append_left _ (List.mem_map_of_mem later))
    · rcases List.mem_cons.1 hb with rfl | second
      · exact .inr (List.mem_append_left _ (List.mem_map_of_mem first))
      · exact (ih first second).imp (List.mem_append_right _) (List.mem_append_right _)

end Pairs

/-! ## What is taken -/

section Take

variable {chosen : List Collision} {p q : Mover} {pair : Mover × Mover} {l : List (Mover × Mover)}
  {movers : List Mover} {c : Collision} {side : Side} {id : ActorId}

theorem members_concat : members (chosen ++ [c]) = members chosen ++ [c.first, c.second] := by
  simp [members]

theorem take_of_busy (busy : p.id ∈ members chosen ∨ q.id ∈ members chosen) :
    take chosen (p, q) = chosen := by
  refine if_neg ?_
  rintro ⟨-, first, second⟩
  exact busy.elim first second

theorem take_of_apart (apart : p.box.contactSide q.box = none) : take chosen (p, q) = chosen := by
  refine if_neg ?_
  rintro ⟨overlap, -⟩
  rw [← Box.isSome_contactSide, apart] at overlap
  cases overlap

theorem take_of_contact (contact : p.box.contactSide q.box = some side)
    (first : p.id ∉ members chosen) (second : q.id ∉ members chosen) :
    take chosen (p, q) = chosen ++ [⟨p.id, q.id, side⟩] := by
  have overlap : p.box.overlaps q.box = true := by
    rw [← Box.isSome_contactSide, contact]
    rfl
  rw [take, if_pos ⟨overlap, first, second⟩, contact]
  rfl

/-- A pair is passed over, or it is taken and was free. -/
theorem take_cases (chosen : List Collision) (p q : Mover) :
    (take chosen (p, q) = chosen ∧
        (p.box.overlaps q.box = true → p.id ∈ members chosen ∨ q.id ∈ members chosen)) ∨
      ∃ side, p.id ∉ members chosen ∧ q.id ∉ members chosen ∧
        take chosen (p, q) = chosen ++ [⟨p.id, q.id, side⟩] := by
  by_cases busy : p.id ∈ members chosen ∨ q.id ∈ members chosen
  · exact .inl ⟨take_of_busy busy, fun _ => busy⟩
  · obtain ⟨first, second⟩ := not_or.1 busy
    cases contact : p.box.contactSide q.box with
    | none =>
      refine .inl ⟨take_of_apart contact, fun overlap => ?_⟩
      rw [← Box.isSome_contactSide, contact] at overlap
      cases overlap
    | some side => exact .inr ⟨side, first, second, take_of_contact contact first second⟩

theorem members_subset_take (mem : id ∈ members chosen) : id ∈ members (take chosen pair) := by
  rcases take_cases chosen pair.1 pair.2 with ⟨same, -⟩ | ⟨side, -, -, more⟩
  · rwa [same]
  · rw [more, members_concat]
    exact List.mem_append_left _ mem

theorem members_subset_foldl (mem : id ∈ members chosen) : id ∈ members (l.foldl take chosen) := by
  induction l generalizing chosen with
  | nil => exact mem
  | cons pair l ih => exact ih (members_subset_take mem)

theorem mem_members_of_mem (mem : pair ∈ l) (overlap : pair.1.box.overlaps pair.2.box = true) :
    pair.1.id ∈ members (l.foldl take chosen) ∨ pair.2.id ∈ members (l.foldl take chosen) := by
  induction l generalizing chosen with
  | nil => cases mem
  | cons other l ih =>
    rcases List.mem_cons.1 mem with rfl | mem
    · rw [List.foldl_cons]
      rcases take_cases chosen pair.1 pair.2 with ⟨same, busy⟩ | ⟨side, -, -, more⟩
      · rw [same]
        exact (busy overlap).imp members_subset_foldl members_subset_foldl
      · refine .inl (members_subset_foldl ?_)
        rw [more, members_concat]
        simp
    · exact ih mem

/-- Of two movers that overlap at least one is in a collision. -/
theorem mem_members_of_overlaps (hp : p ∈ movers) (hq : q ∈ movers)
    (differ : p.id ≠ q.id) (overlap : p.box.overlaps q.box = true) :
    p.id ∈ members (greedy movers) ∨ q.id ∈ members (greedy movers) := by
  have other : p ≠ q := fun same => differ (congrArg Mover.id same)
  rcases mem_pairs_or_mem_pairs hp hq other with mem | mem
  · exact mem_members_of_mem mem overlap
  · rw [Box.overlaps_comm] at overlap
    exact (mem_members_of_mem mem overlap).symm

/-- What a pair that is taken keeps, given what is known of the pairs. -/
theorem foldl_take_of_kept {I : List Collision → Prop} {R : Mover → Mover → Prop}
    (known : ∀ pair ∈ l, R pair.1 pair.2)
    (kept : ∀ chosen p q side, R p q → p.id ∉ members chosen → q.id ∉ members chosen → I chosen →
      I (chosen ++ [⟨p.id, q.id, side⟩]))
    (holds : I chosen) : I (l.foldl take chosen) := by
  induction l generalizing chosen with
  | nil => exact holds
  | cons pair l ih =>
    obtain ⟨first, rest⟩ := List.forall_mem_cons.1 known
    refine ih rest ?_
    rcases take_cases chosen pair.1 pair.2 with ⟨same, -⟩ | ⟨side, free, free', more⟩
    · rwa [same]
    · rw [more]
      exact kept chosen pair.1 pair.2 side first free free' holds

variable (ordered : movers.Pairwise fun p q => p.id < q.id)
include ordered

theorem first_lt_second : ∀ c ∈ greedy movers, c.first < c.second := by
  refine foldl_take_of_kept (I := fun chosen => ∀ c ∈ chosen, c.first < c.second)
    (forall_mem_pairs ordered) ?_ nofun
  intro chosen p q side less _ _ holds c mem
  rcases List.mem_append.1 mem with mem | mem
  · exact holds c mem
  · obtain rfl := List.mem_singleton.1 mem
    exact less

theorem nodup_members : (members (greedy movers)).Nodup := by
  refine foldl_take_of_kept (I := fun chosen => (members chosen).Nodup)
    (forall_mem_pairs ordered) ?_ List.nodup_nil
  intro chosen p q side less first second holds
  rw [members_concat, List.nodup_append]
  refine ⟨holds, by simpa using ActorId.ne_of_lt less, ?_⟩
  rintro a mem b pair rfl
  simp only [List.mem_cons, List.not_mem_nil, or_false] at pair
  rcases pair with rfl | rfl
  · exact first mem
  · exact second mem

end Take

/-! ## The matching of proposals -/

section Proposals

open Contact

variable {bounds : Bounds} {taken : List ActorId} {chosen : List Collision} {p : Proposal}
  {l others : List Proposal} {c : Contact}

/-- The collision of a contact, named after the turns of its two actors. -/
def ofContact (c : Contact) : Collision :=
  ⟨c.first.turn, c.second.turn, c.side⟩

/-- A mover that is in a pair gets no other one. -/
theorem foldl_take_of_busy {p : Mover} (busy : p.id ∈ members chosen) (later : List Mover) :
    (later.map (p, ·)).foldl take chosen = chosen := by
  induction later with
  | nil => rfl
  | cons q later ih => rw [List.map_cons, List.foldl_cons, take_of_busy (.inl busy), ih]

/-- A free mover gets the first partner that it has. -/
theorem foldl_take_of_free (free : p.turn ∉ members chosen)
    (same : ∀ q ∈ others, q.turn ∈ members chosen ↔ q.turn ∈ taken) :
    ((others.map (·.mover bounds)).map (p.mover bounds, ·)).foldl take chosen =
      chosen ++ ((partner? bounds taken p others).map ofContact).toList := by
  induction others with
  | nil => simp [partner?]
  | cons q others ih =>
    obtain ⟨first, rest⟩ := List.forall_mem_cons.1 same
    rw [List.map_cons, List.map_cons, List.foldl_cons, partner?_cons]
    by_cases busy : q.turn ∈ taken
    · rw [if_pos busy, take_of_busy (.inr (first.2 busy)), ih rest]
    · rw [if_neg busy]
      cases contact : (p.box bounds).contactSide (q.box bounds) with
      | none => rw [take_of_apart (p := p.mover bounds) (q := q.mover bounds) contact, ih rest]
      | some side =>
        rw [take_of_contact (p := p.mover bounds) (q := q.mover bounds) contact free
          (mt first.1 busy), foldl_take_of_busy]
        · rfl
        · rw [members_concat]
          simp [Proposal.mover]

/-- The greedy choice takes the contacts among proposals. -/
theorem foldl_take_pairs (ordered : l.Pairwise fun p q => p.turn < q.turn)
    (same : ∀ q ∈ l, q.turn ∈ members chosen ↔ q.turn ∈ taken) :
    (pairs (l.map (·.mover bounds))).foldl take chosen =
      chosen ++ (among bounds taken l).map ofContact := by
  induction l generalizing taken chosen with
  | nil => simp [pairs, among]
  | cons p others ih =>
    obtain ⟨less, tail⟩ := List.pairwise_cons.1 ordered
    obtain ⟨first, rest⟩ := List.forall_mem_cons.1 same
    rw [List.map_cons, pairs, List.foldl_append, among]
    by_cases busy : p.turn ∈ taken
    · rw [if_pos busy, foldl_take_of_busy (p := p.mover bounds) (first.2 busy), ih tail rest]
    · rw [if_neg busy, foldl_take_of_free (mt first.1 busy) rest]
      cases found : partner? bounds taken p others with
      | none => simpa using ih tail rest
      | some c =>
        obtain ⟨rfl, -, -⟩ := partner?_eq_some found
        -- The first of the two stands before all others, so it makes no difference to them.
        have next : ∀ q ∈ others,
            q.turn ∈ members (chosen ++ [ofContact c]) ↔ q.turn ∈ c.second.turn :: taken := by
          intro q mem
          have differ := (ActorId.ne_of_lt (less q mem)).symm
          rw [members_concat, List.mem_append, rest q mem]
          simp [ofContact, differ, or_comm]
        exact (ih tail next).trans (by simp)

theorem greedy_mover (ordered : l.Pairwise fun p q => p.turn < q.turn) :
    greedy (l.map (·.mover bounds)) = (among bounds [] l).map ofContact := by
  have nobody : ∀ q ∈ l, q.turn ∈ members [] ↔ q.turn ∈ [] := fun _ _ => .rfl
  exact foldl_take_pairs ordered nobody

end Proposals

end Matching

/-! ## Ticks -/

namespace World

variable {w : World} {offset now : Float} {id : ActorId}

/-- The box to which an actor moves, if it is free and at a block other than speech: the one at the
legal position nearest to its goal. -/
def goal? (w : World) (id : ActorId) (actor : Actor) : Option Box :=
  if w.bubbles.isPaused id || w.scene.held.contains id then none
  else
    match w.scene.nextBlock id with
    | none => none
    | some (cursor, block) =>
      if block.isSpeech then none
      else
        let goal := Proposal.target actor cursor.heading block
        some (w.scene.bounds.box ⟨w.scene.bounds.clampX goal.x, w.scene.bounds.clampY goal.y⟩)

/-- The actors that move, in the order of turns. -/
def movers (w : World) : List Mover :=
  w.scene.actors.entries.filterMap fun (id, actor) => (w.goal? id actor).map (⟨id, ·⟩)

theorem goal?_eq (w : World) (offset now : Float) (id : ActorId) (actor : Actor) :
    (w.goal? id actor).map (⟨id, ·⟩) =
      ((w.act offset now id actor).bind Act.proposal?).map (·.mover w.scene.bounds) := by
  unfold goal? act
  split
  · rfl
  · cases w.scene.nextBlock id with
    | none => rfl
    | some found =>
      obtain ⟨cursor, block⟩ := found
      cases block with
      | speak kind text seconds => rfl
      | move _ _ | turn _ | restart =>
        simp only [Option.map_some, Option.bind_some, enact, Act.proposal?, Proposal.mover,
          Proposal.box, Proposal.of, Actor.position, Bounds.clampX_of_isOutsideX,
          Bounds.clampY_of_isOutsideY, Block.isSpeech, Bool.false_eq_true, if_false]

theorem movers_eq (w : World) (offset now : Float) :
    w.movers = (w.proposals offset now).map (·.mover w.scene.bounds) := by
  unfold movers proposals acts
  rw [List.filterMap_filterMap, List.map_filterMap]
  exact List.filterMap_congr fun p _ => w.goal?_eq offset now p.1 p.2

theorem pairwise_movers (w : World) : w.movers.Pairwise fun p q => p.id < q.id := by
  rw [w.movers_eq 0.0 0.0, List.pairwise_map]
  exact w.pairwise_proposals 0.0 0.0

theorem Keyed.executed_tick (keyed : w.Keyed) (offset now : Float) :
    (w.tick offset now).2.executed = (w.awake now).movers.map (·.id) := by
  rw [keyed.report_tick, movers_eq _ offset now, List.map_map]
  rfl

/-- The collisions of a tick are the greedy matching of those that move. -/
theorem Keyed.collisions_tick (keyed : w.Keyed) (offset now : Float) :
    (w.tick offset now).2.collisions = Matching.greedy (w.awake now).movers := by
  rw [keyed.report_tick, movers_eq _ offset now,
    Matching.greedy_mover ((w.awake now).pairwise_proposals offset now)]
  exact List.map_congr_left fun c mem => (keyed.awake now).collision_eq mem

end World

end Playhouse
