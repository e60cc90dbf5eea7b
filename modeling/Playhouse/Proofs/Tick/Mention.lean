import Mathlib.Data.List.Basic
import Playhouse.Proofs.Tick.Outcome

/-!
# What a report says about an id

`Report.about` keeps the entries of a report that name an id. Collisions apart, what a tick reports
about `id` is decided by whether the bubble of `id` has expired and by what `id` does
(`about_tick`).
-/

namespace Playhouse

def BubbleEvent.actor : BubbleEvent → ActorId
  | .shown actor _ => actor
  | .hidden actor => actor

def BubbleEvent.isHidden : BubbleEvent → Bool
  | .shown .. => false
  | .hidden _ => true

/-- Is it one of the two actors that collided? -/
def Collision.involves (c : Collision) (id : ActorId) : Bool :=
  c.first = id || c.second = id

/-- The entries that name an id. -/
def Report.about (r : Report) (id : ActorId) : Report where
  bubbleEvents := r.bubbleEvents.filter (·.actor = id)
  collisions := r.collisions.filter (·.involves id)
  bounces := r.bounces.filter (·.actor = id)
  executed := r.executed.filter (· = id)

theorem filter_eq_of_nodup {l : List ActorId} (nodup : l.Nodup) (id : ActorId) :
    l.filter (· = id) = if id ∈ l then [id] else [] := by
  induction l with
  | nil => rfl
  | cons first rest ih =>
    obtain ⟨fresh, nodup⟩ := List.nodup_cons.1 nodup
    rw [List.filter_cons, ih nodup]
    by_cases same : first = id
    · subst same
      simp [fresh]
    · simp [same, Ne.symm same]

namespace World

variable {w : World} {offset now : Float} {id : ActorId}

theorem filter_speeches (w : World) (offset now : Float) (id : ActorId) :
    (w.speeches offset now).filter (·.1 = id) =
      (w.actOf offset now id).toList.filterMap Act.speech? := by
  unfold speeches
  rw [← filter_acts, List.filter_filterMap, List.filterMap_filter]
  refine List.filterMap_congr fun a _ => ?_
  cases a with
  | speech turn bubble =>
    by_cases same : turn = id <;> simp [Act.speech?, Act.turn, Option.filter, same]
  | motion p => simp [Act.speech?, Option.filter]

theorem filter_proposals (w : World) (offset now : Float) (id : ActorId) :
    (w.proposals offset now).filter (·.turn = id) =
      (w.actOf offset now id).toList.filterMap Act.proposal? := by
  unfold proposals
  rw [← filter_acts, List.filter_filterMap, List.filterMap_filter]
  refine List.filterMap_congr fun a _ => ?_
  cases a with
  | speech turn bubble => simp [Act.proposal?, Option.filter]
  | motion p =>
    by_cases same : p.turn = id <;> simp [Act.proposal?, Act.turn, Option.filter, same]

@[simp] theorem bounce_settle (p : Proposal) : (w.settle offset now p).bounce = p.bounce := by
  unfold settle Proposal.mark
  split <;> rfl

/-- The report, in terms of the parts of a tick. -/
theorem Keyed.report_tick (keyed : w.Keyed) (offset now : Float) :
    (w.tick offset now).2 =
      { bubbleEvents :=
          (w.bubbles.expired now).map BubbleEvent.hidden
            ++ ((w.awake now).speeches offset now).map fun p => .shown p.1 p.2
        collisions := (w.awake now).collisions offset now
        bounces :=
          ((w.awake now).proposals offset now).filterMap fun p => p.bounce.map (⟨p.turn, ·⟩)
        executed := ((w.awake now).proposals offset now).map (·.turn) } := by
  have ids : ∀ p ∈ (w.awake now).proposals offset now,
      ((w.awake now).settle offset now p).after.id = p.turn :=
    fun p => (keyed.awake now).id_settle
  have bounces : (((w.awake now).proposals offset now).map
      ((w.awake now).settle offset now)).filterMap
        (fun p => p.bounce.map fun axis => (⟨p.after.id, axis⟩ : Bounce)) =
      ((w.awake now).proposals offset now).filterMap fun p => p.bounce.map (⟨p.turn, ·⟩) := by
    rw [List.filterMap_map]
    refine List.filterMap_congr fun p mem => ?_
    simp only [Function.comp_apply, bounce_settle, ids p mem]
  have executed : (((w.awake now).proposals offset now).map
      ((w.awake now).settle offset now)).map (·.after.id) =
      ((w.awake now).proposals offset now).map (·.turn) := by
    rw [List.map_map]
    exact List.map_congr_left ids
  rw [← bounces, ← executed, tick_eq]

/-- What a tick reports about an id. -/
theorem Keyed.about_tick (keyed : w.Keyed) (offset now : Float) (id : ActorId) :
    (w.tick offset now).2.about id =
      { bubbleEvents :=
          (if id ∈ w.bubbles.expired now then [.hidden id] else [])
            ++ (((w.awake now).actOf offset now id).toList.filterMap Act.speech?).map
              fun p => .shown p.1 p.2
        collisions := ((w.awake now).collisions offset now).filter (·.involves id)
        bounces :=
          (((w.awake now).actOf offset now id).toList.filterMap Act.proposal?).filterMap
            fun p => p.bounce.map (⟨p.turn, ·⟩)
        executed :=
          (((w.awake now).actOf offset now id).toList.filterMap Act.proposal?).map (·.turn) } := by
  rw [keyed.report_tick, Report.about, ← filter_speeches, ← filter_proposals]
  have hidden : ((w.bubbles.expired now).map BubbleEvent.hidden).filter (·.actor = id) =
      if id ∈ w.bubbles.expired now then [.hidden id] else [] := by
    rw [List.filter_map]
    refine (congrArg (List.map BubbleEvent.hidden)
      (filter_eq_of_nodup (w.bubbles.nodup_expired now) id)).trans ?_
    split <;> rfl
  have bounces : (((w.awake now).proposals offset now).filterMap fun p =>
      p.bounce.map fun axis => (⟨p.turn, axis⟩ : Bounce)).filter (·.actor = id) =
        (((w.awake now).proposals offset now).filter (·.turn = id)).filterMap
          fun p => p.bounce.map (⟨p.turn, ·⟩) := by
    rw [List.filter_filterMap, List.filterMap_filter]
    refine List.filterMap_congr fun p _ => ?_
    cases p.bounce with
    | none => simp
    | some axis => simp [Option.filter]
  congr 1
  · rw [List.filter_append, hidden, List.filter_map]
    rfl
  · rw [List.filter_map]
    rfl

theorem Keyed.shown_mem_iff (keyed : w.Keyed) {bubble : Bubble} :
    .shown id bubble ∈ (w.tick offset now).2.bubbleEvents ↔
      (w.awake now).actOf offset now id = some (.speech id bubble) := by
  rw [keyed.report_tick, ← mem_speeches_iff]
  simp

theorem Keyed.hidden_mem_iff (keyed : w.Keyed) :
    .hidden id ∈ (w.tick offset now).2.bubbleEvents ↔ id ∈ w.bubbles.expired now := by
  rw [keyed.report_tick]
  simp

theorem Keyed.mem_executed_iff (keyed : w.Keyed) :
    id ∈ (w.tick offset now).2.executed ↔
      ∃ p, (w.awake now).actOf offset now id = some (.motion p) := by
  rw [keyed.report_tick, List.mem_map]
  constructor
  · rintro ⟨p, mem, rfl⟩
    exact ⟨p, mem_proposals_iff.1 mem⟩
  · rintro ⟨p, found⟩
    obtain rfl : p.turn = id := turn_of_actOf found
    exact ⟨p, mem_proposals_iff.2 found, rfl⟩

end World

end Playhouse
