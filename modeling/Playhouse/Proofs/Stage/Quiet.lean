import Playhouse.Proofs.Stage.Reachable
import Playhouse.Proofs.Tick.Interference

/-!
# Quiet ticks

A tick in which nothing happens changes one thing at most: whoever was held is held no longer
(`tick_of_isQuiet`). So a second one after it changes nothing. The release of an actor is no event,
hence a tick can be quiet and change the world (`released_quietly`).
-/

namespace Playhouse

theorem Report.isQuiet_iff {r : Report} :
    r.isQuiet = true ↔
      r.bubbleEvents = [] ∧ r.collisions = [] ∧ r.bounces = [] ∧ r.executed = [] := by
  simp [isQuiet, and_assoc]

namespace World

variable {w : World} {offset now : Float}

/-- The world with nobody held. -/
def released (w : World) : World :=
  { w with scene.held := ∅ }

theorem awake_of_none_expired (none : w.bubbles.expired now = []) : w.awake now = w := by
  rw [awake, Bubbles.expire, none]
  rfl

theorem play_of_still (silent : w.speeches offset now = []) (still : w.proposals offset now = []) :
    w.play offset now = w.released := by
  have scene : (w.moved offset now).scene = { w.scene with held := ∅ } := by
    rw [moved, exchanged, collisions, contacts, still]
    rfl
  rw [play, scene, silent]
  rfl

theorem acts_eq_nil_iff :
    w.acts offset now = [] ↔ w.speeches offset now = [] ∧ w.proposals offset now = [] := by
  constructor
  · intro nothing
    rw [speeches, proposals, nothing]
    exact ⟨rfl, rfl⟩
  · rintro ⟨silent, still⟩
    rw [List.eq_nil_iff_forall_not_mem]
    intro a mem
    cases a with
    | speech turn bubble =>
      have said : (turn, bubble) ∈ w.speeches offset now := List.mem_filterMap.2 ⟨_, mem, rfl⟩
      rw [silent] at said
      cases said
    | motion p =>
      have proposed : p ∈ w.proposals offset now := List.mem_filterMap.2 ⟨_, mem, rfl⟩
      rw [still] at proposed
      cases proposed

/-- In a quiet tick no bubble goes and nobody acts. -/
theorem isQuiet_tick_iff :
    (w.tick offset now).2.isQuiet = true ↔
      w.bubbles.expired now = [] ∧ (w.awake now).acts offset now = [] := by
  rw [Report.isQuiet_iff, acts_eq_nil_iff, tick_eq]
  simp only [List.append_eq_nil_iff, List.map_eq_nil_iff]
  constructor
  · rintro ⟨⟨none, silent⟩, -, -, still⟩
    exact ⟨none, silent, still⟩
  · rintro ⟨none, silent, still⟩
    have apart : (w.awake now).collisions offset now = [] := by
      rw [collisions, contacts, still]
      rfl
    exact ⟨⟨none, silent⟩, apart, by rw [still]; rfl, still⟩

theorem tick_of_isQuiet_eq (quiet : (w.tick offset now).2.isQuiet = true) :
    (w.tick offset now).1 = w.released := by
  obtain ⟨none, nothing⟩ := isQuiet_tick_iff.1 quiet
  obtain ⟨silent, still⟩ := acts_eq_nil_iff.1 nothing
  rw [tick_eq_play, play_of_still silent still, awake_of_none_expired none]

theorem released_eq_iff : w.released = w ↔ w.scene.held = ∅ := by
  constructor
  · intro same
    rw [← same]
    rfl
  · intro free
    obtain ⟨⟨bounds, actors, cursors, programs, held, nextId⟩, bubbles⟩ := w
    cases free
    rfl

/-- A quiet tick releases whoever was held and does nothing else, so it changes nothing if nobody
was, and neither does a quiet tick after it. -/
theorem tick_of_isQuiet (quiet : (w.tick offset now).2.isQuiet = true) :
    (w.tick offset now).1 = w.released ∧ ((w.tick offset now).1 = w ↔ w.scene.held = ∅) ∧
      ∀ later, ((w.tick offset now).1.tick offset later).2.isQuiet = true →
        ((w.tick offset now).1.tick offset later).1 = (w.tick offset now).1 := by
  rw [tick_of_isQuiet_eq quiet]
  refine ⟨rfl, released_eq_iff, fun later quiet => ?_⟩
  rw [tick_of_isQuiet_eq quiet]
  exact released_eq_iff.2 rfl

end World

namespace Stage

/-- Two actors have collided and come to the end of their programs. The second one is held. -/
def bumped : Stage :=
  (((((fresh .default).addActorAt 100.0 100.0).1.addActorAt 200.0 100.0).1.install ⟨0⟩
    [.move 0.0 0.0]).install ⟨1⟩ [.move (-10.0) 0.0]).start.tick.1

theorem reachable_bumped : bumped.Reachable := by
  have new : (fresh .default).Reachable := reachable_fresh rfl
  have first := new.act (.addActorAt 100.0 100.0) rfl rfl
  have second := first.act (.addActorAt 200.0 100.0) rfl rfl
  have waiting := second.act (.install ⟨0⟩ [.move 0.0 0.0]) rfl rfl
  have moving := waiting.act (.install ⟨1⟩ [.move (-10.0) 0.0]) rfl rfl
  exact (moving.act .start rfl rfl).act .tick rfl rfl

set_option maxRecDepth 4000 in
theorem tick_of_isQuiet_bumped :
    (bumped.world.tick bumped.offset bumped.time).2.isQuiet = true ∧
      (bumped.world.tick bumped.offset bumped.time).1 = bumped.world.released := by
  have quiet : (bumped.world.tick bumped.offset bumped.time).2.isQuiet = true := by decide +kernel
  exact ⟨quiet, (World.tick_of_isQuiet quiet).1⟩

set_option maxRecDepth 4000 in
/-- The second actor of `bumped` is released in a tick in which nothing happens. -/
theorem released_quietly :
    ¬ ∀ s : Stage, s.Reachable → ∀ now, (s.world.tick s.offset now).2.isQuiet = true →
      (s.world.tick s.offset now).1 = s.world := by
  intro unchanged
  have quiet : (bumped.world.tick bumped.offset bumped.time).2.isQuiet = true := by decide +kernel
  have same := unchanged bumped reachable_bumped bumped.time quiet
  have held : bumped.world.scene.held.contains ⟨1⟩ = true := by decide +kernel
  have free : (bumped.world.tick bumped.offset bumped.time).1.scene.held.contains ⟨1⟩ = false := by
    decide +kernel
  rw [same, held] at free
  cases free

end Stage

end Playhouse
