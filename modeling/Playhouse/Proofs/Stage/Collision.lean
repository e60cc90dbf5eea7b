import Playhouse.Proofs.Stage.Sound
import Playhouse.Proofs.Tick.Exchange
import Playhouse.Proofs.Tick.Matching

/-!
# Collisions on reachable stages

The collisions of a tick are the greedy matching of the boxes to which actors move
(`collisions_greedy`), and all that they do is to send both actors back and to exchange their
programs (`collisions_exchange`).
-/

namespace Playhouse

namespace Stage

variable {s : Stage}

/-- A tick takes those pairs of actors as collisions that a greedy choice takes: it goes through all
pairs of actors that move, in lexicographic order, and takes one if the boxes overlap to which the
two move and neither of them is in a pair taken before. -/
theorem collisions_greedy (reachable : s.Reachable) (offset now : Float) :
    let movers := (s.world.awake now).movers
    let report := (s.world.tick offset now).2
    report.executed = movers.map (·.id) ∧ movers.Pairwise (fun p q => p.id < q.id) ∧
      report.collisions = Matching.greedy movers ∧
      (∀ c ∈ report.collisions, c.first < c.second) ∧
      (Matching.members report.collisions).Nodup ∧
      ∀ p ∈ movers, ∀ q ∈ movers, p.id ≠ q.id → p.id ∉ Matching.members report.collisions →
        q.id ∉ Matching.members report.collisions → p.box.overlaps q.box = false := by
  intro movers report
  have keyed := reachable.sound.keyed
  have ordered : movers.Pairwise fun p q => p.id < q.id := (s.world.awake now).pairwise_movers
  have greedy : report.collisions = Matching.greedy movers := keyed.collisions_tick offset now
  rw [greedy]
  refine ⟨keyed.executed_tick offset now, ordered, rfl, Matching.first_lt_second ordered,
    Matching.nodup_members ordered, ?_⟩
  intro p hp q hq differ first second
  rw [Bool.eq_false_iff]
  intro overlap
  exact (Matching.mem_members_of_overlaps hp hq differ overlap).elim first second

/-- Five actors. The first three overlap, and the first one is at a restart. The fourth one runs
into the wall and into the fifth one. -/
def crowd : Stage :=
  let entered := [(100.0, 100.0), (150.0, 100.0), (120.0, 100.0), (0.0, 300.0), (50.0, 300.0)].foldl
    (fun s p => (s.addActorAt p.1 p.2).1) (fresh .default)
  let programs : List (ActorId × Program) :=
    [(⟨0⟩, [.restart]), (⟨1⟩, [.move (-10.0) 0.0, .turn 90.0]), (⟨2⟩, [.move 5.0 0.0]),
      (⟨3⟩, [.move (-10.0) 0.0, .restart]), (⟨4⟩, [.turn 45.0])]
  (programs.foldl (fun s p => s.install p.1 p.2) entered).start

theorem reachable_crowd : crowd.Reachable := by
  have new : (fresh .default).Reachable := reachable_fresh rfl
  have entered := List.foldlRecOn (motive := Reachable)
    [(100.0, 100.0), (150.0, 100.0), (120.0, 100.0), (0.0, 300.0), (50.0, 300.0)]
    (fun s p => (s.addActorAt p.1 p.2).1) new fun s before p _ =>
      before.act (.addActorAt p.1 p.2) rfl rfl
  have scripted := List.foldlRecOn (motive := Reachable)
    [(⟨0⟩, [.restart]), (⟨1⟩, [.move (-10.0) 0.0, .turn 90.0]), (⟨2⟩, [.move 5.0 0.0]),
      (⟨3⟩, [.move (-10.0) 0.0, .restart]), (⟨4⟩, [.turn 45.0])]
    (fun s p => s.install p.1 p.2) entered fun s before p _ =>
      before.act (.install p.1 p.2) rfl rfl
  exact scripted.act .start rfl rfl

set_option maxRecDepth 4000 in
/-- In `crowd` the third actor overlaps two others, but both of them have collided already. -/
theorem collisions_greedy_crowd :
    crowd.Reachable ∧
      (crowd.world.tick crowd.offset crowd.time).2.collisions =
        [⟨⟨0⟩, ⟨1⟩, .left⟩, ⟨⟨3⟩, ⟨4⟩, .left⟩] ∧
      (crowd.world.tick crowd.offset crowd.time).2.collisions =
        Matching.greedy (crowd.world.awake crowd.time).movers ∧
      (Matching.members (crowd.world.tick crowd.offset crowd.time).2.collisions).Nodup := by
  obtain ⟨-, -, greedy, -, nodup, -⟩ := collisions_greedy reachable_crowd crowd.offset crowd.time
  exact ⟨reachable_crowd, by decide +kernel, greedy, nodup⟩

/-- A collision leaves both actors where they are, at the start of the program of the other one and
past one block, or at the start if they have performed a restart, and holds the second one. Nothing
else happens to the programs, so no program is ever lost or doubled. -/
theorem collisions_exchange (reachable : s.Reachable) (offset now : Float) :
    let report := (s.world.tick offset now).2
    let after := (s.world.tick offset now).1.scene
    (∀ c ∈ report.collisions,
      (∃ actor cursor block program wall,
        s.world.TakesOver offset now c.first c.second actor cursor block program wall) ∧
      ∃ actor cursor block program wall,
        s.world.TakesOver offset now c.second c.first actor cursor block program wall) ∧
      after.programs = report.collisions.foldl Programs.exchange s.world.scene.programs ∧
      (Matching.members report.collisions).Nodup ∧
      (∀ id, after.held.contains id = true ↔ ∃ c ∈ report.collisions, c.second = id) ∧
      (∀ times, ∀ played ∈ s.world.ticks offset times,
        played.1.scene.programs.values.Perm s.world.scene.programs.values) ∧
      ∀ n, (s.run n).1.world.scene.programs.values.Perm s.world.scene.programs.values := by
  intro report after
  have keyed := reachable.sound.keyed
  refine ⟨keyed.takesOver, s.world.programs_tick offset now, ?_,
    s.world.contains_held_tick offset now,
    fun times played => World.values_programs_ticks, ?_⟩
  · change (Matching.members (s.world.tick offset now).2.collisions).Nodup
    rw [keyed.collisions_tick]
    exact Matching.nodup_members (s.world.awake now).pairwise_movers
  · intro n
    refine run_of_tick (I := fun u => u.world.scene.programs.values.Perm _) ?_ n (.refl _)
    intro u same
    cases running : u.running with
    | false => rwa [tick_of_stopped running]
    | true =>
      rw [(tick_eq running).1]
      exact (u.world.values_programs_tick u.offset u.time).trans same

set_option maxRecDepth 4000 in
theorem collisions_exchange_crowd :
    crowd.Reachable ∧
      (∃ actor cursor block program wall,
        crowd.world.TakesOver crowd.offset crowd.time ⟨3⟩ ⟨4⟩ actor cursor block program wall) ∧
      (crowd.world.tick crowd.offset crowd.time).1.scene.held.toList = [⟨1⟩, ⟨4⟩] ∧
      ∀ n, (crowd.run n).1.world.scene.programs.values.Perm crowd.world.scene.programs.values := by
  have mem : (⟨⟨3⟩, ⟨4⟩, .left⟩ : Collision) ∈
      (crowd.world.tick crowd.offset crowd.time).2.collisions := by decide +kernel
  obtain ⟨taken, -, -, -, -, kept⟩ := collisions_exchange reachable_crowd crowd.offset crowd.time
  exact ⟨reachable_crowd, (taken _ mem).1, by decide +kernel, kept⟩

end Stage

end Playhouse
