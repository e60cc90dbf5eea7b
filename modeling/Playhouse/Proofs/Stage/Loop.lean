import Playhouse.Proofs.Stage.Cast
import Playhouse.Proofs.Tick.Interference

/-!
# Programs that start over

A cursor does not come to the end of a program as long as a restart lies `Ahead` of it. A collision
puts the cursor to the start of another program and then moves it past one block, unless the actor
was at a restart itself. So a restart that is the first block of a program can be missed, and the
actor comes to the end of it (`missed`). No other restart is missed (`loopsFrom_one`), and this one
only in a collision (`Steady.loopsFrom_zero`): `not_idle_of_repeats`.
-/

namespace Playhouse

namespace Role

/-- The cursor has not yet passed some restart of the program. -/
def Ahead (r : Role) : Prop :=
  ∃ program cursor k, r.program = some program ∧ r.cursor = some cursor ∧
    program[k]? = some .restart ∧ cursor.position ≤ k

/-- A restart that is not among the first `n` blocks is enough for one to lie ahead. -/
def LoopsFrom (n : Nat) (r : Role) : Prop :=
  ∀ program k, r.program = some program → n ≤ k → program[k]? = some .restart → r.Ahead

variable {r : Role} {n k : Nat} {program : Program} {cursor : Cursor} {block : Block}

/-- No block but a restart takes the cursor past it. -/
theorem position_advance_le (ahead : cursor.position ≤ k) (marker : program[k]? = some .restart)
    (here : program[cursor.position]? = some block) :
    (cursor.advance block.isRestart).position ≤ k := by
  simp only [Cursor.advance]
  split
  · exact Nat.zero_le k
  · rename_i other
    have differ : cursor.position ≠ k := by
      rintro same
      rw [same, marker] at here
      cases here
      exact other rfl
    have step := Nat.min_le_left (cursor.position + 1) cursor.length
    omega

theorem Ahead.release (ahead : r.Ahead) : r.release.Ahead := ahead

theorem Ahead.speak (ahead : r.Ahead) (bubble : Bubble) : (r.speak bubble).Ahead := ahead

theorem Ahead.wake (ahead : r.Ahead) {bubble : Bubble} (speaks : r.Speaks bubble) :
    r.wake.Ahead := by
  obtain ⟨program, cursor, k, program_eq, cursor_eq, marker, ahead⟩ := ahead
  obtain ⟨actor, cursor', program', seconds, stands⟩ := speaks
  obtain rfl : cursor = cursor' := Option.some.inj (cursor_eq.symm.trans stands.cursor_eq)
  obtain rfl : program = program' := Option.some.inj (program_eq.symm.trans stands.program_eq)
  refine ⟨program, cursor.advance false, k, program_eq, ?_, marker, ?_⟩
  · rw [Role.wake, cursor_eq, Option.map_some]
  · exact position_advance_le ahead marker stands.block_eq

theorem Ahead.commit (ahead : r.Ahead) {actor : Actor} {cursor : Cursor} {program : Program}
    (stands : r.At actor cursor program block) {p : Proposal}
    (restarts : p.restarts = block.isRestart) : (r.commit p).Ahead := by
  obtain ⟨program', cursor', k, program_eq, cursor_eq, marker, ahead⟩ := ahead
  obtain rfl : cursor = cursor' := Option.some.inj (stands.cursor_eq.symm.trans cursor_eq)
  obtain rfl : program = program' := Option.some.inj (stands.program_eq.symm.trans program_eq)
  have passed : ({ cursor with heading := p.heading }.advance block.isRestart).position ≤ k :=
    position_advance_le ahead marker stands.block_eq
  rw [← restarts] at passed
  refine ⟨program, _, k, program_eq, ?_, marker, passed⟩
  rw [Role.commit, cursor_eq, Option.map_some]

theorem Ahead.not_idle (ahead : r.Ahead) (fits : r.Fits) :
    ∃ cursor, r.cursor = some cursor ∧ cursor.isIdle = false := by
  obtain ⟨program, cursor, k, program_eq, cursor_eq, marker, ahead⟩ := ahead
  refine ⟨cursor, cursor_eq, ?_⟩
  have inside : k < program.length := (List.getElem?_eq_some_iff.1 marker).1
  have length : cursor.length = program.length := by
    rw [(fits.length_eq cursor cursor_eq).1, Role.length, program_eq]
    rfl
  rw [Cursor.isIdle, decide_eq_false_iff_not]
  omega

/-- A step that keeps the program, and a restart ahead if there is one. -/
theorem LoopsFrom.of_program_eq {r' : Role} (loops : r.LoopsFrom n)
    (program_eq : r'.program = r.program) (keeps : r.Ahead → r'.Ahead) : r'.LoopsFrom n := by
  intro program k found bound marker
  rw [program_eq] at found
  exact keeps (loops program k found bound marker)

theorem loopsFrom_of_position_le (cursor_eq : r.cursor = some cursor) (le : cursor.position ≤ n) :
    r.LoopsFrom n :=
  fun program k program_eq bound marker =>
    ⟨program, cursor, k, program_eq, cursor_eq, marker, Nat.le_trans le bound⟩

/-- After a restart the cursor is at the first block. -/
theorem loopsFrom_commit_of_restarts {p : Proposal} (cursor_eq : r.cursor = some cursor)
    (restarts : p.restarts = true) : (r.commit p).LoopsFrom 0 := by
  have committed : (r.commit p).cursor =
      some ({ cursor with heading := p.heading }.advance p.restarts) := by
    rw [Role.commit, cursor_eq, Option.map_some]
  refine loopsFrom_of_position_le committed ?_
  rw [restarts]
  exact Nat.le_refl 0

/-- A program that was taken over is performed from its second block on, if not from its first. -/
theorem loopsFrom_takeOver (cursor_eq : r.cursor = some cursor) (program : Option Program)
    (isSecond : Bool) (p : Proposal) : ((r.takeOver program isSecond).commit p).LoopsFrom 1 := by
  have committed : ((r.takeOver program isSecond).commit p).cursor =
      some ({ cursor.rewind (program.getD []).length with heading := p.heading }.advance
        p.restarts) := by
    rw [Role.commit, Role.takeOver, cursor_eq, Option.map_some, Option.map_some]
  refine loopsFrom_of_position_le committed ?_
  simp only [Cursor.advance, Cursor.rewind]
  split
  · exact Nat.zero_le 1
  · exact Nat.min_le_left 1 _

theorem edited_loopsFrom (n : Nat) : Role.Edited (LoopsFrom n) where
  vacant := nofun
  enter := fun _ _ _ _ _ => loopsFrom_of_position_le rfl (Nat.zero_le n)
  install := fun _ _ _ => loopsFrom_of_position_le rfl (Nat.zero_le n)
  place := fun _ _ loops => loops.of_program_eq rfl fun ahead => ahead

end Role

/-! ## Ticks -/

namespace World

variable {w : World} {offset now : Float} {id : ActorId} {r : Role} {n : Nat} {p : Proposal}

theorem loopsFrom_awake (loops : (w.role id).LoopsFrom n) (fits : (w.role id).Fits) (now : Float) :
    ((w.awake now).role id).LoopsFrom n := by
  rw [role_awake]
  split
  · rename_i expired
    obtain ⟨-, bubble, live, -⟩ := Bubbles.mem_expired_iff.1 expired
    exact loops.of_program_eq rfl fun ahead => ahead.wake (fits.speaks bubble live)
  · exact loops

theorem loopsFrom_after (loops : (w.role id).LoopsFrom n) :
    ((w.role id).after (w.actOf offset now id)).LoopsFrom n := by
  cases found : w.actOf offset now id with
  | none => exact loops.of_program_eq rfl Role.Ahead.release
  | some a =>
    cases a with
    | speech turn bubble => exact loops.of_program_eq rfl fun ahead => ahead.release.speak bubble
    | motion p =>
      obtain rfl : p.turn = id := turn_of_actOf found
      obtain ⟨actor, cursor, program, block, ready, -, same⟩ := actOf_eq_motion found
      have restarts : p.restarts = block.isRestart := by
        rw [same]
        rfl
      exact loops.of_program_eq rfl fun ahead => ahead.release.commit ready.toAt.release restarts

theorem Outcome.loopsFrom_one (outcome : w.Outcome offset now id r)
    (loops : (w.role id).LoopsFrom 1) : r.LoopsFrom 1 := by
  have after : ((w.role id).after (w.actOf offset now id)).LoopsFrom 1 := loopsFrom_after loops
  cases outcome with
  | rests found | speaks found | moves found _ =>
    rw [found] at after
    exact after
  | collides _ _ found _ =>
    obtain ⟨actor, cursor, program, block, ready, -⟩ := actOf_eq_motion found
    exact Role.loopsFrom_takeOver (r := (w.role id).release) ready.cursor_eq _ _ _

theorem Outcome.loopsFrom_zero (outcome : w.Outcome offset now id r)
    (found : w.actOf offset now id = some (.motion p)) (restarts : p.restarts = true) :
    r.LoopsFrom 0 := by
  obtain ⟨actor, cursor, program, block, ready, -⟩ := actOf_eq_motion found
  cases outcome with
  | rests other | speaks other =>
    rw [found] at other
    cases other
  | moves other _ =>
    obtain rfl : p = _ := Act.motion.inj (Option.some.inj (found.symm.trans other))
    exact Role.loopsFrom_commit_of_restarts (r := (w.role id).release) ready.cursor_eq restarts
  | @collides _ _ q isSecond _ _ other _ =>
    obtain rfl : p = _ := Act.motion.inj (Option.some.inj (found.symm.trans other))
    have rewound : ((w.role id).release.takeOver (w.role q.turn).program isSecond).cursor =
        some (cursor.rewind ((w.role q.turn).program.getD []).length) :=
      congrArg (Option.map _) ready.cursor_eq
    exact Role.loopsFrom_commit_of_restarts (p := p.revert) rewound restarts

end World

/-! ## Reachable stages -/

namespace Stage

variable {s t : Stage} {id : ActorId} {n : Nat}

theorem keptOn_loopsFrom_one (id : ActorId) :
    KeptOn (fun s => s.Sound ∧ s.WellCast) fun s => (s.world.role id).LoopsFrom 1 where
  toEditedOn := editedOn_role (Role.edited_loopsFrom 1) id
  ticked := by
    intro s base loops running
    rw [(tick_eq running).1]
    have outcome := base.1.keyed.outcome_tick s.offset s.time id
    exact outcome.loopsFrom_one (World.loopsFrom_awake loops (base.2.fits id) s.time)
  restored := fun _ _ loops => loops

theorem loopsFrom_one (reachable : s.Reachable) (id : ActorId) :
    (s.world.role id).LoopsFrom 1 := by
  have kept := kept_base.and (keptOn_loopsFrom_one id)
  refine (reachable.of_kept kept fun config valid => ?_).2
  exact ⟨⟨sound_fresh valid, wellCast_fresh config⟩, by nofun⟩

/-- In some course of events `id` has its program from the start, or has taken it over in a
collision in which it was itself at a restart. -/
inductive Steady (id : ActorId) : Stage → Prop where
  | new {config : Config} {s : Stage} (made : Stage.new config = .ok s) : Steady id s
  | edit {s t : Stage} {action : Action} {reply : Reply} (before : Steady id s)
    (edit : action.edits = true) (done : s.perform action = some (t, reply)) : Steady id t
  | install {s : Stage} (before : s.Reachable) (program : Program) :
    Steady id (s.install id program)
  | reset {s : Stage} (before : s.Reachable) : Steady id s.reset
  | apart {s : Stage} (before : Steady id s)
    (apart : ∀ c ∈ s.tick.2.collisions, c.involves id = false) : Steady id s.tick.1
  | restart {s : Stage} {cursor : Cursor} (before : s.Reachable)
    (executed : id ∈ s.tick.2.executed)
    (block : (s.world.awake s.time).scene.nextBlock id = some (cursor, .restart)) :
    Steady id s.tick.1
  | restore {s source : Stage} (before : s.Reachable) (captured : Steady id source) :
    Steady id (s.restore source.capture).1

theorem Steady.reachable (steady : Steady id s) : s.Reachable := by
  induction steady with
  | new made => exact .new made
  | edit _ edit done ih => exact ih.edit edit done
  | install before program => exact before.act (.install id program) rfl rfl
  | reset before => exact before.act .reset rfl rfl
  | apart _ _ ih => exact ih.act .tick rfl rfl
  | restart before _ _ => exact before.act .tick rfl rfl
  | restore before _ ih => exact .restore before ih trivial

theorem loopsFrom_zero_of_apart (reachable : s.Reachable)
    (loops : (s.world.role id).LoopsFrom 0)
    (apart : ∀ c ∈ s.tick.2.collisions, c.involves id = false) :
    (s.tick.1.world.role id).LoopsFrom 0 := by
  cases running : s.running with
  | false =>
    rw [tick, running]
    exact loops
  | true =>
    have sound := reachable.sound
    obtain ⟨world, report⟩ := tick_eq running
    rw [report] at apart
    rw [world, sound.keyed.role_tick_of_apart apart]
    exact World.loopsFrom_after (World.loopsFrom_awake loops (reachable.wellCast.fits id) s.time)

theorem loopsFrom_zero_of_restart (reachable : s.Reachable) {cursor : Cursor}
    (executed : id ∈ s.tick.2.executed)
    (block : (s.world.awake s.time).scene.nextBlock id = some (cursor, .restart)) :
    (s.tick.1.world.role id).LoopsFrom 0 := by
  cases running : s.running with
  | false =>
    rw [tick, running] at executed
    cases executed
  | true =>
    have keyed := reachable.sound.keyed
    obtain ⟨world, report⟩ := tick_eq running
    rw [report, keyed.mem_executed_iff] at executed
    obtain ⟨p, found⟩ := executed
    obtain ⟨actor, cursor', program, block', ready, -, same⟩ := World.actOf_eq_motion found
    obtain ⟨cursor_eq, -, program', program_eq, here⟩ := Scene.nextBlock_eq_some_iff.1 block
    obtain rfl : cursor' = cursor := Option.some.inj (ready.cursor_eq.symm.trans cursor_eq)
    obtain rfl : program = program' := Option.some.inj (ready.program_eq.symm.trans program_eq)
    obtain rfl : block' = .restart := Option.some.inj (ready.block_eq.symm.trans here)
    have restarts : p.restarts = true := by
      rw [same]
      rfl
    rw [world]
    exact (keyed.outcome_tick s.offset s.time id).loopsFrom_zero found restarts

theorem Steady.loopsFrom_zero (steady : Steady id s) : (s.world.role id).LoopsFrom 0 := by
  induction steady with
  | new made =>
    obtain ⟨-, rfl⟩ := new_eq_ok_iff.1 made
    nofun
  | edit before edit done ih =>
    have base := And.intro before.reachable.sound before.reachable.wellCast
    have edited := kept_base.toEditedOn.and (editedOn_role (Role.edited_loopsFrom 0) id)
    exact (edited.perform edit done ⟨base, ih⟩).2
  | install before program =>
    rw [role_install, if_pos rfl]
    exact Role.loopsFrom_of_position_le rfl (Nat.le_refl 0)
  | reset before => nofun
  | apart before apart ih => exact loopsFrom_zero_of_apart before.reachable ih apart
  | restart before executed block => exact loopsFrom_zero_of_restart before executed block
  | @restore s source before captured ih =>
    rw [restore_capture s captured.reachable.sound.valid]
    exact ih

/-- The second actor has run into the first one, which was at a restart. -/
def missed : Stage :=
  (((((fresh .default).addActorAt 100.0 100.0).1.addActorAt 200.0 100.0).1.install ⟨0⟩
    [.restart]).install ⟨1⟩ [.move (-10.0) 0.0, .move 0.0 5.0, .restart]).start.tick.1

theorem reachable_missed : missed.Reachable := by
  have new : (fresh .default).Reachable := reachable_fresh rfl
  have first := new.act (.addActorAt 100.0 100.0) rfl rfl
  have second := first.act (.addActorAt 200.0 100.0) rfl rfl
  have waiting := second.act (.install ⟨0⟩ [.restart]) rfl rfl
  have moving := waiting.act (.install ⟨1⟩ [.move (-10.0) 0.0, .move 0.0 5.0, .restart]) rfl rfl
  exact (moving.act .start rfl rfl).act .tick rfl rfl

/-- No actor comes to the end of a program that starts over, unless the first block is the only
restart and was missed in a collision. -/
theorem not_idle_of_repeats (reachable : s.Reachable) (id : ActorId) {program : Program}
    (installed : s.world.scene.programs.get? id = some program) (repeats : program.repeats = true)
    (kept : (∃ k, 0 < k ∧ program[k]? = some .restart) ∨ Steady id s) :
    ∃ cursor, s.world.scene.cursors.get? id = some cursor ∧ cursor.isIdle = false := by
  have fits := reachable.wellCast.fits id
  rcases kept with ⟨k, later, marker⟩ | steady
  · exact (loopsFrom_one reachable id program k installed later marker).not_idle fits
  · obtain ⟨block, mem, restart⟩ := List.any_eq_true.1 repeats
    obtain ⟨k, marker⟩ := List.getElem?_of_mem mem
    have same : block = .restart := by
      cases block <;> first | rfl | cases restart
    rw [same] at marker
    exact (steady.loopsFrom_zero program k installed (Nat.zero_le k) marker).not_idle fits

set_option maxRecDepth 4000 in
/-- Both actors of `missed` go on: the first one has taken over a program that starts over later. -/
theorem not_idle_of_repeats_missed :
    missed.Reachable ∧
      missed.world.scene.programs.get? ⟨0⟩ =
        some [.move (-10.0) 0.0, .move 0.0 5.0, .restart] ∧
      ∃ cursor, missed.world.scene.cursors.get? ⟨0⟩ = some cursor ∧ cursor.isIdle = false :=
  ⟨reachable_missed, rfl,
    not_idle_of_repeats reachable_missed ⟨0⟩ rfl rfl (.inl ⟨2, by decide, rfl⟩)⟩

set_option maxRecDepth 4000 in
/-- The second actor of `missed` has come to the end of a program that starts over. -/
theorem idle_of_missed_restart :
    ¬ ∀ s : Stage, s.Reachable → ∀ id program,
      s.world.scene.actors.contains id = true →
      s.world.scene.programs.get? id = some program → program.repeats = true →
      ∃ cursor, s.world.scene.cursors.get? id = some cursor ∧ cursor.isIdle = false := by
  intro never
  obtain ⟨cursor, found, busy⟩ := never missed reachable_missed ⟨1⟩ [.restart] rfl rfl rfl
  have ended : missed.world.scene.cursors.get? ⟨1⟩ = some ⟨1, .forward, 1⟩ := rfl
  obtain rfl : ⟨1, .forward, 1⟩ = cursor := Option.some.inj (ended.symm.trans found)
  cases busy

end Stage

end Playhouse
