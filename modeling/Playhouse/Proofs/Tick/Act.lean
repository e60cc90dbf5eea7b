import Playhouse.Proofs.Tick.Role

/-!
# Acts

`World.actOf w offset now id` is what `id` does in a tick, if it does anything. It depends on the
role of `id` alone (`actOf_congr`), and `actOf_eq_some_iff` says when there is an act: exactly if
the role is ready for a block.

The acts of a tick are in strictly ascending order of turns (`pairwise_acts`), so the act of `id`
is the only one in its turn (`filter_acts`).
-/

namespace Playhouse

def Act.turn : Act → ActorId
  | .speech turn _ => turn
  | .motion p => p.turn

theorem Scene.nextBlock_eq_some_iff {s : Scene} {id : ActorId} {cursor : Cursor} {block : Block} :
    s.nextBlock id = some (cursor, block) ↔
      s.cursors.get? id = some cursor ∧ cursor.isIdle = false ∧
        ∃ program, s.programs.get? id = some program ∧ program[cursor.position]? = some block := by
  unfold nextBlock
  constructor
  · intro found
    cases hc : s.cursors.get? id with
    | none => simp [hc] at found
    | some c =>
      cases hi : c.isIdle with
      | true => simp [hc, hi] at found
      | false =>
        cases hp : s.programs.get? id with
        | none => simp [hc, hp] at found
        | some p =>
          cases hb : p[c.position]? with
          | none => simp [hc, hp, hb] at found
          | some b => simp_all
  · rintro ⟨hc, hi, p, hp, hb⟩
    simp [hc, hi, hp, hb]

namespace World

variable {w v : World} {offset now : Float} {id : ActorId}

/-- What an id does in a tick. -/
def actOf (w : World) (offset now : Float) (id : ActorId) : Option Act :=
  (w.scene.actors.get? id).bind (w.act offset now id)

theorem turn_enact (w : World) (offset now : Float) (id : ActorId) (actor : Actor)
    (heading : Heading) (block : Block) :
    (w.enact offset now id actor heading block).turn = id := by
  cases block <;> rfl

theorem actOf_eq_some_iff {a : Act} :
    w.actOf offset now id = some a ↔
      ∃ actor cursor program block, (w.role id).ReadyFor actor cursor program block ∧
        a = w.enact offset now id actor cursor.heading block := by
  unfold actOf act
  constructor
  · intro found
    obtain ⟨actor, hactor, found⟩ := Option.bind_eq_some_iff.1 found
    split at found
    · cases found
    · rename_i free
      obtain ⟨⟨cursor, block⟩, next, rfl⟩ := Option.map_eq_some_iff.1 found
      obtain ⟨hcursor, idle, program, hprogram, hblock⟩ := Scene.nextBlock_eq_some_iff.1 next
      rw [Bool.or_eq_true, not_or, Bool.not_eq_true, Bool.not_eq_true] at free
      exact ⟨actor, cursor, program, block,
        ⟨⟨hactor, hcursor, hprogram, hblock, idle, free.2⟩, free.1⟩, rfl⟩
  · rintro ⟨actor, cursor, program, block, ready, rfl⟩
    have hactor : w.scene.actors.get? id = some actor := ready.actor_eq
    have paused : w.bubbles.isPaused id = false := ready.not_paused
    have held : w.scene.held.contains id = false := ready.not_held
    have next : w.scene.nextBlock id = some (cursor, block) :=
      Scene.nextBlock_eq_some_iff.2
        ⟨ready.cursor_eq, ready.not_idle, program, ready.program_eq, ready.block_eq⟩
    simp [hactor, paused, held, next]

/-- A speech is what a role does that is ready for a block that speaks. -/
theorem actOf_eq_speech {turn : ActorId} {bubble : Bubble}
    (found : w.actOf offset now id = some (.speech turn bubble)) :
    ∃ actor cursor program kind text seconds,
      (w.role id).ReadyFor actor cursor program (.speak kind text seconds) ∧
        bubble = w.bubbles.bubble kind text seconds (anchor offset w.scene.bounds actor) now := by
  obtain ⟨actor, cursor, program, block, ready, same⟩ := actOf_eq_some_iff.1 found
  cases block with
  | speak kind text seconds =>
    cases same
    exact ⟨actor, cursor, program, kind, text, seconds, ready, rfl⟩
  | move _ _ | turn _ | restart => cases same

/-- A proposal is what a role makes that is ready for a block that does not speak. -/
theorem actOf_eq_motion {p : Proposal} (found : w.actOf offset now id = some (.motion p)) :
    ∃ actor cursor program block, (w.role id).ReadyFor actor cursor program block ∧
      block.isSpeech = false ∧ p = .of w.scene.bounds id actor cursor.heading block := by
  obtain ⟨actor, cursor, program, block, ready, same⟩ := actOf_eq_some_iff.1 found
  refine ⟨actor, cursor, program, block, ready, ?_⟩
  cases block with
  | speak kind text seconds => cases same
  | move _ _ | turn _ | restart => exact ⟨rfl, Act.motion.inj same⟩

/-- What an id does is decided by its role, the bounds and the suspension. -/
theorem actOf_congr (role : w.role id = v.role id) (bounds : w.scene.bounds = v.scene.bounds)
    (suspended : w.bubbles.suspendedAt = v.bubbles.suspendedAt) :
    w.actOf offset now id = v.actOf offset now id := by
  have enact : w.enact offset now id = v.enact offset now id := by
    funext actor heading block
    cases block <;> simp only [World.enact, Bubbles.bubble, bounds, suspended]
  apply Option.ext
  intro a
  rw [actOf_eq_some_iff, actOf_eq_some_iff, role, enact]

/-! ## The acts of a tick -/

theorem turn_of_act {actor : Actor} {a : Act} (found : w.act offset now id actor = some a) :
    a.turn = id := by
  unfold act at found
  split at found
  · cases found
  · obtain ⟨⟨cursor, block⟩, -, rfl⟩ := Option.map_eq_some_iff.1 found
    exact turn_enact w offset now id actor cursor.heading block

theorem turn_of_actOf {a : Act} (found : w.actOf offset now id = some a) : a.turn = id := by
  obtain ⟨actor, -, found⟩ := Option.bind_eq_some_iff.1 found
  exact turn_of_act found

theorem pairwise_acts (w : World) (offset now : Float) :
    (w.acts offset now).Pairwise fun a b => a.turn < b.turn := by
  unfold acts
  rw [List.pairwise_filterMap]
  refine w.scene.actors.ascending.imp ?_
  intro p q less a ha b hb
  rw [turn_of_act ha, turn_of_act hb]
  exact less

theorem mem_acts_iff {a : Act} :
    a ∈ w.acts offset now ↔ w.actOf offset now a.turn = some a := by
  unfold acts actOf
  rw [List.mem_filterMap]
  constructor
  · rintro ⟨⟨key, actor⟩, mem, found⟩
    obtain rfl := turn_of_act found
    rw [IdMap.mem_entries_iff.1 mem]
    exact found
  · intro found
    obtain ⟨actor, hactor, found⟩ := Option.bind_eq_some_iff.1 found
    exact ⟨(a.turn, actor), IdMap.mem_entries_iff.2 hactor, found⟩

/-- In the turn of an id nothing happens but its own act. -/
theorem filter_acts (w : World) (offset now : Float) (id : ActorId) :
    (w.acts offset now).filter (·.turn = id) = (w.actOf offset now id).toList := by
  have own : ∀ p : ActorId × Actor, (w.act offset now p.1 p.2).filter (·.turn = id) =
      if p.1 = id then w.act offset now p.1 p.2 else none := by
    intro p
    cases found : w.act offset now p.1 p.2 with
    | none => split <;> rfl
    | some a => simp [Option.filter, turn_of_act found]
  unfold acts actOf
  rw [List.filter_filterMap]
  calc w.scene.actors.entries.filterMap (fun p => (w.act offset now p.1 p.2).filter (·.turn = id))
      = (w.scene.actors.entries.filter (·.1 = id)).filterMap
          fun p => w.act offset now p.1 p.2 := by
        simp only [own, List.filterMap_filter, decide_eq_true_eq]
    _ = ((w.scene.actors.get? id).bind (w.act offset now id)).toList := by
        rw [IdMap.filter_entries]
        cases w.scene.actors.get? id with
        | none => rfl
        | some actor => cases found : w.act offset now id actor <;> simp [found]

end World

end Playhouse
