import Playhouse.Proofs.Stage.Fits
import Playhouse.Proofs.Tick.Interference

/-!
# Programs that are performed in order

`Program.place p n` is where an actor stands in `p` after `n` blocks: behind the last one, or at the
start after a restart. So it is `n` itself in a program that ends (`place_of_plain`), and goes round
the blocks up to the first restart in one that starts over (`place_of_first`).

A role `Follows` a program if its cursor stands where the blocks that it has performed have taken
it. A block that is spoken counts from the tick in which its bubble appears, but the cursor moves
past it only when the bubble goes. In a tick without a collision a role goes on to follow its
program, and performs the block that is next, unless its bubble is live or the program has come to
its end (`World.Keyed.follows_tick`, `World.Keyed.performed_eq_none_iff`).
-/

namespace Playhouse

/-! ## Places -/

namespace Program

variable {p : Program} {done : List Block} {r : Nat}

/-- Where an actor stands after `n` blocks. -/
def place (p : Program) : Nat → Nat
  | 0 => 0
  | n + 1 => if p[p.place n]?.any Block.isRestart then 0 else p.place n + 1

theorem place_of_plain (plain : p.repeats = false) (n : Nat) : p.place n = n := by
  induction n with
  | zero => rfl
  | succ n ih =>
    have other : p[p.place n]?.any Block.isRestart = false := by
      cases found : p[p.place n]? with
      | none => rfl
      | some block =>
        rw [repeats, List.any_eq_false] at plain
        simpa using plain block (List.mem_of_getElem? found)
    rw [place, other, ih]
    rfl

theorem place_of_first (first : p.findIdx? Block.isRestart = some r) (n : Nat) :
    p.place n = n % (r + 1) := by
  obtain ⟨inside, marker, before⟩ := List.findIdx?_eq_some_iff_getElem.1 first
  induction n with
  | zero => rfl
  | succ n ih =>
    have within : n % (r + 1) < r + 1 := Nat.mod_lt n (Nat.succ_pos r)
    have known : n % (r + 1) < p.length := by omega
    have split : n + 1 = (r + 1) * (n / (r + 1)) + (n % (r + 1) + 1) := by
      rw [← Nat.add_assoc, Nat.div_add_mod]
    rw [place, ih, List.getElem?_eq_getElem known, Option.any_some, split, Nat.mul_add_mod]
    by_cases last : n % (r + 1) = r
    · simp only [last, marker, if_true, Nat.mod_self]
    · have earlier : n % (r + 1) < r := by omega
      rw [if_neg (before _ earlier), Nat.mod_eq_of_lt (Nat.succ_lt_succ earlier)]

/-- The given blocks are those that are performed first. -/
def Begins (p : Program) (done : List Block) : Prop :=
  ∀ i < done.length, done[i]? = p[p.place i]?

theorem Begins.isPrefix (begins : p.Begins done) (plain : p.repeats = false) : done <+: p := by
  rw [List.prefix_iff_getElem?]
  intro i inside
  have next := begins i inside
  rw [place_of_plain plain, List.getElem?_eq_getElem inside] at next
  exact next.symm

theorem Begins.getElem?_eq (begins : p.Begins done)
    (first : p.findIdx? Block.isRestart = some r) {i : Nat} (inside : i < done.length) :
    done[i]? = (p.take (r + 1))[i % (r + 1)]? := by
  rw [begins i inside, place_of_first first,
    List.getElem?_take_of_lt (Nat.mod_lt i (Nat.succ_pos r))]

theorem exists_first (repeats : p.repeats = true) :
    ∃ r, p.findIdx? Block.isRestart = some r := by
  rw [← Option.isSome_iff_exists, List.findIdx?_isSome]
  exact repeats

/-- Nothing is left of a program if it ends and all of it has been performed. -/
theorem Begins.length_le_place_iff (begins : p.Begins done) :
    p.length ≤ p.place done.length ↔ p.repeats = false ∧ done = p := by
  cases repeats : p.repeats with
  | false =>
    have start := begins.isPrefix repeats
    rw [place_of_plain repeats]
    refine ⟨fun long => ⟨rfl, start.eq_of_length_le long⟩, ?_⟩
    rintro ⟨-, rfl⟩
    exact Nat.le_refl _
  | true =>
    obtain ⟨r, first⟩ := exists_first repeats
    have inside := (List.findIdx?_eq_some_iff_getElem.1 first).1
    have within : done.length % (r + 1) < r + 1 := Nat.mod_lt _ (Nat.succ_pos r)
    rw [place_of_first first]
    constructor
    · intro long
      omega
    · rintro ⟨never, -⟩
      cases never

theorem Begins.concat {block : Block} (begins : p.Begins done)
    (next : p[p.place done.length]? = some block) : p.Begins (done ++ [block]) := by
  intro i inside
  rw [List.length_append, List.length_singleton] at inside
  rcases Nat.lt_succ_iff_lt_or_eq.1 inside with earlier | rfl
  · rw [List.getElem?_append_left earlier, begins i earlier]
  · rw [List.getElem?_concat_length, next]

end Program

/-! ## Roles -/

namespace Role

variable {r : Role} {program : Program} {done : List Block} {actor : Actor} {cursor : Cursor}
  {block : Block} {finished : Nat}

/-- The role has performed the given blocks, and its cursor has moved past all of them but the one
that is being spoken. -/
structure Follows (r : Role) (program : Program) (done : List Block) : Prop where
  isSome_actor : r.actor.isSome = true
  program_eq : r.program = some program
  not_held : r.held = false
  begins : program.Begins done
  cursor_eq : ∃ cursor finished, r.cursor = some cursor ∧
    cursor.position = program.place finished ∧ done.length = finished + r.bubble.toList.length

/-- Past a block the cursor is where it has to be. -/
theorem position_advance (here : cursor.position = program.place finished)
    (found : program[cursor.position]? = some block) (busy : cursor.isIdle = false) :
    (cursor.advance block.isRestart).position = program.place (finished + 1) := by
  rw [here] at found
  have inside : ¬ cursor.length ≤ cursor.position := by simpa [Cursor.isIdle] using busy
  have step : min (cursor.position + 1) cursor.length = program.place finished + 1 := by omega
  rw [Program.place, found, Cursor.advance, step]
  rfl

namespace Follows

theorem install (present : r.actor.isSome = true) (program : Program) :
    (r.install program).Follows program [] where
  isSome_actor := present
  program_eq := rfl
  not_held := rfl
  begins := nofun
  cursor_eq := ⟨.fresh program.length, 0, rfl, rfl, rfl⟩

theorem place (follows : r.Follows program done) (pose : Actor → Actor) :
    (r.place pose).Follows program done where
  isSome_actor := by
    rw [Role.place, Option.isSome_map]
    exact follows.isSome_actor
  program_eq := follows.program_eq
  not_held := follows.not_held
  begins := follows.begins
  cursor_eq := follows.cursor_eq

/-- The cursor moves past the block that was spoken. -/
theorem wake (follows : r.Follows program done) {bubble : Bubble} (live : r.bubble = some bubble)
    (speaks : r.Speaks bubble) : r.wake.Follows program done where
  isSome_actor := follows.isSome_actor
  program_eq := follows.program_eq
  not_held := follows.not_held
  begins := follows.begins
  cursor_eq := by
    obtain ⟨cursor, finished, cursor_eq, here, length_eq⟩ := follows.cursor_eq
    obtain ⟨actor, cursor', program', seconds, stands⟩ := speaks
    obtain rfl : cursor = cursor' := Option.some.inj (cursor_eq.symm.trans stands.cursor_eq)
    obtain rfl : program = program' :=
      Option.some.inj (follows.program_eq.symm.trans stands.program_eq)
    refine ⟨cursor.advance false, finished + 1, congrArg (Option.map _) cursor_eq, ?_, ?_⟩
    · exact position_advance here stands.block_eq stands.not_idle
    · rw [length_eq, live]
      rfl

/-- Without a bubble the cursor is behind all blocks that have been performed. -/
theorem next (follows : r.Follows program done) (silent : r.bubble = none) :
    ∃ cursor, r.cursor = some cursor ∧ cursor.position = program.place done.length := by
  obtain ⟨cursor, finished, cursor_eq, here, length_eq⟩ := follows.cursor_eq
  rw [silent] at length_eq
  exact ⟨cursor, cursor_eq, by rw [here, length_eq]; rfl⟩

/-- A role that is ready for a block has come to it in the order of its program. -/
theorem of_readyFor (follows : r.Follows program done) (fits : r.Fits) {program' : Program}
    (ready : r.ReadyFor actor cursor program' block) :
    cursor.position = program.place done.length ∧ program[cursor.position]? = some block := by
  obtain ⟨cursor', cursor_eq, here⟩ := follows.next (fits.bubble_eq_none ready.not_paused)
  obtain rfl : cursor' = cursor := Option.some.inj (cursor_eq.symm.trans ready.cursor_eq)
  obtain rfl : program = program' :=
    Option.some.inj (follows.program_eq.symm.trans ready.program_eq)
  exact ⟨here, ready.block_eq⟩

theorem release (follows : r.Follows program done) : r.release.Follows program done where
  isSome_actor := follows.isSome_actor
  program_eq := follows.program_eq
  not_held := rfl
  begins := follows.begins
  cursor_eq := follows.cursor_eq

theorem speak (follows : r.Follows program done) (fits : r.Fits) {program' : Program}
    (ready : r.ReadyFor actor cursor program' block) (bubble : Bubble) :
    (r.release.speak bubble).Follows program (done ++ [block]) where
  isSome_actor := follows.isSome_actor
  program_eq := follows.program_eq
  not_held := rfl
  begins := by
    obtain ⟨here, found⟩ := follows.of_readyFor fits ready
    exact follows.begins.concat (here ▸ found)
  cursor_eq := by
    obtain ⟨here, -⟩ := follows.of_readyFor fits ready
    exact ⟨cursor, done.length, ready.cursor_eq, here, List.length_append⟩

theorem commit (follows : r.Follows program done) (fits : r.Fits) {program' : Program}
    (ready : r.ReadyFor actor cursor program' block) {p : Proposal}
    (restarts : p.restarts = block.isRestart) :
    (r.release.commit p).Follows program (done ++ [block]) where
  isSome_actor := by
    rw [Role.commit, Option.isSome_map]
    exact follows.isSome_actor
  program_eq := follows.program_eq
  not_held := rfl
  begins := by
    obtain ⟨here, found⟩ := follows.of_readyFor fits ready
    exact follows.begins.concat (here ▸ found)
  cursor_eq := by
    obtain ⟨here, found⟩ := follows.of_readyFor fits ready
    have silent : (r.release.commit p).bubble = none := fits.bubble_eq_none ready.not_paused
    refine ⟨_, done.length + 1, congrArg (Option.map _) ready.cursor_eq, ?_, ?_⟩
    · rw [restarts]
      have turned : ({ cursor with heading := p.heading } : Cursor).isIdle = false := ready.not_idle
      exact position_advance here found turned
    · rw [silent]
      exact List.length_append

/-- The actor is free to perform a block if it has no bubble and anything is left to perform. -/
theorem exists_readyFor_iff (follows : r.Follows program done) (fits : r.Fits) :
    (∃ block actor cursor program', r.ReadyFor actor cursor program' block) ↔
      r.bubble = none ∧ program.place done.length < program.length := by
  constructor
  · rintro ⟨block, actor, cursor, program', ready⟩
    obtain ⟨here, found⟩ := follows.of_readyFor fits ready
    exact ⟨fits.bubble_eq_none ready.not_paused, here ▸ (List.getElem?_eq_some_iff.1 found).1⟩
  · rintro ⟨silent, inside⟩
    obtain ⟨actor, actor_eq⟩ := Option.isSome_iff_exists.1 follows.isSome_actor
    obtain ⟨cursor, cursor_eq, here⟩ := follows.next silent
    have length : cursor.length = program.length := by
      rw [(fits.length_eq cursor cursor_eq).1, Role.length, follows.program_eq]
      rfl
    refine ⟨program[cursor.position], actor, cursor, program, ?_⟩
    exact {
      actor_eq := actor_eq
      cursor_eq := cursor_eq
      program_eq := follows.program_eq
      block_eq := List.getElem?_eq_getElem (here ▸ inside)
      not_idle := by
        rw [Cursor.isIdle, decide_eq_false_iff_not]
        omega
      not_held := follows.not_held
      not_paused := by
        rw [fits.paused_eq, silent]
        rfl }

end Follows

end Role

/-! ## Ticks -/

/-- How often a report says that an actor has performed a block: it lists the actor, or shows a
bubble of it. -/
def Report.turns (r : Report) (id : ActorId) : Nat :=
  (r.about id).executed.length + ((r.about id).bubbleEvents.filter (!·.isHidden)).length

namespace World

variable {w : World} {offset now : Float} {id : ActorId} {program : Program} {done : List Block}
  {block : Block}

/-- The block that an actor performs in a tick, if the report says that it performs one. -/
def performed (w : World) (offset now : Float) (id : ActorId) : Option Block :=
  if (w.tick offset now).2.turns id = 0 then none
  else ((w.awake now).scene.nextBlock id).map (·.2)

theorem Keyed.turns_tick (keyed : w.Keyed) (offset now : Float) (id : ActorId) :
    (w.tick offset now).2.turns id =
      ((w.awake now).actOf offset now id).toList.length := by
  have hidden : (BubbleEvent.hidden id).isHidden = true := rfl
  rw [Report.turns, keyed.about_tick]
  cases found : (w.awake now).actOf offset now id with
  | none => split <;> simp [hidden]
  | some a =>
    cases a with
    | speech turn bubble =>
      have shown : (BubbleEvent.shown turn bubble).isHidden = false := rfl
      split <;> simp [Act.speech?, Act.proposal?, hidden, shown]
    | motion p => split <;> simp [Act.speech?, Act.proposal?, hidden]

theorem Keyed.performed_eq_some_iff (keyed : w.Keyed) :
    w.performed offset now id = some block ↔
      ∃ actor cursor program, ((w.awake now).role id).ReadyFor actor cursor program block := by
  unfold performed
  rw [keyed.turns_tick]
  constructor
  · intro found
    cases act : (w.awake now).actOf offset now id with
    | none =>
      rw [act] at found
      cases found
    | some a =>
      obtain ⟨actor, cursor, program, block', ready, -⟩ := actOf_eq_some_iff.1 act
      have next := Scene.nextBlock_eq_some_iff.2
        ⟨ready.cursor_eq, ready.not_idle, program, ready.program_eq, ready.block_eq⟩
      rw [act, next] at found
      cases found
      exact ⟨actor, cursor, program, ready⟩
  · rintro ⟨actor, cursor, program, ready⟩
    have next := Scene.nextBlock_eq_some_iff.2
      ⟨ready.cursor_eq, ready.not_idle, program, ready.program_eq, ready.block_eq⟩
    rw [actOf_eq_some_iff.2 ⟨actor, cursor, program, block, ready, rfl⟩, next]
    rfl

theorem Keyed.actOf_eq_none (keyed : w.Keyed) (nothing : w.performed offset now id = none) :
    (w.awake now).actOf offset now id = none := by
  cases act : (w.awake now).actOf offset now id with
  | none => rfl
  | some a =>
    obtain ⟨actor, cursor, program, block, ready, -⟩ := actOf_eq_some_iff.1 act
    rw [keyed.performed_eq_some_iff.2 ⟨actor, cursor, program, ready⟩] at nothing
    cases nothing

/-- A report names an actor once for the block that it performs. -/
theorem Keyed.turns_eq (keyed : w.Keyed) (offset now : Float) (id : ActorId) :
    (w.tick offset now).2.turns id = (w.performed offset now id).toList.length := by
  rw [keyed.turns_tick]
  cases found : w.performed offset now id with
  | none =>
    rw [keyed.actOf_eq_none found]
    rfl
  | some block =>
    obtain ⟨actor, cursor, program, ready⟩ := keyed.performed_eq_some_iff.1 found
    rw [actOf_eq_some_iff.2 ⟨actor, cursor, program, block, ready, rfl⟩]
    rfl

theorem follows_awake (follows : (w.role id).Follows program done) (fits : (w.role id).Fits)
    (now : Float) : ((w.awake now).role id).Follows program done := by
  rw [role_awake]
  split
  · rename_i expired
    obtain ⟨-, bubble, live, -⟩ := Bubbles.mem_expired_iff.1 expired
    exact follows.wake live (fits.speaks bubble live)
  · exact follows

/-- After a tick without a collision the block of the tick has been performed as well. -/
theorem Keyed.follows_tick (keyed : w.Keyed) (fits : (w.role id).Fits)
    (follows : (w.role id).Follows program done) (apart : Apart id (w.tick offset now)) :
    ((w.tick offset now).1.role id).Follows program
      (done ++ (w.performed offset now id).toList) := by
  have follows := follows_awake follows fits now
  have fits := fits_awake fits now
  rw [keyed.role_tick_of_apart apart]
  cases found : w.performed offset now id with
  | none =>
    rw [keyed.actOf_eq_none found, Option.toList_none, List.append_nil]
    exact follows.release
  | some block =>
    obtain ⟨actor, cursor, program', ready⟩ := keyed.performed_eq_some_iff.1 found
    rw [actOf_eq_some_iff.2 ⟨actor, cursor, program', block, ready, rfl⟩]
    cases block with
    | speak kind text seconds => exact follows.speak fits ready _
    | move _ _ | turn _ | restart => exact follows.commit fits ready rfl

/-- An actor performs a block in every tick, unless its bubble is live after the bubbles have gone
whose time has come, or nothing is left of its program. -/
theorem Keyed.performed_eq_none_iff (keyed : w.Keyed) (fits : (w.role id).Fits)
    (follows : (w.role id).Follows program done) :
    w.performed offset now id = none ↔
      (w.awake now).bubbles.live.contains id = true ∨
        program.repeats = false ∧ done = program := by
  have follows := follows_awake follows fits now
  have fits := fits_awake fits now
  have live : (w.awake now).bubbles.live.contains id = ((w.awake now).role id).bubble.isSome := rfl
  rw [← follows.begins.length_le_place_iff, live, ← Option.not_isSome_iff_eq_none,
    Option.isSome_iff_exists]
  simp only [keyed.performed_eq_some_iff, follows.exists_readyFor_iff fits, not_and_or, Nat.not_lt,
    ← Option.isSome_iff_ne_none]

end World

end Playhouse
