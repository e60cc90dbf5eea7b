import Playhouse.Proofs.Binary64.Bounded
import Playhouse.Proofs.Format.Snapshot
import Playhouse.Proofs.Stage.Pose
import Playhouse.Proofs.Stage.Saved
import Playhouse.Proofs.Stage.Scripted

/-!
# Stages that can be stored

On a stage that sane actions lead to all coordinates are finite, since they are inside a finite
canvas, and all blocks are, since they were read from tokens. So only the bubbles are left that may
not be written as numbers. A `Savable` stage reads back from its printed snapshot if its live
bubbles are finite (`Savable.load`), and the text is refused if they are not (`Savable.refuse`).

The time of a suspension need not be finite. It is written as `null` then, and restoring puts the
same time in its place (`Record.written`).
-/

namespace Playhouse

open Binary64

/-! ## Finite coordinates -/

theorem Within.isFinite {greatest x : Float} (within : Within greatest x)
    (finite : greatest.isFinite = true) : x.isFinite = true :=
  isFinite_of_le within.nonneg within.le finite

theorem IsAngle.isFinite {x : Float} (angle : IsAngle x) : x.isFinite = true :=
  isFinite_of_le angle.nonneg (le_of_lt angle.lt) rfl

theorem isFinite_positivePart {x : Float} (finite : x.isFinite = true) :
    (positivePart x).isFinite = true := by
  unfold positivePart
  split
  · exact finite
  · rfl

namespace Config.Usable

variable {c : Config}

theorem isFinite (usable : c.Usable) : c.IsFinite where
  canvasWidth := usable.canvasWidth.finite
  canvasHeight := usable.canvasHeight.finite
  actorWidth := usable.actorWidth.finite
  actorHeight := usable.actorHeight.finite
  tickSeconds := usable.tickSeconds.finite
  bubbleOffset := usable.offset

theorem isFinite_maxX (usable : c.Usable) : c.bounds.maxX.isFinite = true :=
  isFinite_positivePart (isFinite_sub usable.canvasWidth.finite usable.actorWidth.finite
    usable.canvasWidth.pos usable.actorWidth.pos)

theorem isFinite_maxY (usable : c.Usable) : c.bounds.maxY.isFinite = true :=
  isFinite_positivePart (isFinite_sub usable.canvasHeight.finite usable.actorHeight.finite
    usable.canvasHeight.pos usable.actorHeight.pos)

end Config.Usable

theorem Block.Usable.isFinite {b : Block} (usable : b.Usable) : b.IsFinite := by
  cases b with
  | move _ _ | turn _ => exact usable
  | speak _ _ _ => exact (Bool.and_eq_true_iff.1 usable).1
  | restart => trivial

/-! ## What is written -/

/-- The suspension as it is written. -/
theorem write_filter (since : Option Float) (spacing : Json.Spacing) (depth : ℕ) :
    ((Codec.optional .float).write (since.filter (·.isFinite))).write spacing depth [] =
      ((Codec.optional .float).write since).write spacing depth [] := by
  cases since with
  | none => rfl
  | some x =>
    rw [Option.filter_some]
    split
    · rfl
    · rename_i infinite
      change _ = (Json.real x).write spacing depth []
      rw [Json.write, if_neg infinite]
      rfl

/-- What the text of a record says: an infinite suspension is left out. -/
def Record.written (r : Record) : Record :=
  { r with bubbles.suspendedAt := r.bubbles.suspendedAt.filter (·.isFinite) }

theorem Record.fingerprint_written (r : Record) : r.written.fingerprint = r.fingerprint :=
  congrArg Blake3.hex ((r.compact_suspendedAt_iff _ _).2 (write_filter _ _ 2))

theorem Snapshot.write_written (r : Record) (hash : String) (spacing : Json.Spacing)
    (rest : List Char) :
    (codec.write ⟨r.written, hash⟩).write spacing 0 rest =
      (codec.write ⟨r, hash⟩).write spacing 0 rest := by
  refine (Json.write_member_iff
    [("config", Config.codec.write r.config), ("state", Scene.codec.write r.scene)]
    [("rng", Random.codec.write r.random), ("tick_counter", .natural r.ticks),
      ("hash", .text hash)]).2 ?_
  refine (Json.write_member_iff
    [("bubbles", (Codec.idMap Bubble.codec).write r.bubbles.live),
      ("paused", Codec.idSet.write r.bubbles.paused)] []).2 ?_
  exact write_filter _ spacing 2

theorem isBlank_newline : ∀ c ∈ ['\n'], Token.isBlank c = true := by
  intro c mem
  rw [List.mem_singleton.1 mem]
  rfl

/-- The text as it is printed, with the end of its last line. -/
theorem Codec.pretty_append {α : Type} (c : Codec α) (a : α) :
    c.pretty a ++ "\n" = String.ofList ((c.write a).write .pretty 0 ['\n']) := by
  rw [Json.write_append, String.ofList_append]
  rfl

namespace Stage

variable {s : Stage}

/-- All that is known of a stage that a scenario leads to. -/
structure Savable (s : Stage) : Prop where
  sound : s.Sound
  cast : s.WellCast
  posed : s.Posed
  scripted : s.Scripted
  bounds_eq : s.world.scene.bounds = s.config.bounds
  nextId : s.world.scene.nextId.IsWord
  ticks : IsWord64 s.ticks

/-- Whether all that a bubble holds can be written as numbers. -/
def BubblesFinite (s : Stage) : Prop :=
  ∀ bubble ∈ s.world.bubbles.live.values, bubble.IsFinite

instance (s : Stage) : Decidable s.BubblesFinite :=
  inferInstanceAs (Decidable (∀ bubble ∈ s.world.bubbles.live.values, bubble.IsFinite))

namespace Savable

theorem isWord_of_actor (savable : s.Savable) {id : ActorId}
    (present : (s.world.role id).actor.isSome = true) : id.IsWord := by
  have below := (savable.cast.entered id).1 present
  have word := savable.nextId
  rw [ActorId.lt_iff] at below
  unfold ActorId.IsWord at *
  omega

/-- Whatever is stored is stored for an actor. -/
theorem isWord_of_cursor (savable : s.Savable) {id : ActorId}
    (present : (s.world.role id).cursor.isSome = true) : id.IsWord := by
  refine savable.isWord_of_actor ?_
  rw [(savable.cast.fits id).isSome_cursor, Bool.or_eq_true] at present
  exact present.elim (fun present => present) (savable.scripted id).cast

theorem isWord_of_bubble (savable : s.Savable) {id : ActorId}
    (present : (s.world.role id).bubble.isSome = true) : id.IsWord := by
  refine savable.isWord_of_actor ?_
  cases missing : (s.world.role id).actor with
  | some actor => rfl
  | none =>
    rw [(savable.cast.fits id).bubble_eq_none_of_missing missing] at present
    cases present

theorem scene (savable : s.Savable) : s.world.scene.Storable where
  bounds := by
    have usable := savable.sound.usable
    rw [savable.bounds_eq]
    exact ⟨⟨usable.canvasWidth.finite, usable.canvasHeight.finite⟩,
      usable.actorWidth.finite, usable.actorHeight.finite⟩
  actors := by
    rintro ⟨id, actor⟩ mem
    have found : (s.world.role id).actor = some actor := IdMap.mem_entries_iff.1 mem
    have word : id.IsWord := savable.isWord_of_actor (by rw [found]; rfl)
    have legal := (savable.posed id).pose actor found
    rw [savable.bounds_eq] at legal
    have own : actor.id = id := savable.sound.keyed id actor found
    exact ⟨word, {
      id := own ▸ word
      x := legal.x.isFinite savable.sound.usable.isFinite_maxX
      y := legal.y.isFinite savable.sound.usable.isFinite_maxY
      angle := legal.angle.isFinite }⟩
  cursors := by
    rintro ⟨id, cursor⟩ mem
    have found : (s.world.role id).cursor = some cursor := IdMap.mem_entries_iff.1 mem
    obtain ⟨length, inside⟩ := (savable.cast.fits id).length_eq cursor found
    have word := (savable.scripted id).isWord_length
    rw [← length] at word
    exact ⟨savable.isWord_of_cursor (by rw [found]; rfl), Nat.le_trans inside word, word⟩
  programs := by
    rintro ⟨id, program⟩ mem
    have found : (s.world.role id).program = some program := IdMap.mem_entries_iff.1 mem
    refine ⟨savable.isWord_of_actor ((savable.scripted id).cast (by rw [found]; rfl)), ?_⟩
    exact fun block mem => ((savable.posed id).program program found block mem).isFinite
  held := by
    intro id mem
    exact savable.isWord_of_actor
      ((savable.cast.fits id).isSome_of_held (IdMap.mem_keys_iff.1 mem))
  nextId := savable.nextId

theorem record (savable : s.Savable) (finite : s.BubblesFinite) : s.record.written.Storable where
  config := savable.sound.usable.isFinite
  scene := savable.scene
  bubbles :=
    { live := by
        rintro ⟨id, bubble⟩ mem
        have found : (s.world.role id).bubble = some bubble := IdMap.mem_entries_iff.1 mem
        exact ⟨savable.isWord_of_bubble (by rw [found]; rfl),
          finite bubble (List.mem_map.2 ⟨_, mem, rfl⟩)⟩
      paused := by
        intro id mem
        refine savable.isWord_of_bubble ?_
        rw [← (savable.cast.fits id).paused_eq]
        exact IdMap.mem_keys_iff.1 mem
      suspendedAt := fun _ mem => (Option.filter_eq_some_iff.1 mem).2 }
  ticks := savable.ticks

/-- What is printed reads back. -/
theorem load (savable : s.Savable) (finite : s.BubblesFinite) :
    Snapshot.codec.ofText (Snapshot.codec.pretty s.capture ++ "\n") =
      .ok ⟨s.record.written, s.fingerprint⟩ := by
  rw [Codec.pretty_append]
  change Snapshot.codec.ofText
    (String.ofList ((Snapshot.codec.write ⟨s.record, s.fingerprint⟩).write .pretty 0 _)) = _
  rw [← Snapshot.write_written]
  exact ((savable.record finite).reads s.fingerprint).ofText Json.Spacing.blank_pretty
    isBlank_newline

theorem refuse (savable : s.Savable) (infinite : ¬ s.BubblesFinite) :
    ∃ f, Snapshot.codec.ofText (Snapshot.codec.pretty s.capture ++ "\n") = .error f := by
  simp only [BubblesFinite, not_forall] at infinite
  obtain ⟨bubble, live, infinite⟩ := infinite
  obtain ⟨q, mem, rfl⟩ := List.mem_map.1 live
  rw [Codec.pretty_append]
  refine Codec.Refuses.ofText ?_ Json.Spacing.blank_pretty isBlank_newline
  refine Snapshot.refuses savable.sound.usable.isFinite savable.scene
    (Bubbles.refuses (fun p mem => ?_) mem infinite)
  have found : (s.world.role p.1).bubble = some p.2 := IdMap.mem_entries_iff.1 mem
  exact savable.isWord_of_bubble (by rw [found]; rfl)

end Savable

/-! ## Restoring -/

/-- What was written of a stage with suspended bubbles is restored as it was. -/
theorem record_restored (sound : s.Sound) (suspended : s.world.bubbles.suspendedAt = some s.time)
    (other : Stage) :
    ∃ restored, other.restore ⟨s.record.written, s.fingerprint⟩ = (restored, none) ∧
      restored.record = s.record := by
  refine ⟨s.record.written.toStage, ?_, ?_⟩
  · have accepted : ofSnapshot ⟨s.record.written, s.fingerprint⟩ =
        .ok s.record.written.toStage := by
      unfold ofSnapshot
      change (s.config.check.mapError RestoreError.invalidConfig >>= fun _ => _) = _
      rw [sound.valid]
      exact if_neg (not_not_intro s.record.fingerprint_written)
    rw [restore, accepted]
  · have since : (s.world.bubbles.suspendedAt.filter (·.isFinite)).or (some s.time) =
        s.world.bubbles.suspendedAt := by
      rw [suspended, Option.filter_some]
      split <;> rfl
    exact congrArg (fun at? : Option Float =>
      (⟨s.config, s.world.scene, { s.world.bubbles with suspendedAt := at? }, s.random, s.ticks⟩ :
        Record)) since

end Stage

end Playhouse
