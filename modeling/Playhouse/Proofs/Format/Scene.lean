import Mathlib.Tactic.MkIffOfInductiveProp
import Playhouse.Format.Scene
import Playhouse.Proofs.Json.Codec

/-!
# Scenes and reports that read back

What can be stored are values whose real numbers are finite, whose ids have 32 bits, and whose
counters have 64 bits (`Scene.Storable`, `Bubbles.Storable`, `Report.Storable`). Each of them reads
back what is written of it.
-/

namespace Playhouse

open Codec

variable {room : ℕ}

/-- A number of at most 64 bits. -/
def IsWord64 (n : ℕ) : Prop :=
  n ≤ 0xFFFFFFFFFFFFFFFF

instance (n : ℕ) : Decidable (IsWord64 n) :=
  inferInstanceAs (Decidable (n ≤ 0xFFFFFFFFFFFFFFFF))

instance (id : ActorId) : Decidable id.IsWord :=
  inferInstanceAs (Decidable (id.index ≤ 0xFFFFFFFF))

/-- Every id has 32 bits, and every value can be stored. -/
def IdMap.Storable {α : Type} (storable : α → Prop) (m : IdMap α) : Prop :=
  ∀ p : ActorId × α, p ∈ m.entries → p.1.IsWord ∧ storable p.2

instance {α : Type} (storable : α → Prop) [DecidablePred storable] (m : IdMap α) :
    Decidable (m.Storable storable) :=
  inferInstanceAs (Decidable (∀ p ∈ m.entries, p.1.IsWord ∧ storable p.2))

theorem IdMap.Storable.reads {α : Type} {storable : α → Prop} {m : IdMap α} {c : Codec α}
    (all : m.Storable storable) (reads : ∀ a, storable a → c.Reads room a) :
    (idMap c).Reads (room + 1) m :=
  reads_idMap fun p mem => ⟨(all p mem).1, reads p.2 (all p mem).2⟩

/-! ## Blocks -/

theorem SpeechKind.reads (kind : SpeechKind) : SpeechKind.codec.Reads room kind :=
  reads_choice (by cases kind <;> rfl)

namespace Block

/-- All numbers of the block are finite. -/
def IsFinite : Block → Prop
  | .move dx dy => dx.isFinite = true ∧ dy.isFinite = true
  | .turn angle => angle.isFinite = true
  | .speak _ _ seconds => seconds.isFinite = true
  | .restart => True

instance : DecidablePred IsFinite
  | .move dx dy => inferInstanceAs (Decidable (dx.isFinite = true ∧ dy.isFinite = true))
  | .turn angle => inferInstanceAs (Decidable (angle.isFinite = true))
  | .speak _ _ seconds => inferInstanceAs (Decidable (seconds.isFinite = true))
  | .restart => inferInstanceAs (Decidable True)

theorem IsFinite.reads {b : Block} (finite : b.IsFinite) : codec.Reads (room + 1) b := by
  cases b with
  | move dx dy =>
    exact reads_tagged moveFields rfl rfl (by decide)
      (.cons (Json.holds_real dx) (.cons (Json.holds_real dy) .nil))
      (.cons (reads_float finite.1) (.cons (reads_float finite.2) .nil)) rfl
  | turn angle =>
    exact reads_tagged turnFields rfl rfl (by decide) (.cons (Json.holds_real angle) .nil)
      (.cons (reads_float finite) .nil) rfl
  | speak kind text seconds =>
    have holds : Json.HoldsAll room (speechFields.write (text, seconds, ())) :=
      .cons (Json.holds_text text) (.cons (Json.holds_real seconds) .nil)
    have reads : speechFields.Reads room (text, seconds, ()) :=
      .cons (reads_text text) (.cons (reads_float finite) .nil)
    cases kind with
    | say => exact reads_tagged speechFields rfl rfl (by decide) holds reads rfl
    | think => exact reads_tagged speechFields rfl rfl (by decide) holds reads rfl
  | restart => exact reads_tagged .nil rfl rfl (by decide) .nil .nil rfl

end Block

def Program.IsFinite (p : Program) : Prop :=
  ∀ b ∈ p, b.IsFinite

instance : DecidablePred Program.IsFinite :=
  fun p => inferInstanceAs (Decidable (∀ b ∈ p, b.IsFinite))

theorem Program.IsFinite.reads {p : Program} (finite : p.IsFinite) :
    Program.codec.Reads (room + 2) p :=
  reads_list fun b mem => (finite b mem).reads

/-! ## Geometry -/

def Size.IsFinite (s : Size) : Prop :=
  s.width.isFinite = true ∧ s.height.isFinite = true

instance (s : Size) : Decidable s.IsFinite :=
  inferInstanceAs (Decidable (s.width.isFinite = true ∧ s.height.isFinite = true))

theorem Size.IsFinite.reads {s : Size} (finite : s.IsFinite) : Size.codec.Reads (room + 1) s :=
  reads_record (by decide) (.cons (reads_float finite.1) (.cons (reads_float finite.2) .nil)) rfl

def Point.IsFinite (p : Point) : Prop :=
  p.x.isFinite = true ∧ p.y.isFinite = true

instance (p : Point) : Decidable p.IsFinite :=
  inferInstanceAs (Decidable (p.x.isFinite = true ∧ p.y.isFinite = true))

theorem Point.IsFinite.reads {p : Point} (finite : p.IsFinite) : Point.codec.Reads (room + 1) p :=
  reads_record (by decide) (.cons (reads_float finite.1) (.cons (reads_float finite.2) .nil)) rfl

/-- A point that is not finite is refused. -/
theorem Point.refuses {p : Point} (infinite : ¬ p.IsFinite) : Point.codec.Refuses (room + 1) p := by
  refine refuses_record (by decide) ?_
  cases finite : p.x.isFinite with
  | false => exact .first (refuses_float finite)
  | true =>
    have second : p.y.isFinite = false := by
      simpa [IsFinite, finite] using infinite
    exact .later (reads_float finite) (.first (refuses_float second))

def Bounds.IsFinite (b : Bounds) : Prop :=
  b.canvas.IsFinite ∧ b.actor.IsFinite

instance (b : Bounds) : Decidable b.IsFinite :=
  inferInstanceAs (Decidable (b.canvas.IsFinite ∧ b.actor.IsFinite))

theorem Bounds.IsFinite.reads {b : Bounds} (finite : b.IsFinite) :
    Bounds.codec.Reads (room + 2) b :=
  reads_record (by decide) (.cons finite.1.reads (.cons finite.2.reads .nil)) rfl

/-! ## Cursors -/

def Cursor.IsWord (c : Cursor) : Prop :=
  IsWord64 c.position ∧ IsWord64 c.length

instance : DecidablePred Cursor.IsWord :=
  fun c => inferInstanceAs (Decidable (IsWord64 c.position ∧ IsWord64 c.length))

theorem Heading.reads (h : Heading) : Heading.codec.Reads room h := by
  refine (reads_integer ?_).via ?_
  · cases h <;> decide
  · cases h <;> rfl

theorem Cursor.IsWord.reads {c : Cursor} (word : c.IsWord) : Cursor.codec.Reads (room + 1) c :=
  reads_record (by decide)
    (.cons (reads_natural word.1) (.cons c.heading.reads (.cons (reads_natural word.2) .nil))) rfl

/-! ## Bubbles -/

def Bubble.IsFinite (b : Bubble) : Prop :=
  b.anchor.IsFinite ∧ b.deadline.isFinite = true

instance : DecidablePred Bubble.IsFinite :=
  fun b => inferInstanceAs (Decidable (b.anchor.IsFinite ∧ b.deadline.isFinite = true))

theorem Bubble.IsFinite.reads {b : Bubble} (finite : b.IsFinite) :
    Bubble.codec.Reads (room + 2) b :=
  reads_record (by decide)
    (.cons b.kind.reads (.cons (reads_text b.text)
      (.cons finite.1.reads (.cons (reads_float finite.2) .nil)))) rfl

theorem Bubble.refuses {b : Bubble} (infinite : ¬ b.IsFinite) :
    Bubble.codec.Refuses (room + 2) b := by
  refine refuses_record (by decide) (.later b.kind.reads (.later (reads_text b.text) ?_))
  by_cases anchor : b.anchor.IsFinite
  · have deadline : b.deadline.isFinite = false := by
      simpa [IsFinite, anchor] using infinite
    exact .later anchor.reads (.first (refuses_float deadline))
  · exact .first (Point.refuses anchor)

@[mk_iff]
structure Bubbles.Storable (b : Bubbles) : Prop where
  live : b.live.Storable Bubble.IsFinite
  paused : ∀ id ∈ b.paused.toList, id.IsWord
  suspendedAt : ∀ now ∈ b.suspendedAt, now.isFinite = true

instance (b : Bubbles) : Decidable b.Storable :=
  decidable_of_iff' _ (Bubbles.storable_iff b)

theorem reads_optional_float {x? : Option Float} (finite : ∀ x ∈ x?, x.isFinite = true) :
    (optional float).Reads room x? := by
  cases x? with
  | none => exact reads_none
  | some x =>
    have finite := finite x rfl
    refine (reads_float finite).optional ?_
    change Node.ofJson (.real x) ≠ .null
    rw [Node.ofJson, if_pos finite]
    exact Node.noConfusion

theorem Bubbles.Storable.reads {b : Bubbles} (storable : b.Storable) :
    Bubbles.codec.Reads (room + 4) b :=
  reads_record (by decide)
    (.cons (storable.live.reads fun _ finite => finite.reads)
      (.cons (reads_idSet storable.paused)
        (.cons (reads_optional_float storable.suspendedAt) .nil))) rfl

/-- One live bubble that is not finite is enough. -/
theorem Bubbles.refuses {b : Bubbles}
    (words : ∀ p : ActorId × Bubble, p ∈ b.live.entries → p.1.IsWord)
    {q : ActorId × Bubble} (mem : q ∈ b.live.entries) (infinite : ¬ q.2.IsFinite) :
    Bubbles.codec.Refuses (room + 4) b := by
  refine refuses_record (by decide) (.first (refuses_idMap (fun p mem => ?_) mem
    (Bubble.refuses infinite)))
  refine ⟨words p mem, ?_⟩
  by_cases finite : p.2.IsFinite
  · exact .inl finite.reads
  · exact .inr (Bubble.refuses finite)

def BubbleEvent.Storable : BubbleEvent → Prop
  | .shown actor bubble => actor.IsWord ∧ bubble.IsFinite
  | .hidden actor => actor.IsWord

instance : DecidablePred BubbleEvent.Storable
  | .shown actor bubble => inferInstanceAs (Decidable (actor.IsWord ∧ bubble.IsFinite))
  | .hidden actor => inferInstanceAs (Decidable actor.IsWord)

theorem ActorId.IsWord.holds {id : ActorId} (word : id.IsWord) :
    Json.Holds room (actorId.write id) := by
  refine Json.holds_natural ?_
  unfold IsWord at word
  omega

theorem Bubble.holds (b : Bubble) : Json.Holds (room + 2) (Bubble.codec.write b) :=
  Json.holds_object
    (.cons (Json.holds_text _) (.cons (Json.holds_text b.text)
      (.cons (Json.holds_object
          (.cons (Json.holds_real b.anchor.x) (.cons (Json.holds_real b.anchor.y) .nil)))
        (.cons (Json.holds_real b.deadline) .nil))))

theorem BubbleEvent.Storable.reads {e : BubbleEvent} (storable : e.Storable) :
    BubbleEvent.codec.Reads (room + 3) e := by
  cases e with
  | shown actor bubble =>
    exact reads_tagged shownFields rfl rfl (by decide)
      (.cons storable.1.holds (.cons bubble.holds .nil))
      (.cons (reads_actorId storable.1) (.cons storable.2.reads .nil)) rfl
  | hidden actor =>
    exact reads_tagged hiddenFields rfl rfl (by decide) (.cons storable.holds .nil)
      (.cons (reads_actorId storable) .nil) rfl

/-! ## Scenes -/

@[mk_iff]
structure Actor.Storable (a : Actor) : Prop where
  id : a.id.IsWord
  x : a.x.isFinite = true
  y : a.y.isFinite = true
  angle : a.angle.isFinite = true

instance : DecidablePred Actor.Storable :=
  fun a => decidable_of_iff' _ (Actor.storable_iff a)

theorem Actor.Storable.reads {a : Actor} (storable : a.Storable) :
    Actor.codec.Reads (room + 1) a :=
  reads_record (by decide)
    (.cons (reads_actorId storable.id) (.cons (reads_float storable.x)
      (.cons (reads_float storable.y) (.cons (reads_float storable.angle) .nil)))) rfl

@[mk_iff]
structure Scene.Storable (s : Scene) : Prop where
  bounds : s.bounds.IsFinite
  actors : s.actors.Storable Actor.Storable
  cursors : s.cursors.Storable Cursor.IsWord
  programs : s.programs.Storable Program.IsFinite
  held : ∀ id ∈ s.held.toList, id.IsWord
  nextId : s.nextId.IsWord

instance (s : Scene) : Decidable s.Storable :=
  decidable_of_iff' _ (Scene.storable_iff s)

theorem Scene.Storable.reads {s : Scene} (storable : s.Storable) :
    Scene.codec.Reads (room + 5) s := by
  have cursors : Cursors.codec.Reads (room + 4) s.cursors :=
    reads_record (by decide) (.cons (storable.cursors.reads fun _ word => word.reads) .nil) rfl
  have programs : Programs.codec.Reads (room + 4) s.programs :=
    reads_record (by decide) (.cons (storable.programs.reads fun _ finite => finite.reads) .nil) rfl
  exact reads_record (by decide)
    (.cons storable.bounds.reads (.cons (storable.actors.reads fun _ storable => storable.reads)
      (.cons cursors (.cons programs (.cons (reads_idSet storable.held)
        (.cons (reads_actorId storable.nextId) .nil)))))) rfl

/-! ## Reports -/

@[mk_iff]
structure Report.Storable (r : Report) : Prop where
  bubbleEvents : ∀ e ∈ r.bubbleEvents, e.Storable
  collisions : ∀ c ∈ r.collisions, c.first.IsWord ∧ c.second.IsWord
  bounces : ∀ b ∈ r.bounces, b.actor.IsWord
  executed : ∀ id ∈ r.executed, id.IsWord

instance (r : Report) : Decidable r.Storable :=
  decidable_of_iff' _ (Report.storable_iff r)

theorem Collision.reads {c : Collision} (words : c.first.IsWord ∧ c.second.IsWord) :
    Collision.codec.Reads (room + 1) c := by
  have side : Side.codec.Reads room c.side := reads_choice (by cases c.side <;> rfl)
  exact reads_record (by decide)
    (.cons (reads_actorId words.1) (.cons (reads_actorId words.2) (.cons side .nil))) rfl

theorem Bounce.reads {b : Bounce} (word : b.actor.IsWord) : Bounce.codec.Reads (room + 1) b := by
  have axis : Axis.codec.Reads room b.axis := reads_choice (by cases b.axis <;> rfl)
  exact reads_record (by decide) (.cons (reads_actorId word) (.cons axis .nil)) rfl

theorem Report.Storable.reads {r : Report} (storable : r.Storable) :
    Report.codec.Reads (room + 5) r :=
  reads_record (by decide)
    (.cons (reads_list fun e mem => (storable.bubbleEvents e mem).reads)
      (.cons (reads_list fun c mem => Collision.reads (storable.collisions c mem))
        (.cons (reads_list fun b mem => Bounce.reads (storable.bounces b mem))
          (.cons (reads_list fun id mem => reads_actorId (storable.executed id mem)) .nil)))) rfl

end Playhouse
