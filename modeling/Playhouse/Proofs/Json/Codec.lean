import Playhouse.Json.Codec
import Playhouse.Proofs.IdMap
import Playhouse.Proofs.Json.Node

/-!
# Codecs that read back what they write

`Codec.Reads` says that a codec reads back what it writes of a value, and `Codec.Refuses` that it
refuses to. There is a rule for every combinator, so that whether a value of a format reads back is
settled field by field. Tagged records are held before they are read, which bounds how deeply they
may be nested: the bound is carried along as the `room` for further arrays and objects.

A value that reads back in room enough is the value that its text holds (`Codec.Reads.ofText`).
-/

namespace Playhouse

/-- The id has at most 32 bits. -/
def ActorId.IsWord (id : ActorId) : Prop :=
  id.index ≤ 0xFFFFFFFF

/-- There is less room inside. -/
theorem Place.inner_fits {p : Place} {room : ℕ} (fits : p.level + (room + 1) ≤ Node.deepest) :
    p.inner.level + room ≤ Node.deepest := by
  show p.level + 1 + room ≤ _
  omega

namespace Codec

variable {α β γ σ : Type} {room : ℕ}

/-- The codec reads back what it writes of the value, with room for so many nested arrays and
objects. -/
def Reads (c : Codec α) (room : ℕ) (a : α) : Prop :=
  ∀ p : Place, p.level + room ≤ Node.deepest → c.read p (Node.ofJson (c.write a)) = .ok a

/-- The codec refuses to read what it writes of the value. -/
def Refuses (c : Codec α) (room : ℕ) (a : α) : Prop :=
  ∀ p : Place, p.level + room ≤ Node.deepest →
    ∃ f, c.read p (Node.ofJson (c.write a)) = .error f

/-! ## Documents -/

section Document

variable {c : Codec α} {a : α} {spacing : Json.Spacing} {rest : List Char}

theorem Reads.ofText (reads : c.Reads Node.deepest a) (blank : spacing.Blank)
    (rests : ∀ c ∈ rest, Token.isBlank c = true) :
    c.ofText (String.ofList ((c.write a).write spacing 0 rest)) = .ok a := by
  unfold Codec.ofText
  rw [Document.ofText_write blank _ rests]
  dsimp only
  rw [reads .top (Nat.le_of_eq (Nat.zero_add _))]
  rfl

theorem Refuses.ofText (refuses : c.Refuses Node.deepest a) (blank : spacing.Blank)
    (rests : ∀ c ∈ rest, Token.isBlank c = true) :
    ∃ f, c.ofText (String.ofList ((c.write a).write spacing 0 rest)) = .error f := by
  obtain ⟨f, refused⟩ := refuses .top (Nat.le_of_eq (Nat.zero_add _))
  refine ⟨f, ?_⟩
  unfold Codec.ofText
  rw [Document.ofText_write blank _ rests]
  dsimp only
  rw [refused]
  rfl

end Document

/-! ## Values without parts -/

theorem reads_float {x : Float} (finite : x.isFinite = true) : float.Reads room x := by
  intro p _
  have tree : Node.ofJson (.real x) = .number (.ofFloat x) := by rw [Node.ofJson, if_pos finite]
  change float.read p (Node.ofJson (.real x)) = .ok x
  rw [tree]
  unfold float
  dsimp only
  rw [Numeral.overflows_ofFloat finite, Numeral.toFloat_ofFloat finite]
  rfl

theorem refuses_float {x : Float} (infinite : x.isFinite = false) : float.Refuses room x := by
  intro p _
  refine ⟨.mismatch, ?_⟩
  have tree : Node.ofJson (.real x) = .null := by rw [Node.ofJson, if_neg (by simp [infinite])]
  change float.read p (Node.ofJson (.real x)) = _
  rw [tree]
  rfl

theorem reads_natural {greatest n : ℕ} (fits : n ≤ greatest) :
    (natural greatest).Reads room n := by
  intro p _
  change (if n ≤ greatest then Except.ok n else _) = _
  rw [if_pos fits]

theorem reads_word128 (x : BitVec 128) : word128.Reads room x := by
  intro p _
  change (let word := BitVec.ofNat 128 x.toNat
    if word.toNat = x.toNat then Except.ok word else Except.error Fault.malformed) = _
  rw [BitVec.ofNat_toNat, BitVec.setWidth_eq]
  exact if_pos rfl

theorem reads_text (s : String) : Codec.text.Reads room s :=
  fun _ _ => Quoted.text_ofText s

theorem reads_integer {n : ℤ} (bits : n.natAbs < 2 ^ 52) : integer.Reads room n := by
  intro p _
  have whole : (Numeral.ofInt n).integer? = some n := by
    cases n <;> rfl
  have fits : (Numeral.ofInt n).overflows = false := by
    cases n <;> exact Numeral.overflows_natural bits _ _
  change integer.read p (.number (.ofInt n)) = _
  unfold integer
  dsimp only
  rw [whole, fits]
  rfl

theorem Reads.via {c : Codec α} {lower : β → α} {lift? : α → Option β} {b : β}
    (reads : c.Reads room (lower b)) (lifts : lift? (lower b) = some b) :
    (c.via lower lift?).Reads room b := by
  intro p fits
  unfold Codec.via
  dsimp only
  rw [reads p fits]
  dsimp only [bind, Except.bind]
  rw [lifts]
  rfl

/-! ## Lists, pairs and optional values -/

theorem readItems_eq {read : Node → Except Fault α} {f : α → Node} {l : List α}
    (all : ∀ a ∈ l, read (f a) = .ok a) : readItems read (l.map f) = .ok l := by
  induction l with
  | nil => rfl
  | cons a l ih =>
    rw [List.map_cons, readItems, all a List.mem_cons_self,
      ih fun b mem => all b (List.mem_cons_of_mem _ mem)]
    rfl

theorem reads_list {c : Codec α} {l : List α} (all : ∀ a ∈ l, c.Reads room a) :
    (list c).Reads (room + 1) l := by
  intro p fits
  have inner := Place.inner_fits fits
  change (do
    let l ← readItems (c.read p.inner) (Node.ofItems (l.map c.write))
    Node.ending none
    pure l) = Except.ok l
  rw [Node.ofItems_map, readItems_eq fun a mem => all a mem p.inner inner]
  rfl

theorem reads_none {c : Codec α} : (optional c).Reads room none :=
  fun _ _ => rfl

theorem Reads.optional {c : Codec α} {a : α} (reads : c.Reads room a)
    (written : Node.ofJson (c.write a) ≠ .null) : (optional c).Reads room (some a) := by
  intro p fits
  unfold Codec.optional
  dsimp only
  split
  · rename_i null
    exact absurd null written
  · rw [reads p fits]
    rfl

theorem Reads.pair {c : Codec α} {d : Codec β} {a : α} {b : β} (first : c.Reads room a)
    (second : d.Reads room b) : (pair c d).Reads (room + 1) (a, b) := by
  intro p fits
  have inner := Place.inner_fits fits
  change (Codec.pair c d).read p
    (.array [Node.ofJson (c.write a), Node.ofJson (d.write b)] none) = _
  simp only [Codec.pair, Fields.readItems, first p.inner inner, second p.inner inner]
  rfl

/-! ## Ids -/

theorem reads_actorId {id : ActorId} (word : id.IsWord) : actorId.Reads room id :=
  (reads_natural word).via rfl

theorem readIdKey_idKey {id : ActorId} (word : id.IsWord) :
    readIdKey (.ofText (idKey id)) = .ok id := by
  have whole := isWhole_toDigits id.index
  have scanned := Numeral.writes_integer id.index [] nofun
  rw [List.append_nil] at scanned
  have raw : Quoted.ofText (idKey id) = ⟨Json.integerText id.index, true⟩ := by
    unfold Quoted.ofText idKey
    rw [String.toList_ofList, escape_digits whole.all]
    rfl
  have bits : id.index < 2 ^ 52 := by
    unfold ActorId.IsWord at word
    omega
  obtain ⟨c, more, text, start⟩ := Numeral.exists_head_of_scan scanned
  unfold readIdKey
  rw [raw]
  dsimp only
  rw [text] at scanned ⊢
  dsimp only
  rw [if_pos (by simpa using start), scanned]
  dsimp only
  rw [show (Numeral.ofInt id.index).overflows = false from Numeral.overflows_natural bits _ _]
  exact (if_pos (show id.index ≤ 0xFFFFFFFF from word)).trans rfl

theorem readEntries_eq {read : Node → Except Fault α} {f : α → Node} {l : List (ActorId × α)}
    (m : IdMap α) (ascending : (m.entries ++ l).Pairwise fun p q => p.1 < q.1)
    (all : ∀ p : ActorId × α, p ∈ l → p.1.IsWord ∧ read (f p.2) = .ok p.2) :
    readEntries read m (l.map fun p => (some (.ofText (idKey p.1)), f p.2)) =
      .ok ⟨m.entries ++ l, ascending⟩ := by
  induction l generalizing m with
  | nil =>
    refine congrArg Except.ok (IdMap.ext ?_)
    exact (List.append_nil _).symm
  | cons p l ih =>
    obtain ⟨id, a⟩ := p
    obtain ⟨word, value⟩ := all _ List.mem_cons_self
    have last : ∀ q ∈ m.entries, q.1 < id := fun q mem =>
      (List.pairwise_append.1 ascending).2.2 q mem _ List.mem_cons_self
    have entries : (m.insert id a).entries = m.entries ++ [(id, a)] := IdMap.insertEntry_last last
    have same : (m.insert id a).entries ++ l = m.entries ++ (id, a) :: l := by
      rw [entries, List.append_assoc]
      rfl
    rw [List.map_cons, readEntries, readIdKey_idKey word]
    change (do
      let a ← read (f a)
      readEntries read (m.insert id a)
        (l.map fun p : ActorId × α => (some (.ofText (idKey p.1)), f p.2))) = _
    rw [value]
    refine (ih (m.insert id a) (same ▸ ascending)
      fun q mem => all q (List.mem_cons_of_mem _ mem)).trans ?_
    exact congrArg Except.ok (IdMap.ext same)

theorem readEntries_error {read : Node → Except Fault α} {f : α → Node} {l : List (ActorId × α)}
    (m : IdMap α)
    (all : ∀ p : ActorId × α, p ∈ l →
      p.1.IsWord ∧ (read (f p.2) = .ok p.2 ∨ ∃ e, read (f p.2) = .error e))
    {q : ActorId × α} (mem : q ∈ l) (refused : ∃ e, read (f q.2) = .error e) :
    ∃ e, readEntries read m
      (l.map fun p : ActorId × α => (some (.ofText (idKey p.1)), f p.2)) = .error e := by
  induction l generalizing m with
  | nil => cases mem
  | cons p l ih =>
    obtain ⟨id, a⟩ := p
    obtain ⟨word, value⟩ := all _ List.mem_cons_self
    rw [List.map_cons, readEntries, readIdKey_idKey word]
    change ∃ e, (do
      let a ← read (f a)
      readEntries read (m.insert id a)
        (l.map fun p : ActorId × α => (some (.ofText (idKey p.1)), f p.2))) = .error e
    rcases value with value | ⟨e, value⟩
    · rw [value]
      refine ih (m.insert id a) (fun q mem => all q (List.mem_cons_of_mem _ mem)) ?_
      rcases List.mem_cons.1 mem with rfl | mem
      · obtain ⟨e, refused⟩ := refused
        cases value.symm.trans refused
      · exact mem
    · rw [value]
      exact ⟨e, rfl⟩

theorem reads_idMap {c : Codec α} {m : IdMap α}
    (all : ∀ p : ActorId × α, p ∈ m.entries → p.1.IsWord ∧ c.Reads room p.2) :
    (idMap c).Reads (room + 1) m := by
  intro p fits
  have inner := Place.inner_fits fits
  change (do
    let m ← readEntries (c.read p.inner) ∅
      (Node.ofMembers (m.entries.map fun p => (idKey p.1, c.write p.2)))
    Node.ending none
    pure m) = Except.ok m
  rw [Node.ofMembers_map, readEntries_eq (f := fun a => Node.ofJson (c.write a)) ∅ m.ascending
    fun q mem => ⟨(all q mem).1, (all q mem).2 p.inner inner⟩]
  rfl

/-- A map is refused if one of its values is. -/
theorem refuses_idMap {c : Codec α} {m : IdMap α}
    (all : ∀ p : ActorId × α, p ∈ m.entries →
      p.1.IsWord ∧ (c.Reads room p.2 ∨ c.Refuses room p.2))
    {q : ActorId × α} (mem : q ∈ m.entries) (refuses : c.Refuses room q.2) :
    (idMap c).Refuses (room + 1) m := by
  intro p fits
  have inner := Place.inner_fits fits
  obtain ⟨f, refused⟩ := readEntries_error (f := fun a => Node.ofJson (c.write a)) (∅ : IdMap α)
    (fun q mem => ⟨(all q mem).1, (all q mem).2.imp (· p.inner inner) (· p.inner inner)⟩) mem
    (refuses p.inner inner)
  refine ⟨f, ?_⟩
  change (do
    let m ← readEntries (c.read p.inner) ∅
      (Node.ofMembers (m.entries.map fun p : ActorId × α => (idKey p.1, c.write p.2)))
    Node.ending none
    pure m) = _
  rw [Node.ofMembers_map, refused]
  rfl

theorem reads_idSet {s : IdSet} (all : ∀ id ∈ s.toList, id.IsWord) : idSet.Reads (room + 1) s := by
  refine (reads_list fun id mem => reads_actorId (all id mem)).via ?_
  exact congrArg some (IdSet.ofList_toList s)

end Codec

/-! ## Records -/

namespace Fields

variable {α β γ σ : Type} {room : ℕ}

def names : {γ σ : Type} → Fields γ σ → List String
  | _, _, .nil => []
  | _, _, .cons name _ _ rest => name :: rest.names

/-- What has been read when all fields have been. -/
def filled : {γ σ : Type} → Fields γ σ → γ → σ
  | _, _, .nil, _ => ()
  | _, _, .cons _ _ _ rest, (a, others) => (some a, rest.filled others)

/-- All fields read back. -/
inductive Reads (room : ℕ) : {γ σ : Type} → Fields γ σ → γ → Prop where
  | nil : Reads room .nil ()
  | cons {α β σ : Type} {name : String} {codec : Codec α} {missing : Option α} {rest : Fields β σ}
      {a : α} {others : β} (first : codec.Reads room a) (more : Reads room rest others) :
      Reads room (.cons name codec missing rest) (a, others)

/-- A field is refused and those before it read back. -/
inductive Refuses (room : ℕ) : {γ σ : Type} → Fields γ σ → γ → Prop where
  | first {α β σ : Type} {name : String} {codec : Codec α} {missing : Option α}
      {rest : Fields β σ} {a : α} {others : β} (refuses : codec.Refuses room a) :
      Refuses room (.cons name codec missing rest) (a, others)
  | later {α β σ : Type} {name : String} {codec : Codec α} {missing : Option α}
      {rest : Fields β σ} {a : α} {others : β} (first : codec.Reads room a)
      (refuses : Refuses room rest others) :
      Refuses room (.cons name codec missing rest) (a, others)

theorem complete_filled (fs : Fields γ σ) (c : γ) : fs.complete (fs.filled c) = .ok c := by
  induction fs with
  | nil => rfl
  | cons name codec missing rest ih =>
    obtain ⟨a, others⟩ := c
    rw [filled, complete]
    change (do
      let others ← complete rest (rest.filled others)
      pure (a, others)) = _
    rw [ih]
    rfl

theorem readMember_cons {p : Place} {key name : String} {n : Node} {codec : Codec α}
    {missing : Option α} {rest : Fields β σ} (slot : Option α) (slots : σ) :
    readMember p key n (.cons name codec missing rest) (slot, slots) =
      if key = name then
        match slot with
        | some _ => some (.error .mismatch)
        | none => some ((codec.read p n).map fun a => (some a, slots))
      else (readMember p key n rest slots).map fun r => r.map fun slots => (slot, slots) :=
  rfl

/-- Members that have other names than the first field pass it by. -/
theorem readMembers_cons {p : Place} {name : String} {codec : Codec α} {missing : Option α}
    {rest : Fields β σ} (slot : Option α) (slots : σ) {members : List (String × Json)}
    (other : ∀ m : String × Json, m ∈ members → m.1 ≠ name) :
    readMembers p (.cons name codec missing rest) (slot, slots) (Node.ofMembers members) =
      (readMembers p rest slots (Node.ofMembers members)).map (slot, ·) := by
  induction members generalizing slots with
  | nil => rfl
  | cons m members ih =>
    obtain ⟨key, value⟩ := m
    have different : key ≠ name := other _ List.mem_cons_self
    have ih := fun slots => ih slots fun m mem => other m (List.mem_cons_of_mem _ mem)
    rw [Node.ofMembers, readMembers, readMembers, Quoted.text_ofText]
    dsimp only [bind, Except.bind]
    rw [readMember_cons, if_neg different]
    cases readMember p key (Node.ofJson value) rest slots with
    | none =>
      dsimp only [Option.map]
      cases (Node.ofJson value).skip with
      | error f => rfl
      | ok _ => exact ih slots
    | some read =>
      cases read with
      | error f => rfl
      | ok slots => exact ih slots

theorem name_of_mem_write (fs : Fields γ σ) {c : γ} {m : String × Json} (mem : m ∈ fs.write c) :
    m.1 ∈ fs.names := by
  induction fs with
  | nil => cases mem
  | cons name codec missing rest ih =>
    obtain ⟨a, others⟩ := c
    rcases List.mem_cons.1 mem with rfl | mem
    · exact List.mem_cons_self
    · exact List.mem_cons_of_mem _ (ih mem)

theorem readMembers_write_cons {p : Place} {name : String} {codec : Codec α} {missing : Option α}
    {rest : Fields β σ} {a : α} {others : β} (distinct : name ∉ rest.names) :
    readMembers p (.cons name codec missing rest) (none, rest.blank)
        (Node.ofMembers ((name, codec.write a) :: rest.write others)) =
      (codec.read p (Node.ofJson (codec.write a))).bind fun a =>
        (readMembers p rest rest.blank (Node.ofMembers (rest.write others))).map (some a, ·) := by
  rw [Node.ofMembers, readMembers, Quoted.text_ofText]
  dsimp only [bind, Except.bind]
  rw [readMember_cons, if_pos rfl]
  dsimp only
  cases codec.read p (Node.ofJson (codec.write a)) with
  | error f => rfl
  | ok a =>
    refine readMembers_cons (some a) rest.blank fun m mem same => distinct ?_
    exact same ▸ rest.name_of_mem_write mem

theorem readMembers_write (fs : Fields γ σ) {c : γ} (distinct : fs.names.Nodup) {p : Place}
    (fits : p.level + room ≤ Node.deepest) (reads : fs.Reads room c) :
    fs.readMembers p fs.blank (Node.ofMembers (fs.write c)) = .ok (fs.filled c) := by
  induction reads with
  | nil => rfl
  | @cons α β σ name codec missing rest a others first more ih =>
    obtain ⟨new, distinct⟩ := List.nodup_cons.1 distinct
    refine (readMembers_write_cons new).trans ?_
    rw [first p fits, ih distinct]
    rfl

theorem readMembers_error (fs : Fields γ σ) {c : γ} (distinct : fs.names.Nodup) {p : Place}
    (fits : p.level + room ≤ Node.deepest) (refuses : fs.Refuses room c) :
    ∃ f, fs.readMembers p fs.blank (Node.ofMembers (fs.write c)) = .error f := by
  induction refuses with
  | first refuses =>
    obtain ⟨new, distinct⟩ := List.nodup_cons.1 distinct
    obtain ⟨f, refused⟩ := refuses p fits
    refine ⟨f, (readMembers_write_cons new).trans ?_⟩
    rw [refused]
    rfl
  | later first _ ih =>
    obtain ⟨new, distinct⟩ := List.nodup_cons.1 distinct
    obtain ⟨f, refused⟩ := ih distinct
    refine ⟨f, (readMembers_write_cons new).trans ?_⟩
    rw [first p fits, refused]
    rfl

end Fields

namespace Codec

variable {α γ σ : Type} {room : ℕ} {fs : Fields γ σ} {short : Bool} {parts : α → γ} {build : γ → α}
  {a : α}

theorem reads_record (distinct : fs.names.Nodup) (reads : fs.Reads room (parts a))
    (whole : build (parts a) = a) : (record fs short parts build).Reads (room + 1) a := by
  intro p fits
  have inner := Place.inner_fits fits
  change (do
    let slots ← fs.readMembers p.inner fs.blank (Node.ofMembers (fs.write (parts a)))
    Node.ending none
    let c ← fs.complete slots
    pure (build c)) = _
  rw [fs.readMembers_write distinct inner reads]
  change (do
    let c ← fs.complete (fs.filled (parts a))
    pure (build c)) = _
  rw [fs.complete_filled]
  exact congrArg Except.ok whole

theorem refuses_record (distinct : fs.names.Nodup) (refuses : fs.Refuses room (parts a)) :
    (record fs short parts build).Refuses (room + 1) a := by
  intro p fits
  have inner := Place.inner_fits fits
  obtain ⟨f, refused⟩ := fs.readMembers_error distinct inner refuses
  refine ⟨f, ?_⟩
  change (do
    let slots ← fs.readMembers p.inner fs.blank (Node.ofMembers (fs.write (parts a)))
    Node.ending none
    let c ← fs.complete slots
    pure (build c)) = _
  rw [refused]
  rfl

/-! ## Choices -/

theorem reads_choice {names : List (String × α)} {name : α → String}
    (named : names.lookup (name a) = some a) : (choice names name).Reads room a := by
  intro p _
  change (do Codec.named names (← (Quoted.ofText (name a)).text)) = _
  rw [Quoted.text_ofText]
  change Codec.named names (name a) = _
  unfold Codec.named
  rw [named]

end Codec

/-! ## Tagged records -/

/-- The value may be held, with room for so many nested arrays and objects. -/
def Json.Holds (room : ℕ) (j : Json) : Prop :=
  ∀ level, level + room ≤ Node.deepest → (Node.ofJson j).hold level = .ok ()

/-- The values of all members may be held. -/
def Json.HoldsAll (room : ℕ) (members : List (String × Json)) : Prop :=
  ∀ m : String × Json, m ∈ members → m.2.Holds room

namespace Json

variable {room : ℕ}

theorem HoldsAll.nil : HoldsAll room [] :=
  nofun

theorem HoldsAll.cons {key : String} {value : Json} {members : List (String × Json)}
    (first : value.Holds room) (more : HoldsAll room members) :
    HoldsAll room ((key, value) :: members) :=
  List.forall_mem_cons.2 ⟨first, more⟩

theorem holds_real (x : Float) : Holds room (.real x) := by
  intro level _
  rw [Node.ofJson]
  split_ifs with finite
  · rw [Node.hold, Numeral.overflows_ofFloat finite]
    rfl
  · rw [Node.hold]

theorem holds_natural {n : ℕ} (bits : n < 2 ^ 52) : Holds room (.natural n) := by
  intro level _
  change (Node.number ⟨false, ⟨n, 0⟩, true⟩).hold level = _
  rw [Node.hold, Numeral.overflows_natural bits]
  rfl

theorem holds_text (s : String) : Holds room (.text s) := by
  intro level _
  rw [Node.ofJson, Node.hold, Quoted.text_ofText]
  rfl

theorem holdMembers_eq {level : ℕ} {members : List (String × Json)}
    (fits : level + room ≤ Node.deepest) (all : HoldsAll room members) :
    Node.holdMembers level (Node.ofMembers members) = .ok () := by
  induction members with
  | nil => rfl
  | cons m members ih =>
    obtain ⟨key, value⟩ := m
    rw [Node.ofMembers, Node.holdMembers, Quoted.text_ofText,
      show (Node.ofJson value).hold level = .ok () from all _ List.mem_cons_self level fits]
    exact ih fun m mem => all m (List.mem_cons_of_mem _ mem)

theorem holds_object {members : List (String × Json)} (all : HoldsAll room members) :
    Holds (room + 1) (.object members) := by
  intro level fits
  rw [Node.ofJson, Node.hold, if_neg (by omega), holdMembers_eq (by omega) all]
  rfl

end Json

namespace Codec

variable {α γ σ : Type} {room : ℕ} {a : α}

theorem readTagged_eq {tag : String} {kinds : List (Kind α)} {level : ℕ} {k : Kind α}
    {members : List (String × Json)} (done : List Node.Member)
    (fits : level + room ≤ Node.deepest) (other : ∀ m ∈ members, m.1 ≠ tag)
    (holds : Json.HoldsAll room members) :
    readTagged tag kinds level (some k) done (Node.ofMembers members) =
      .ok (some k, done.reverse ++ Node.ofMembers members) := by
  induction members generalizing done with
  | nil =>
    rw [Node.ofMembers, List.append_nil]
    rfl
  | cons m members ih =>
    obtain ⟨key, value⟩ := m
    have different : key ≠ tag := other _ List.mem_cons_self
    have held : (Node.ofJson value).hold level = .ok () := holds _ List.mem_cons_self level fits
    rw [Node.ofMembers, readTagged, Quoted.text_ofText]
    dsimp only [bind, Except.bind]
    rw [if_neg different, held]
    refine (ih _ (fun m mem => other m (List.mem_cons_of_mem _ mem))
      fun m mem => holds m (List.mem_cons_of_mem _ mem)).trans ?_
    rw [List.reverse_cons, List.append_assoc]
    rfl

/-- A kind reads its fields. -/
theorem ofMembers_kind {fs : Fields γ σ} {c : γ} (name : String) {build : γ → α}
    (distinct : fs.names.Nodup) (reads : fs.Reads room c) {p : Place}
    (fits : p.level + room ≤ Node.deepest) :
    (kind name fs build).ofMembers p (Node.ofMembers (fs.write c)) = .ok (build c) := by
  change (do
    let slots ← fs.readMembers p fs.blank (Node.ofMembers (fs.write c))
    let c ← fs.complete slots
    pure (build c)) = _
  rw [fs.readMembers_write distinct fits reads]
  change (do
    let c ← fs.complete (fs.filled c)
    pure (build c)) = _
  rw [fs.complete_filled]
  rfl

/-- A record of one kind reads back. -/
theorem reads_tagged {tag name : String} {kinds : List (Kind α)}
    {write : α → String × List (String × Json)} (fs : Fields γ σ) {c : γ} {build : γ → α}
    (written : write a = (name, fs.write c))
    (found : kinds.find? (·.name = name) = some (kind name fs build))
    (distinct : (tag :: fs.names).Nodup) (holds : Json.HoldsAll room (fs.write c))
    (reads : fs.Reads room c) (whole : build c = a) :
    (tagged tag kinds write).Reads (room + 1) a := by
  intro p fits
  have inner : p.level + 1 + room ≤ Node.deepest := by omega
  obtain ⟨new, distinct⟩ := List.nodup_cons.1 distinct
  have other : ∀ m ∈ fs.write c, m.1 ≠ tag :=
    fun m mem same => new (same ▸ fs.name_of_mem_write mem)
  have members : readTagged tag kinds (p.level + 1) none []
      ((some (.ofText tag), .text (.ofText name)) :: Node.ofMembers (fs.write c)) =
        .ok (some (kind name fs build), Node.ofMembers (fs.write c)) := by
    rw [readTagged, Quoted.text_ofText]
    dsimp only [bind, Except.bind]
    rw [if_pos rfl]
    dsimp only [readKind, bind, Except.bind]
    rw [Quoted.text_ofText]
    dsimp only
    rw [found]
    exact readTagged_eq [] inner other holds
  have tree : Node.ofJson ((tagged tag kinds write).write a) = .object
      ((some (.ofText tag), .text (.ofText name)) :: Node.ofMembers (fs.write c)) none := by
    change Node.ofJson (.object ((tag, .text (write a).1) :: (write a).2)) = _
    rw [written]
    rfl
  rw [tree]
  unfold tagged
  dsimp only
  rw [members, ← whole]
  exact ofMembers_kind name distinct reads inner

end Codec

end Playhouse
