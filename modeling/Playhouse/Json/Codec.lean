import Playhouse.IdMap
import Playhouse.Json.Node
import Playhouse.Json.Writer

/-!
# Codecs: how a type is written to JSON and read from it

A `Codec` holds both directions. The combinators cover numbers, texts, lists, optional values, maps
and sets by actor id, records (`Fields`, `Codec.record`), choices among names (`Codec.choice`) and
records whose kind is told by a tag (`Codec.tagged`).

Reading answers the first fault of the document. Inside a tagged record everything has been held
already (`Node.hold`), so there only a `mismatch` is left to be found.
-/

namespace Playhouse

/-- Where a value stands: inside how many arrays and objects, and whether it has been held. -/
structure Place where
  level : Nat
  held : Bool

def Place.top : Place := ⟨0, false⟩

def Place.inner (p : Place) : Place := { p with level := p.level + 1 }

def Place.heldInner (p : Place) : Place := ⟨p.level + 1, true⟩

/-- What a surplus item or a value of the wrong kind counts as. -/
def Place.surplus (p : Place) : Fault := if p.held then .mismatch else .malformed

abbrev Reader (α : Type) := Place → Node → Except Fault α

structure Codec (α : Type) where
  write : α → Json
  read : Reader α

namespace Codec

variable {α β γ : Type}

/-- The value that a document holds and nothing more. -/
def ofText (c : Codec α) (s : String) : Except Fault α := do
  let document := Document.ofText s
  let a ← c.read .top document.root
  if document.trailing then throw .malformed
  pure a

def compact (c : Codec α) (a : α) : String :=
  (c.write a).compact

def pretty (c : Codec α) (a : α) : String :=
  (c.write a).pretty

/-! ## Values without parts -/

/-- The codec of a type whose values stand for some values of another type. -/
def via (c : Codec α) (lower : β → α) (lift? : α → Option β) : Codec β where
  write b := c.write (lower b)
  read p n := do
    let a ← c.read p n
    match lift? a with
    | some b => pure b
    | none => throw .mismatch

def float : Codec Float where
  write := .real
  read _ n :=
    match n with
    | .number x => if x.overflows then .error .malformed else .ok x.toFloat
    | n => .error n.reject

/-- Natural numbers up to `greatest`. -/
def natural (greatest : Nat) : Codec Nat where
  write := .natural
  read _ n :=
    match n with
    | .number x =>
      match x.natural? with
      | some k => if k ≤ greatest then .ok k else .error n.reject
      | none => .error n.reject
    | n => .error n.reject

/-- Natural numbers of at most 32 bits. -/
def word32 : Codec Nat :=
  natural 0xFFFFFFFF

/-- Natural numbers of at most 64 bits. -/
def word64 : Codec Nat :=
  natural 0xFFFFFFFFFFFFFFFF

/-- Words of 128 bits. All that is not one counts as malformed, values of other types included. -/
def word128 : Codec (BitVec 128) where
  write x := .natural x.toNat
  read _ n :=
    match n with
    | .number x =>
      match x.natural? with
      | some k =>
        let word := BitVec.ofNat 128 k
        if word.toNat = k then .ok word else .error .malformed
      | none => .error .malformed
    | .absent f => .error f
    | _ => .error .malformed

/-- Integers. -/
def integer : Codec Int where
  write := .integer
  read _ n :=
    match n with
    | .number x =>
      match x.integer? with
      | some k => if x.overflows then .error .malformed else .ok k
      | none => .error n.reject
    | n => .error n.reject

def text : Codec String where
  write := .text
  read _ n :=
    match n with
    | .text q => q.text
    | n => .error n.reject

/-! ## Lists, pairs and optional values -/

def readItems (read : Node → Except Fault α) : List Node → Except Fault (List α)
  | [] => .ok []
  | n :: rest => do
    let a ← read n
    let others ← readItems read rest
    pure (a :: others)

def list (c : Codec α) : Codec (List α) where
  write l := .array (l.map c.write)
  read p n :=
    match n with
    | .array items stop => do
      let l ← readItems (c.read p.inner) items
      Node.ending stop
      pure l
    | n => .error n.reject

/-- `null`, or a value that is not written as `null`. -/
def optional (c : Codec α) : Codec (Option α) where
  write
    | none => .null
    | some a => c.write a
  read p n :=
    match n with
    | .null => .ok none
    | n => (c.read p n).map some

/-! ## Ids -/

def actorId : Codec ActorId :=
  word32.via ActorId.index fun n => some ⟨n⟩

def idKey (id : ActorId) : String :=
  String.ofList (Nat.toDigits 10 id.index)

/-- An id as the key of a member: a numeral alone between the quotes. -/
def readIdKey (q : Quoted) : Except Fault ActorId :=
  match q.raw with
  | [] => .error .malformed
  | c :: _ =>
    if c = '-' || c.isDigit then
      match Numeral.scan q.raw with
      | .error b => .error (if b.atEnd && !q.closed then .truncated else .malformed)
      | .ok (x, rest) => do
        if x.overflows then throw .malformed
        match x.natural? with
        | some k =>
          if k ≤ 0xFFFFFFFF then
            if rest.isEmpty && q.closed then pure ⟨k⟩ else throw .malformed
          else throw .mismatch
        | none => throw .mismatch
    else .error .malformed

def readEntries (read : Node → Except Fault α) (m : IdMap α) :
    List Node.Member → Except Fault (IdMap α)
  | [] => .ok m
  | (none, n) :: _ => .error n.rejectKey
  | (some q, n) :: rest => do
    let id ← readIdKey q
    let a ← read n
    readEntries read (m.insert id a) rest

def idMap (c : Codec α) : Codec (IdMap α) where
  write m := .object (m.entries.map fun p => (idKey p.1, c.write p.2))
  read p n :=
    match n with
    | .object members stop => do
      let m ← readEntries (c.read p.inner) ∅ members
      Node.ending stop
      pure m
    | n => .error n.reject

def idSet : Codec IdSet :=
  (list actorId).via IdSet.toList fun ids => some (IdSet.ofList ids)

end Codec

/-! ## Records -/

/-- The fields of a record in their order, each with what stands for it when it is missing. The
first type holds the values of the fields, the second one what has been read of each. -/
inductive Fields : Type → Type → Type 1 where
  | nil : Fields Unit Unit
  | cons {α β σ : Type} (name : String) (codec : Codec α) (missing : Option α)
      (rest : Fields β σ) : Fields (α × β) (Option α × σ)

namespace Fields

def blank : {γ σ : Type} → Fields γ σ → σ
  | _, _, .nil => ()
  | _, _, .cons _ _ _ rest => (none, rest.blank)

def write : {γ σ : Type} → Fields γ σ → γ → List (String × Json)
  | _, _, .nil, _ => []
  | _, _, .cons name codec _ rest, (a, others) => (name, codec.write a) :: rest.write others

/-- Reads a member into its field, and answers `none` if no field has that name. A field is read
once only. -/
def readMember (p : Place) (key : String) (n : Node) :
    {γ σ : Type} → Fields γ σ → σ → Option (Except Fault σ)
  | _, _, .nil, _ => none
  | _, _, .cons name codec _ rest, (slot, slots) =>
    if key = name then
      match slot with
      | some _ => some (.error .mismatch)
      | none => some ((codec.read p n).map fun a => (some a, slots))
    else (readMember p key n rest slots).map fun r => r.map fun slots => (slot, slots)

def readMembers {γ σ : Type} (p : Place) (fs : Fields γ σ) (slots : σ) :
    List Node.Member → Except Fault σ
  | [] => .ok slots
  | (none, n) :: _ => .error n.rejectKey
  | (some q, n) :: rest => do
    let key ← q.text
    match readMember p key n fs slots with
    | some slots => readMembers p fs (← slots) rest
    | none => do
      n.skip
      readMembers p fs slots rest

def complete : {γ σ : Type} → Fields γ σ → σ → Except Fault γ
  | _, _, .nil, _ => .ok ()
  | _, _, .cons _ _ missing rest, (slot, slots) =>
    match slot.or missing with
    | some a => do
      let others ← complete rest slots
      pure (a, others)
    | none => .error .mismatch

/-- Reads a record that is written as the array of its fields. With `short`, fields at the end may
be missing. -/
def readItems (p : Place) (short : Bool) (stop : Option Fault) :
    {γ σ : Type} → Fields γ σ → List Node → Except Fault γ
  | _, _, .nil, [] => Node.ending stop
  | _, _, .nil, _ :: _ => .error p.surplus
  | _, _, .cons _ codec _ rest, n :: items => do
    let a ← codec.read p n
    let others ← readItems p short stop rest items
    pure (a, others)
  | _, _, .cons _ _ missing rest, [] => do
    Node.ending stop
    match missing with
    | some a =>
      if short then do
        let others ← readItems p short stop rest []
        pure (a, others)
      else throw .mismatch
    | none => throw .mismatch

end Fields

namespace Codec

variable {α γ σ : Type}

/-- A record as an object, read from an object or from the array of its fields. -/
def record (fs : Fields γ σ) (short : Bool) (parts : α → γ) (build : γ → α) : Codec α where
  write a := .object (fs.write (parts a))
  read p n :=
    match n with
    | .object members stop => do
      let slots ← fs.readMembers p.inner fs.blank members
      Node.ending stop
      let c ← fs.complete slots
      pure (build c)
    | .array items stop => do
      let c ← fs.readItems p.inner short stop items
      pure (build c)
    | n => .error n.reject

/-- A pair as an array of two items. -/
def pair {β : Type} (c : Codec α) (d : Codec β) : Codec (α × β) where
  write p := .array [c.write p.1, d.write p.2]
  read p n :=
    match n with
    | .array items stop => do
      let (a, b, ()) ← (Fields.cons "" c none (.cons "" d none .nil)).readItems p.inner false stop
        items
      pure (a, b)
    | n => .error n.reject

/-! ## Choices -/

def named (names : List (String × α)) (s : String) : Except Fault α :=
  match names.lookup s with
  | some a => .ok a
  | none => .error .mismatch

/-- A name, or an object with the name as its only key and nothing as its value. -/
def choice (names : List (String × α)) (name : α → String) : Codec α where
  write a := .text (name a)
  read p n :=
    match n, p.held with
    | .text q, _ => do named names (← q.text)
    | .object [(some q, value)] _, true => do
      let a ← named names (← q.text)
      match value with
      | .null => pure a
      | .object [] _ => pure a
      | _ => throw .mismatch
    | .object ((some q, value) :: more) stop, false => do
      let a ← named names (← q.text)
      match value with
      | .null => do
        if !more.isEmpty then throw .malformed
        Node.ending stop
        pure a
      | value => throw value.reject
    | .object ((none, n) :: _) _, false => .error n.reject
    | .absent f, _ => .error f
    | _, _ => .error p.surplus

/-! ## Tagged records -/

/-- One kind of a tagged record. -/
structure Kind (α : Type) where
  name : String
  /-- Reads the fields from the members of an object. -/
  ofMembers : Place → List Node.Member → Except Fault α
  /-- Reads the fields from the items of an array. -/
  ofItems : Place → List Node → Except Fault α

def kind (name : String) (fs : Fields γ σ) (build : γ → α) : Kind α where
  name := name
  ofMembers p members := do
    let slots ← fs.readMembers p fs.blank members
    let c ← fs.complete slots
    pure (build c)
  ofItems p items := do
    let c ← fs.readItems p false none items
    pure (build c)

def readKind (kinds : List (Kind α)) (n : Node) : Except Fault (Kind α) := do
  match n with
  | .text q =>
    let s ← q.text
    match kinds.find? (·.name = s) with
    | some k => pure k
    | none => throw .mismatch
  | n => throw n.reject

/-- Finds the tag among the members and holds the others, which are prepended to `done` in
reverse. -/
def readTagged (tag : String) (kinds : List (Kind α)) (level : Nat) (found : Option (Kind α))
    (done : List Node.Member) :
    List Node.Member → Except Fault (Option (Kind α) × List Node.Member)
  | [] => .ok (found, done.reverse)
  | (none, n) :: _ => .error n.rejectKey
  | (some q, n) :: rest => do
    let key ← q.text
    if key = tag then
      if found.isSome then throw .mismatch
      let k ← readKind kinds n
      readTagged tag kinds level (some k) done rest
    else
      n.hold level
      readTagged tag kinds level found ((some q, n) :: done) rest

/-- An object whose member `tag` says what the others are, or an array with the tag in front. -/
def tagged (tag : String) (kinds : List (Kind α)) (write : α → String × List (String × Json)) :
    Codec α where
  write a := .object ((tag, .text (write a).1) :: (write a).2)
  read p n :=
    match n with
    | .object members stop => do
      let (found, held) ← readTagged tag kinds (p.level + 1) none [] members
      Node.ending stop
      match found with
      | some k => k.ofMembers p.heldInner held
      | none => throw .mismatch
    | .array [] stop => do
      Node.ending stop
      throw .mismatch
    | .array (first :: items) stop => do
      let k ← readKind kinds first
      Node.holdItems (p.level + 1) items
      Node.ending stop
      k.ofItems p.heldInner items
    | n => .error n.reject

end Codec

end Playhouse
