import Playhouse.ActorId

/-!
# Finite maps and sets of actor ids

An `IdMap` lists its entries by strictly ascending id, so two maps with the same look-ups are equal
(`IdMap.ext_get?`), and whatever runs over the entries runs in the order of turns. `get?_insert`,
`get?_erase` and `get?_adjust` say what each operation does to the look-ups.

An `IdSet` is a map to the one-point type.
-/

namespace Playhouse

structure IdMap (α : Type) where
  entries : List (ActorId × α)
  ascending : entries.Pairwise fun p q => p.1 < q.1

namespace IdMap

variable {α β : Type}

def empty : IdMap α := ⟨[], .nil⟩

instance : EmptyCollection (IdMap α) := ⟨empty⟩

instance : Inhabited (IdMap α) := ⟨∅⟩

instance [BEq α] : BEq (IdMap α) := ⟨fun m n => m.entries == n.entries⟩

def keys (m : IdMap α) : List ActorId :=
  m.entries.map (·.1)

def values (m : IdMap α) : List α :=
  m.entries.map (·.2)

def size (m : IdMap α) : Nat :=
  m.entries.length

def isEmpty (m : IdMap α) : Bool :=
  m.entries.isEmpty

/-- The value that a list of entries holds for an id, the first one if it has several. -/
def find (id : ActorId) : List (ActorId × α) → Option α
  | [] => none
  | (key, a) :: rest => if key = id then some a else find id rest

def get? (m : IdMap α) (id : ActorId) : Option α :=
  find id m.entries

def contains (m : IdMap α) (id : ActorId) : Bool :=
  (m.get? id).isSome

/-! ## Insertion -/

def insertEntry (id : ActorId) (a : α) : List (ActorId × α) → List (ActorId × α)
  | [] => [(id, a)]
  | (key, b) :: rest =>
    if id < key then (id, a) :: (key, b) :: rest
    else if id = key then (id, a) :: rest
    else (key, b) :: insertEntry id a rest

theorem mem_insertEntry {id : ActorId} {a : α} {l : List (ActorId × α)} {p : ActorId × α}
    (h : p ∈ insertEntry id a l) : p = (id, a) ∨ p ∈ l := by
  induction l with
  | nil => simpa [insertEntry] using h
  | cons q rest ih =>
    obtain ⟨key, b⟩ := q
    simp only [insertEntry] at h
    split at h
    · simpa using h
    · split at h
      · rcases List.mem_cons.1 h with h | h
        · exact .inl h
        · exact .inr (List.mem_cons_of_mem _ h)
      · rcases List.mem_cons.1 h with h | h
        · exact .inr (h ▸ List.mem_cons_self)
        · exact (ih h).imp_right (List.mem_cons_of_mem _)

theorem pairwise_insertEntry (id : ActorId) (a : α) {l : List (ActorId × α)}
    (h : l.Pairwise fun p q => p.1 < q.1) :
    (insertEntry id a l).Pairwise fun p q => p.1 < q.1 := by
  induction l with
  | nil => simp [insertEntry]
  | cons p rest ih =>
    obtain ⟨key, b⟩ := p
    obtain ⟨first, tail⟩ := List.pairwise_cons.1 h
    simp only [insertEntry]
    split
    · rename_i less
      refine List.pairwise_cons.2 ⟨fun q hq => ?_, h⟩
      rcases List.mem_cons.1 hq with rfl | hq
      · exact less
      · exact ActorId.lt_trans less (first q hq)
    · split
      · rename_i same
        subst same
        exact List.pairwise_cons.2 ⟨first, tail⟩
      · rename_i notLess differ
        refine List.pairwise_cons.2 ⟨fun q hq => ?_, ih tail⟩
        rcases mem_insertEntry hq with rfl | hq
        · exact ActorId.lt_of_not_lt_of_ne notLess differ
        · exact first q hq

/-- Sets the value for an id. -/
def insert (m : IdMap α) (id : ActorId) (a : α) : IdMap α :=
  ⟨insertEntry id a m.entries, pairwise_insertEntry id a m.ascending⟩

/-! ## Removal -/

def erase (m : IdMap α) (id : ActorId) : IdMap α :=
  ⟨m.entries.filter (·.1 ≠ id), m.ascending.filter _⟩

/-! ## Changing values in place -/

/-- Changes each value, knowing its id. -/
def mapEntries (f : ActorId → α → β) (m : IdMap α) : IdMap β :=
  ⟨m.entries.map fun p => (p.1, f p.1 p.2), by
    rw [List.pairwise_map]; exact m.ascending⟩

/-- Changes the value for one id, if it has one. -/
def adjust (m : IdMap α) (id : ActorId) (f : α → α) : IdMap α :=
  m.mapEntries fun key a => if key = id then f a else a

/-- Sets the value for an id that has one. -/
def replace (m : IdMap α) (id : ActorId) (a : α) : IdMap α :=
  m.adjust id fun _ => a

/-- Sets or removes the value for an id. -/
def alter (m : IdMap α) (id : ActorId) : Option α → IdMap α
  | none => m.erase id
  | some a => m.insert id a

/-- The map with the given entries, the last one for an id that has several. -/
def ofList (l : List (ActorId × α)) : IdMap α :=
  l.foldl (fun m p => m.insert p.1 p.2) ∅

/-! ## Look-ups -/

theorem find_insertEntry (id key : ActorId) (a : α) (l : List (ActorId × α)) :
    find key (insertEntry id a l) = if id = key then some a else find key l := by
  induction l with
  | nil => rfl
  | cons p rest ih =>
    obtain ⟨k, b⟩ := p
    simp only [insertEntry]
    split
    · rfl
    · split
      · rename_i same
        subst same
        simp only [find]
        split <;> simp
      · rename_i differ
        simp only [find, ih]
        split
        · rename_i same
          subst same
          simp [differ]
        · rfl

theorem get?_insert (m : IdMap α) (id key : ActorId) (a : α) :
    (m.insert id a).get? key = if id = key then some a else m.get? key :=
  find_insertEntry id key a m.entries

theorem find_filter_ne (id key : ActorId) (l : List (ActorId × α)) :
    find key (l.filter (·.1 ≠ id)) = if id = key then none else find key l := by
  induction l with
  | nil => simp [find]
  | cons p rest ih =>
    obtain ⟨k, b⟩ := p
    simp only [List.filter_cons]
    split
    · simp only [find, ih]
      grind
    · simp only [find, ih]
      grind

theorem get?_erase (m : IdMap α) (id key : ActorId) :
    (m.erase id).get? key = if id = key then none else m.get? key :=
  find_filter_ne id key m.entries

theorem get?_mapEntries (f : ActorId → α → β) (m : IdMap α) (key : ActorId) :
    (m.mapEntries f).get? key = (m.get? key).map (f key) := by
  simp only [get?, mapEntries]
  induction m.entries with
  | nil => rfl
  | cons p rest ih =>
    simp only [List.map_cons, find]
    split
    · rename_i same
      subst same
      rfl
    · exact ih

theorem get?_adjust (m : IdMap α) (id key : ActorId) (f : α → α) :
    (m.adjust id f).get? key = if id = key then (m.get? key).map f else m.get? key := by
  rw [adjust, get?_mapEntries]
  split
  · rename_i same
    subst same
    simp
  · rename_i differ
    simp [Ne.symm differ]

@[simp] theorem get?_empty (key : ActorId) : (∅ : IdMap α).get? key = none := rfl

theorem ext {m m' : IdMap α} (h : m.entries = m'.entries) : m = m' := by
  cases m; cases m'; cases h; rfl

theorem find_eq_none_of_lt {id : ActorId} {l : List (ActorId × α)}
    (h : ∀ p ∈ l, id < p.1) : find id l = none := by
  induction l with
  | nil => rfl
  | cons p rest ih =>
    have := ActorId.ne_of_lt (h p List.mem_cons_self)
    simp only [find]
    rw [if_neg this.symm]
    exact ih fun q hq => h q (List.mem_cons_of_mem _ hq)

theorem entries_ext {l l' : List (ActorId × α)} (hl : l.Pairwise fun p q => p.1 < q.1)
    (hl' : l'.Pairwise fun p q => p.1 < q.1) (h : ∀ id, find id l = find id l') : l = l' := by
  induction l generalizing l' with
  | nil =>
    cases l' with
    | nil => rfl
    | cons p rest => exact absurd (h p.1) (by simp [find])
  | cons p rest ih =>
    obtain ⟨first, tail⟩ := List.pairwise_cons.1 hl
    cases l' with
    | nil => exact absurd (h p.1) (by simp [find])
    | cons q rest' =>
      obtain ⟨first', tail'⟩ := List.pairwise_cons.1 hl'
      have same : p.1 = q.1 := by
        by_cases less : p.1 < q.1
        · have := h p.1
          simp only [find, if_neg (ActorId.ne_of_lt less).symm] at this
          rw [find_eq_none_of_lt fun r hr => ActorId.lt_trans less (first' r hr)] at this
          simp at this
        · by_cases eq : p.1 = q.1
          · exact eq
          · have less := ActorId.lt_of_not_lt_of_ne less eq
            have := h q.1
            simp only [find, if_neg (ActorId.ne_of_lt less).symm] at this
            rw [find_eq_none_of_lt fun r hr => ActorId.lt_trans less (first r hr)] at this
            simp at this
      have value : p.2 = q.2 := by
        have := h p.1
        simpa [find, same] using this
      have rests : rest = rest' := by
        refine ih tail tail' fun id => ?_
        by_cases eq : p.1 = id
        · subst eq
          rw [find_eq_none_of_lt first, find_eq_none_of_lt (same ▸ first')]
        · have := h id
          simpa [find, eq, same ▸ eq] using this
      rw [rests, Prod.ext same value]

theorem ext_get? {m m' : IdMap α} (h : ∀ id, m.get? id = m'.get? id) : m = m' :=
  ext (entries_ext m.ascending m'.ascending h)

end IdMap

/-- A finite set of ids. -/
abbrev IdSet := IdMap Unit

namespace IdSet

def insert (s : IdSet) (id : ActorId) : IdSet :=
  IdMap.insert s id ()

def ofList (ids : List ActorId) : IdSet :=
  ids.foldl insert ∅

/-- The members in ascending order. -/
def toList (s : IdSet) : List ActorId :=
  s.keys

def union (s t : IdSet) : IdSet :=
  t.toList.foldl insert s

end IdSet

end Playhouse
