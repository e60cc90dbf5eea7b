import Playhouse.Scene.Basic

/-!
# Entries and look-ups

The entries of an `IdMap` are exactly its look-ups (`mem_entries_iff`), so what is done to the
entries of one id is done to one look-up (`filter_entries`). For sets the look-ups are memberships
(`contains_insert`, `contains_erase`), and `Programs.get?_swap` says what an exchange does.

`IdMap.only` keeps the entry of a single id.
-/

namespace Playhouse

namespace IdMap

variable {α β : Type}

theorem find_eq_some_of_mem {id : ActorId} {a : α} {l : List (ActorId × α)}
    (ascending : l.Pairwise fun p q => p.1 < q.1) (mem : (id, a) ∈ l) : find id l = some a := by
  induction l with
  | nil => cases mem
  | cons p rest ih =>
    obtain ⟨first, tail⟩ := List.pairwise_cons.1 ascending
    simp only [find]
    rcases List.mem_cons.1 mem with rfl | mem
    · exact if_pos rfl
    · rw [if_neg (ActorId.ne_of_lt (first _ mem))]
      exact ih tail mem

theorem mem_of_find_eq_some {id : ActorId} {a : α} {l : List (ActorId × α)}
    (found : find id l = some a) : (id, a) ∈ l := by
  induction l with
  | nil => cases found
  | cons p rest ih =>
    simp only [find] at found
    split at found
    · rename_i same
      cases found
      exact same ▸ List.mem_cons_self
    · exact List.mem_cons_of_mem _ (ih found)

theorem mem_entries_iff {m : IdMap α} {id : ActorId} {a : α} :
    (id, a) ∈ m.entries ↔ m.get? id = some a :=
  ⟨find_eq_some_of_mem m.ascending, mem_of_find_eq_some⟩

theorem mem_values_iff {m : IdMap α} {a : α} : a ∈ m.values ↔ ∃ id, m.get? id = some a := by
  simp only [values, List.mem_map, Prod.exists, mem_entries_iff, exists_eq_right]

theorem filter_eq_find (id : ActorId) {l : List (ActorId × α)}
    (ascending : l.Pairwise fun p q => p.1 < q.1) :
    l.filter (·.1 = id) = ((find id l).map (id, ·)).toList := by
  induction l with
  | nil => rfl
  | cons p rest ih =>
    obtain ⟨key, a⟩ := p
    obtain ⟨first, tail⟩ := List.pairwise_cons.1 ascending
    simp only [find, List.filter_cons]
    by_cases same : key = id
    · subst same
      have none_left : rest.filter (·.1 = key) = [] := by
        refine List.filter_eq_nil_iff.2 fun q mem => ?_
        simpa using (ActorId.ne_of_lt (first q mem)).symm
      simp [none_left]
    · simpa [same] using ih tail

theorem filter_entries (m : IdMap α) (id : ActorId) :
    m.entries.filter (·.1 = id) = ((m.get? id).map (id, ·)).toList :=
  filter_eq_find id m.ascending

theorem contains_insert (m : IdMap α) (id key : ActorId) (a : α) :
    (m.insert id a).contains key = (decide (id = key) || m.contains key) := by
  unfold contains
  rw [get?_insert]
  by_cases same : id = key <;> simp [same]

theorem contains_erase (m : IdMap α) (id key : ActorId) :
    (m.erase id).contains key = (decide (id ≠ key) && m.contains key) := by
  unfold contains
  rw [get?_erase]
  by_cases same : id = key <;> simp [same]

theorem get?_alter (m : IdMap α) (id key : ActorId) (a? : Option α) :
    (m.alter id a?).get? key = if id = key then a? else m.get? key := by
  cases a? with
  | none => exact get?_erase m id key
  | some a => exact get?_insert m id key a

theorem mem_keys_iff {m : IdMap α} {id : ActorId} : id ∈ m.keys ↔ m.contains id = true := by
  simp only [keys, List.mem_map, contains, Option.isSome_iff_exists, ← mem_entries_iff]
  constructor
  · rintro ⟨⟨key, a⟩, mem, rfl⟩
    exact ⟨a, mem⟩
  · rintro ⟨a, mem⟩
    exact ⟨(id, a), mem, rfl⟩

theorem nodup_keys (m : IdMap α) : m.keys.Nodup := by
  have ascending : m.keys.Pairwise (· < ·) := by
    rw [keys, List.pairwise_map]
    exact m.ascending
  exact ascending.imp ActorId.ne_of_lt

theorem nodup_entries (m : IdMap α) : m.entries.Nodup := by
  refine m.ascending.imp ?_
  intro p q less same
  exact ActorId.ne_of_lt less (congrArg Prod.fst same)

/-- An entry behind all others is added at the end. -/
theorem insertEntry_last {id : ActorId} {a : α} {l : List (ActorId × α)}
    (last : ∀ p ∈ l, p.1 < id) : insertEntry id a l = l ++ [(id, a)] := by
  induction l with
  | nil => rfl
  | cons p l ih =>
    obtain ⟨key, b⟩ := p
    have less : key < id := last _ List.mem_cons_self
    have notLess : ¬ id < key := fun more => ActorId.lt_irrefl _ (ActorId.lt_trans less more)
    rw [insertEntry, if_neg notLess, if_neg (ActorId.ne_of_lt less).symm,
      ih fun q mem => last q (List.mem_cons_of_mem _ mem)]
    rfl

/-! ## Changes one after the other -/

theorem insert_comm (m : IdMap α) {id key : ActorId} (apart : id ≠ key) (a b : α) :
    (m.insert id a).insert key b = (m.insert key b).insert id a := by
  refine ext_get? fun other => ?_
  simp only [get?_insert]
  by_cases same : id = other
  · subst same
    simp [apart.symm]
  · simp [same]

/-- The last value counts. -/
theorem insert_insert (m : IdMap α) (id : ActorId) (a b : α) :
    (m.insert id a).insert id b = m.insert id b := by
  refine ext_get? fun other => ?_
  simp only [get?_insert]
  by_cases same : id = other <;> simp [same]

theorem erase_comm (m : IdMap α) (id key : ActorId) :
    (m.erase id).erase key = (m.erase key).erase id := by
  refine ext_get? fun other => ?_
  simp only [get?_erase]
  by_cases same : id = other <;> simp [same]

theorem adjust_comm (m : IdMap α) {id key : ActorId} (apart : id ≠ key) (f g : α → α) :
    (m.adjust id f).adjust key g = (m.adjust key g).adjust id f := by
  refine ext_get? fun other => ?_
  simp only [get?_adjust]
  by_cases same : id = other
  · subst same
    simp [apart.symm]
  · simp [same]

theorem adjust_insert (m : IdMap α) {id key : ActorId} (apart : id ≠ key) (f : α → α) (a : α) :
    (m.insert key a).adjust id f = (m.adjust id f).insert key a := by
  refine ext_get? fun other => ?_
  simp only [get?_adjust, get?_insert]
  by_cases same : id = other
  · subst same
    simp [apart.symm]
  · simp [same]

/-! ## Single entries -/

/-- The entry of one id. -/
def only (m : IdMap α) (id : ActorId) : IdMap α :=
  ⟨m.entries.filter (·.1 = id), m.ascending.filter _⟩

theorem get?_only (m : IdMap α) (id key : ActorId) :
    (m.only id).get? key = if key = id then m.get? key else none := by
  change find key (m.entries.filter (·.1 = id)) = _
  rw [filter_entries]
  by_cases same : key = id
  · subst same
    cases m.get? key <;> simp [find]
  · cases m.get? id <;> simp [find, same, Ne.symm same]

end IdMap

theorem IdSet.contains_insert (s : IdSet) (id key : ActorId) :
    (s.insert id).contains key = (decide (id = key) || s.contains key) :=
  IdMap.contains_insert s id key ()

theorem IdSet.contains_foldl_insert (ids : List ActorId) (s : IdSet) (id : ActorId) :
    (ids.foldl insert s).contains id = (s.contains id || decide (id ∈ ids)) := by
  induction ids generalizing s with
  | nil => simp
  | cons first rest ih =>
    rw [List.foldl_cons, ih, contains_insert]
    by_cases same : first = id
    · simp [same]
    · simp [same, Ne.symm same]

theorem IdSet.contains_union (s t : IdSet) (id : ActorId) :
    (s.union t).contains id = (s.contains id || t.contains id) := by
  rw [union, contains_foldl_insert]
  congr 1
  rw [Bool.eq_iff_iff, decide_eq_true_iff]
  exact IdMap.mem_keys_iff

theorem IdSet.ext_contains {s t : IdSet} (same : ∀ id, s.contains id = t.contains id) : s = t := by
  refine IdMap.ext_get? fun id => ?_
  have := same id
  unfold IdMap.contains at this
  cases hs : s.get? id <;> cases ht : t.get? id <;> simp [hs, ht] at this ⊢

theorem IdSet.ofList_toList (s : IdSet) : ofList s.toList = s := by
  refine ext_contains fun id => ?_
  have empty : (∅ : IdSet).contains id = false := rfl
  rw [ofList, contains_foldl_insert, empty, Bool.false_or, Bool.eq_iff_iff, decide_eq_true_iff]
  exact IdMap.mem_keys_iff

theorem Programs.get?_swap (p : Programs) (a b key : ActorId) :
    (p.swap a b).get? key =
      if key = a then p.get? b else if key = b then p.get? a else p.get? key := by
  simp only [swap, IdMap.get?_alter]
  grind

end Playhouse
