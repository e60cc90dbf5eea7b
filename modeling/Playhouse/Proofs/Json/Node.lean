import Playhouse.Json.Node
import Playhouse.Proofs.Json.Token

/-!
# The tree of what is written

`Node.ofJson` is the tree of a value. The tokens of the value are put together to it
(`Node.assemble_tokens`), so the text of a value is a document with this tree and nothing behind it,
in every format that puts only blanks between the tokens (`Document.ofText_write`).

A real value without a number text becomes `null` on the way.
-/

namespace Playhouse

namespace Node

mutual

/-- The tree of a value. -/
def ofJson : Json → Node
  | .null => .null
  | .bool b => .bool b
  | .integer n => .number (.ofInt n)
  | .real x => if x.isFinite then .number (.ofFloat x) else .null
  | .text s => .text (.ofText s)
  | .array items => .array (ofItems items) none
  | .object members => .object (ofMembers members) none

def ofItems : List Json → List Node
  | [] => []
  | item :: items => ofJson item :: ofItems items

def ofMembers : List (String × Json) → List Member
  | [] => []
  | (key, value) :: members => (some (.ofText key), ofJson value) :: ofMembers members

end

theorem ofItems_map {α : Type} (f : α → Json) (l : List α) :
    ofItems (l.map f) = l.map fun a => ofJson (f a) := by
  induction l with
  | nil => rfl
  | cons a l ih => rw [List.map_cons, ofItems, ih, List.map_cons]

theorem ofMembers_map {α : Type} (f : α → String × Json) (l : List α) :
    ofMembers (l.map f) = l.map fun a => (some (.ofText (f a).1), ofJson (f a).2) := by
  induction l with
  | nil => rfl
  | cons a l ih => rw [List.map_cons, ofMembers, ih, List.map_cons]

/-- The document after a complete value in front of some tokens. -/
def complete (n : Node) (rest : List Token) (frames : List Frame) : Document :=
  match place n frames with
  | .inl root => ⟨root, !rest.isEmpty⟩
  | .inr frames => assemble rest .separator frames

/-- In front of the first item of an array a value is expected as anywhere else. -/
theorem assemble_firstItem (j : Json) (rest : List Token) (frames : List Frame) :
    assemble (j.tokens ++ rest) .firstItem frames = assemble (j.tokens ++ rest) .value frames := by
  cases j with
  | null => rfl
  | bool b => rfl
  | integer n => rfl
  | real x =>
    rw [Json.tokens]
    split <;> rfl
  | text s => rfl
  | array items => cases items <;> rfl
  | object members => cases members <;> rfl

mutual

theorem assemble_tokens (j : Json) (rest : List Token) (frames : List Frame) :
    assemble (j.tokens ++ rest) .value frames = complete (ofJson j) rest frames := by
  cases j with
  | null => rfl
  | bool b => rfl
  | integer n => rfl
  | real x =>
    rw [Json.tokens, ofJson]
    split_ifs <;> rfl
  | text s => rfl
  | array items =>
    cases items with
    | nil => rfl
    | cons item items =>
      rw [Json.tokens, List.cons_append, List.append_assoc]
      change assemble (item.tokens ++ (Json.itemTokens items ++ rest)) .firstItem
        (.array [] :: frames) = _
      rw [assemble_firstItem, assemble_tokens item]
      exact assemble_itemTokens items rest [ofJson item] frames
  | object members =>
    cases members with
    | nil => rfl
    | cons member members =>
      obtain ⟨key, value⟩ := member
      simp only [Json.tokens, List.cons_append, List.append_assoc]
      change assemble (value.tokens ++ (Json.memberTokens members ++ rest)) .value
        (.member [] (.ofText key) :: frames) = _
      rw [assemble_tokens value]
      exact assemble_memberTokens members rest [(some (.ofText key), ofJson value)] frames

theorem assemble_itemTokens (items : List Json) (rest : List Token) (done : List Node)
    (frames : List Frame) :
    assemble (Json.itemTokens items ++ rest) .separator (.array done :: frames) =
      complete (.array (done.reverse ++ ofItems items) none) rest frames := by
  cases items with
  | nil =>
    rw [ofItems, List.append_nil]
    rfl
  | cons item items =>
    rw [Json.itemTokens, List.cons_append, List.append_assoc]
    change assemble (item.tokens ++ (Json.itemTokens items ++ rest)) .value
      (.array done :: frames) = _
    rw [assemble_tokens item]
    refine (assemble_itemTokens items rest (ofJson item :: done) frames).trans ?_
    rw [List.reverse_cons, List.append_assoc, ofItems]
    rfl

theorem assemble_memberTokens (members : List (String × Json)) (rest : List Token)
    (done : List Member) (frames : List Frame) :
    assemble (Json.memberTokens members ++ rest) .separator (.object done :: frames) =
      complete (.object (done.reverse ++ ofMembers members) none) rest frames := by
  cases members with
  | nil =>
    rw [ofMembers, List.append_nil]
    rfl
  | cons member members =>
    obtain ⟨key, value⟩ := member
    simp only [Json.memberTokens, List.cons_append, List.append_assoc]
    change assemble (value.tokens ++ (Json.memberTokens members ++ rest)) .value
      (.member done (.ofText key) :: frames) = _
    rw [assemble_tokens value]
    refine (assemble_memberTokens members rest ((some (.ofText key), ofJson value) :: done)
      frames).trans ?_
    rw [List.reverse_cons, List.append_assoc, ofMembers]
    rfl

end

end Node

/-- The text of a value holds its tree and nothing more. Blanks may follow it. -/
theorem Document.ofText_write {spacing : Json.Spacing} (blank : spacing.Blank) (j : Json)
    {rest : List Char} (rests : ∀ c ∈ rest, Token.isBlank c = true) :
    Document.ofText (String.ofList (j.write spacing 0 rest)) = ⟨Node.ofJson j, false⟩ := by
  rw [ofText, String.toList_ofList, Json.tokens_write blank j rests, ← List.append_nil j.tokens]
  exact Node.assemble_tokens j [] []

end Playhouse
