import Playhouse.Json.Writer

/-!
# The text of a value

What is written of a value does not depend on what is written after it (`write_append`). So two
objects that differ in the value of one member have the same text only if the two values have
(`write_member_iff`).
-/

namespace Playhouse.Json

variable {spacing : Spacing} {depth : Nat} {rest : List Char} {key : String} {v w : Json}

theorem quotedText_append (s : String) (text rest : List Char) :
    quotedText s text ++ rest = quotedText s (text ++ rest) := by
  simp only [quotedText, List.cons_append, List.append_assoc]

mutual

theorem write_append (spacing : Spacing) (depth : Nat) (rest : List Char) (j : Json) :
    j.write spacing depth rest = j.write spacing depth [] ++ rest := by
  cases j with
  | null => rfl
  | bool b => cases b <;> rfl
  | integer n => simp only [write, List.append_nil]
  | real x =>
    simp only [write, List.append_nil]
    split <;> rfl
  | text s => simp only [write, quotedText_append, List.nil_append]
  | array items =>
    cases items with
    | nil => rfl
    | cons item items =>
      simp only [write, List.cons_append, List.append_assoc]
      rw [write_append spacing _ (writeItems spacing depth rest items) item,
        write_append spacing _ (writeItems spacing depth [] items) item,
        writeItems_append spacing depth rest items, List.append_assoc]
  | object members =>
    cases members with
    | nil => rfl
    | cons member members =>
      obtain ⟨key, value⟩ := member
      simp only [write, List.cons_append, List.append_assoc, quotedText_append]
      rw [write_append spacing _ (writeMembers spacing depth rest members) value,
        write_append spacing _ (writeMembers spacing depth [] members) value,
        writeMembers_append spacing depth rest members, List.append_assoc]

theorem writeItems_append (spacing : Spacing) (depth : Nat) (rest : List Char)
    (items : List Json) :
    writeItems spacing depth rest items = writeItems spacing depth [] items ++ rest := by
  cases items with
  | nil => simp only [writeItems, List.append_assoc, List.cons_append, List.nil_append]
  | cons item items =>
    simp only [writeItems, List.cons_append, List.append_assoc]
    rw [write_append spacing _ (writeItems spacing depth rest items) item,
      write_append spacing _ (writeItems spacing depth [] items) item,
      writeItems_append spacing depth rest items, List.append_assoc]

theorem writeMembers_append (spacing : Spacing) (depth : Nat) (rest : List Char)
    (members : List (String × Json)) :
    writeMembers spacing depth rest members = writeMembers spacing depth [] members ++ rest := by
  cases members with
  | nil => simp only [writeMembers, List.append_assoc, List.cons_append, List.nil_append]
  | cons member members =>
    obtain ⟨key, value⟩ := member
    simp only [writeMembers, List.cons_append, List.append_assoc, quotedText_append]
    rw [write_append spacing _ (writeMembers spacing depth rest members) value,
      write_append spacing _ (writeMembers spacing depth [] members) value,
      writeMembers_append spacing depth rest members, List.append_assoc]

end

theorem write_left_iff :
    v.write spacing depth rest = w.write spacing depth rest ↔
      v.write spacing depth [] = w.write spacing depth [] := by
  rw [write_append, write_append spacing depth rest w, List.append_left_inj]

theorem write_right_iff {rest' : List Char} :
    v.write spacing depth rest = v.write spacing depth rest' ↔ rest = rest' := by
  rw [write_append, write_append spacing depth rest', List.append_right_inj]

theorem writeMembers_iff (before after : List (String × Json)) :
    writeMembers spacing depth rest (before ++ (key, v) :: after) =
        writeMembers spacing depth rest (before ++ (key, w) :: after) ↔
      v.write spacing (depth + 1) [] = w.write spacing (depth + 1) [] := by
  induction before with
  | nil =>
    simp only [List.nil_append, writeMembers, quotedText, List.cons.injEq, true_and,
      List.append_right_inj, write_left_iff]
  | cons member before ih =>
    obtain ⟨name, value⟩ := member
    simp only [List.cons_append, writeMembers, quotedText, List.cons.injEq, true_and,
      List.append_right_inj, write_right_iff, ih]

/-- Objects that differ in the value of one member. -/
theorem write_member_iff (before after : List (String × Json)) :
    (object (before ++ (key, v) :: after)).write spacing depth rest =
        (object (before ++ (key, w) :: after)).write spacing depth rest ↔
      v.write spacing (depth + 1) [] = w.write spacing (depth + 1) [] := by
  cases before with
  | nil =>
    simp only [List.nil_append, write, quotedText, List.cons.injEq, true_and,
      List.append_right_inj, write_left_iff]
  | cons member before =>
    obtain ⟨name, value⟩ := member
    simp only [List.cons_append, write, quotedText, List.cons.injEq, true_and,
      List.append_right_inj, write_right_iff, writeMembers_iff]

end Playhouse.Json
