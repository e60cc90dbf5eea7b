import Mathlib.Data.List.DropRight
import Mathlib.Data.List.Forall2
import Playhouse.Proofs.Block

/-!
# Tokens

The arguments of a token are put together again by the `_` at which it was cut (`glue_segments`),
and blanks are taken away at its ends only, where a speech has its head and its duration. So every
text can be spoken, whatever there is in it (`speech_reads_back`).

A token stands for a block exactly if it begins with one of ten heads
(`Block.isSome_ofToken_iff`), and the head decides what kind of block it is. So a program is what
these tokens stand for, one block for each of them, and all of it can be performed
(`Program.forall₂_ofTokens`).
-/

namespace Playhouse

/-! ## Blanks -/

section Blanks

variable {α : Type} {p : α → Bool} {x : α}

/-- What is dropped ends before an element that is not dropped. -/
theorem dropWhile_append_cons (kept : p x = false) (l m : List α) :
    (l ++ x :: m).dropWhile p = l.dropWhile p ++ x :: m := by
  rw [List.dropWhile_append]
  split
  · rename_i all
    rw [List.isEmpty_iff.1 all, List.dropWhile_cons_of_neg (by simp [kept]), List.nil_append]
  · rfl

theorem rdropWhile_append_cons (kept : p x = false) (l m : List α) :
    (l ++ x :: m).rdropWhile p = l ++ x :: m.rdropWhile p := by
  simp only [List.rdropWhile, List.reverse_append, List.reverse_cons, List.append_assoc,
    List.singleton_append, dropWhile_append_cons kept, List.reverse_reverse]

end Blanks

theorem trim_eq (cs : List Char) : trim cs = (cs.dropWhile isBlank).rdropWhile isBlank := rfl

/-- Blanks at the end make no difference. -/
theorem trim_append_blanks {blanks : List Char} (all : ∀ c ∈ blanks, isBlank c = true)
    (cs : List Char) : trim (cs ++ blanks) = trim cs := by
  rw [trim_eq, List.dropWhile_append]
  split
  · rename_i empty
    rw [trim_eq, List.isEmpty_iff.1 empty, List.dropWhile_eq_nil_iff.2 all]
  · rw [List.rdropWhile, List.reverse_append,
      List.dropWhile_append_of_pos fun c mem => all c (List.mem_reverse.1 mem)]
    rfl

theorem trim_rdropWhile (cs : List Char) : trim (cs.rdropWhile isBlank) = trim cs := by
  have blanks : ∀ c ∈ cs.rtakeWhile isBlank, isBlank c = true :=
    fun _ => List.mem_rtakeWhile_imp
  calc trim (cs.rdropWhile isBlank)
      = trim (cs.rdropWhile isBlank ++ cs.rtakeWhile isBlank) := (trim_append_blanks blanks _).symm
    _ = trim cs := by rw [List.rdropWhile_append_rtakeWhile]

/-! ## Segments -/

namespace Block

theorem segments_eq_splitOn (cs : List Char) : segments cs = cs.splitOn '_' := by
  induction cs with
  | nil => rfl
  | cons c cs ih =>
    have step : (c :: cs).splitOn '_' =
        if c == '_' then [] :: cs.splitOn '_' else (cs.splitOn '_').modifyHead (c :: ·) :=
      List.splitOnP_cons_eq_if_modifyHead ..
    rw [segments, ih, step]
    by_cases cut : c = '_'
    · simp [cut]
    · obtain ⟨first, others, found⟩ := List.exists_cons_of_ne_nil (List.splitOn_ne_nil '_' cs)
      simp [cut, found]

theorem glue_eq_intercalate (parts : List (List Char)) : glue parts = ['_'].intercalate parts := by
  induction parts with
  | nil => rfl
  | cons cs parts ih =>
    cases parts with
    | nil => simp [glue]
    | cons next parts => simp [glue, ih]

theorem glue_segments (cs : List Char) : glue (segments cs) = cs := by
  rw [glue_eq_intercalate, segments_eq_splitOn, List.intercalate_splitOn]

theorem segments_append (cs rest : List Char) :
    segments (cs ++ '_' :: rest) = segments cs ++ segments rest := by
  simp only [segments_eq_splitOn]
  exact List.splitOnP_append_cons cs rest rfl

theorem segments_of_notMem {cs : List Char} (plain : '_' ∉ cs) : segments cs = [cs] := by
  rw [segments_eq_splitOn, List.splitOn_eq_singleton plain]

theorem segments_ne_nil (cs : List Char) : segments cs ≠ [] := by
  rw [segments_eq_splitOn]
  exact List.splitOn_ne_nil '_' cs

theorem exists_segments_eq (cs : List Char) :
    ∃ args, segments cs = cs.takeWhile (· ≠ '_') :: args := by
  induction cs with
  | nil => exact ⟨[], rfl⟩
  | cons c cs ih =>
    obtain ⟨args, found⟩ := ih
    by_cases cut : c = '_'
    · exact ⟨segments cs, by simp [segments, cut]⟩
    · exact ⟨args, by simp [segments, cut, found]⟩

/-! ## Speech -/

end Block

/-- What the tokens of a kind of speech begin with. -/
def SpeechKind.head : SpeechKind → String
  | .say => "SAY"
  | .think => "THINK"

namespace Block

/-- The token for a speech of a text. -/
def speechToken (kind : SpeechKind) (text arg : String) : String :=
  kind.head ++ "_" ++ text ++ "_" ++ arg

theorem ofSegments_head (kind : SpeechKind) (args : List (List Char)) :
    ofSegments? kind.head args = some (speech kind args) := by
  cases kind <;> rfl

/-- The last argument is the duration, and all others are the text. -/
theorem speech_concat (kind : SpeechKind) {parts : List (List Char)} (nonempty : parts ≠ [])
    (last : List Char) :
    speech kind (parts ++ [last]) = .speak kind (String.ofList (glue parts)) (duration last) := by
  obtain ⟨first, others, rfl⟩ := List.exists_cons_of_ne_nil nonempty
  cases others with
  | nil => rfl
  | cons next others =>
    change Block.speak kind (String.ofList (glue ((first :: next :: others) ++ [last]).dropLast))
      (duration (((first :: next :: others) ++ [last]).getLastD [])) = _
    rw [List.dropLast_concat, List.getLastD_concat]

theorem duration_rdropWhile (arg : List Char) :
    duration (arg.rdropWhile isBlank) = duration arg := by
  rw [duration, duration, trim_rdropWhile]

/-- Trimming a token reaches nothing but the end of its duration. -/
theorem trim_speechToken (kind : SpeechKind) (text arg : String) :
    trim (speechToken kind text arg).toList =
      kind.head.toList ++ '_' :: (text.toList ++ '_' :: arg.toList.rdropWhile isBlank) := by
  have front : ∀ cs, (kind.head.toList ++ cs).dropWhile isBlank = kind.head.toList ++ cs := by
    intro cs
    cases kind <;> rfl
  have chars : (speechToken kind text arg).toList =
      kind.head.toList ++ ('_' :: text.toList ++ '_' :: arg.toList) := by
    simp [speechToken]
  rw [trim_eq, chars, front, ← List.append_assoc, rdropWhile_append_cons (by decide)]
  simp

/-- Any text can be spoken: it may be empty and have blanks and `_` wherever it likes. -/
theorem ofToken_speechToken (kind : SpeechKind) (text : String) {arg : String}
    (plain : '_' ∉ arg.toList) :
    ofToken? (speechToken kind text arg) = some (.speak kind text (duration arg.toList)) ∧
      (duration arg.toList).isFinite = true ∧ 0.0 < duration arg.toList := by
  have timed := isDuration_duration arg.toList
  rw [isDuration, Bool.and_eq_true, decide_eq_true_iff] at timed
  refine ⟨?_, timed⟩
  have plain : '_' ∉ arg.toList.rdropWhile isBlank := fun mem =>
    plain ((List.rdropWhile_prefix _ _).subset mem)
  have head : '_' ∉ kind.head.toList := by cases kind <;> decide
  have cut : segments (trim (speechToken kind text arg).toList) =
      kind.head.toList :: (segments text.toList ++ [arg.toList.rdropWhile isBlank]) := by
    rw [trim_speechToken, segments_append, segments_append, segments_of_notMem head,
      segments_of_notMem plain]
    rfl
  rw [ofToken?, cut]
  dsimp only
  rw [String.ofList_toList, ofSegments_head, speech_concat kind (segments_ne_nil _), glue_segments,
    String.ofList_toList, duration_rdropWhile]

theorem ofToken_speechToken_aside :
    '_' ∉ " 2.5\u3000".toList ∧
      ofToken? "THINK_ _a__ b_ _ 2.5\u3000" =
        some (.speak .think " _a__ b_ " (duration " 2.5\u3000".toList)) ∧
      (duration " 2.5\u3000".toList == 2.5) = true := by
  have plain : '_' ∉ " 2.5\u3000".toList := by decide
  exact ⟨plain, (ofToken_speechToken .think " _a__ b_ " plain).1, by decide +kernel⟩

/-! ## Heads -/

/-- What a token begins with, up to its first `_`. -/
def headOf (token : String) : String :=
  String.ofList ((trim token.toList).takeWhile (· ≠ '_'))

/-- What the tokens begin with that stand for a block. -/
def heads : List String :=
  ["X", "RIGHT", "LEFT", "Y", "XY", "ROT", "ROTLEFT", "REP", "SAY", "THINK"]

/-- The kind of block that a head names. -/
def Suits (head : String) : Block → Prop
  | .move dx dy =>
    head ∈ ["X", "RIGHT", "LEFT"] ∧ dy = 0.0 ∨ head = "Y" ∧ dx = 0.0 ∨ head = "XY"
  | .turn _ => head ∈ ["ROT", "ROTLEFT"]
  | .speak kind _ _ => head = kind.head
  | .restart => head = "REP"

theorem exists_ofToken_eq (token : String) :
    ∃ args, ofToken? token = ofSegments? (headOf token) args := by
  obtain ⟨args, found⟩ := exists_segments_eq (trim token.toList)
  exact ⟨args, by rw [ofToken?, found, headOf]⟩

theorem isSome_ofSegments_iff {head : String} {args : List (List Char)} :
    (ofSegments? head args).isSome = true ↔ head ∈ heads := by
  unfold ofSegments?
  split <;> simp_all [heads]

theorem isSome_ofToken_iff {token : String} :
    (ofToken? token).isSome = true ↔ headOf token ∈ heads := by
  obtain ⟨args, same⟩ := exists_ofToken_eq token
  rw [same, isSome_ofSegments_iff]

theorem suits_speech (kind : SpeechKind) (args : List (List Char)) :
    (speech kind args).Suits kind.head := by
  match args with
  | [] | [_] | _ :: _ :: _ => rfl

theorem suits_of_ofSegments {head : String} {args : List (List Char)} {block : Block}
    (found : ofSegments? head args = some block) : block.Suits head := by
  unfold ofSegments? at found
  split at found
  all_goals cases found
  case h_9 => exact suits_speech .say args
  case h_10 => exact suits_speech .think args
  all_goals simp [Suits]

theorem suits_of_ofToken {token : String} {block : Block} (found : ofToken? token = some block) :
    block.Suits (headOf token) := by
  obtain ⟨args, same⟩ := exists_ofToken_eq token
  exact suits_of_ofSegments (same.symm.trans found)

end Block

/-- A program has one block for each token with one of the ten heads, in their order. The block is
of the kind that the head names, and it can be performed, whatever the arguments are. -/
theorem Program.forall₂_ofTokens (tokens : List String) :
    List.Forall₂
      (fun token block => Block.ofToken? token = some block ∧ block.Suits (Block.headOf token) ∧
        block.Usable)
      (tokens.filter fun token => Block.headOf token ∈ Block.heads) (ofTokens tokens) := by
  induction tokens with
  | nil => exact .nil
  | cons token tokens ih =>
    have known : (Block.ofToken? token).isSome = true ↔ Block.headOf token ∈ Block.heads :=
      Block.isSome_ofToken_iff
    cases found : Block.ofToken? token with
    | none =>
      have unknown : Block.headOf token ∉ Block.heads := by simpa [found] using known
      rw [List.filter_cons_of_neg (by simpa using unknown)]
      rw [Program.ofTokens, List.filterMap_cons_none found]
      exact ih
    | some block =>
      have known : Block.headOf token ∈ Block.heads := by simpa [found] using known
      rw [List.filter_cons_of_pos (by simpa using known)]
      rw [Program.ofTokens, List.filterMap_cons_some found]
      exact .cons ⟨found, Block.suits_of_ofToken found, Block.usable_of_ofToken found⟩ ih

example :
    (Program.ofTokens ["X_inf", "WAVE_1", " SAY_hi_-4", "REP_3"] ==
      [.move 0.0 0.0, .speak .say "hi" 1.0, .restart]) = true := by
  decide +kernel

end Playhouse
