import Playhouse.Proofs.Binary64.Difference
import Playhouse.Proofs.Decimal.Plain
import Playhouse.Proofs.Format.Scene

/-!
# Labels

A label has one of eight openings, and no opening begins with another one. So the opening of a label
is known (`Opening.append_inj`), and it tells how the label goes on (`Block.Wording`). Numbers end
where their text ends, and a spoken text ends at the last quotation mark of the label, whatever
there is in it (`eq_of_append_quote`).

So two blocks with one label are equal (`Block.beq_of_label_eq`): it leaves nothing out but
displacements of zero, and the sign of a zero does not count.
-/

namespace Playhouse

open Binary64

/-! ## Openings -/

/-- What the labels of a kind of blocks begin with. -/
inductive Opening where
  | horizontal
  | vertical
  | diagonal
  | left
  | turn
  | speech (kind : SpeechKind)
  | restart
deriving DecidableEq

namespace Opening

def text : Opening → String
  | .horizontal => "Move X by "
  | .vertical => "Move Y by "
  | .diagonal => "Move by X: "
  | .left => "Rotate left by "
  | .turn => "Rotate by "
  | .speech .say => "Say: \""
  | .speech .think => "Think: \""
  | .restart => "Repeat forever"

def all : List Opening :=
  [.horizontal, .vertical, .diagonal, .left, .turn, .speech .say, .speech .think, .restart]

theorem mem_all (o : Opening) : o ∈ all := by
  cases o with
  | speech kind => cases kind <;> decide
  | horizontal | vertical | diagonal | left | turn | restart => decide

variable {o p : Opening} {cs ds : List Char}

theorem eq_of_isPrefix (isPrefix : o.text.toList <+: p.text.toList) : o = p := by
  have free : ∀ o ∈ all, ∀ p ∈ all, o.text.toList <+: p.text.toList → o = p := by decide +kernel
  exact free o o.mem_all p p.mem_all isPrefix

theorem append_inj (same : o.text.toList ++ cs = p.text.toList ++ ds) : o = p ∧ cs = ds := by
  have opening : o = p := by
    have left : o.text.toList <+: p.text.toList ++ ds := ⟨cs, same⟩
    rcases List.prefix_or_prefix_of_prefix left (List.prefix_append _ ds) with first | second
    · exact eq_of_isPrefix first
    · exact (eq_of_isPrefix second).symm
  subst opening
  exact ⟨rfl, List.append_cancel_left same⟩

end Opening

section Quote

variable {text text' rest rest' more : List Char}

/-- A text does not go on beyond the last quotation mark. -/
theorem eq_nil_of_quote (plain : '"' ∉ rest) (same : '"' :: rest = more ++ '"' :: rest') :
    more = [] := by
  cases more with
  | nil => rfl
  | cons c more =>
    have tail : rest = more ++ '"' :: rest' := (List.cons.inj same).2
    rw [tail] at plain
    exact absurd (List.mem_append_right more List.mem_cons_self) plain

theorem eq_of_append_quote (plain : '"' ∉ rest) (plain' : '"' ∉ rest')
    (same : text ++ '"' :: rest = text' ++ '"' :: rest') : text = text' ∧ rest = rest' := by
  have texts : text = text' := by
    rcases List.append_eq_append_iff.1 same with ⟨more, longer, tail⟩ | ⟨more, longer, tail⟩
    · rw [longer, eq_nil_of_quote plain tail, List.append_nil]
    · rw [longer, eq_nil_of_quote plain' tail, List.append_nil]
  subst texts
  exact ⟨rfl, (List.cons.inj (List.append_cancel_left same)).2⟩

end Quote

namespace Block

/-- The text of a number in a label. -/
abbrev shown (x : Float) : List Char :=
  Decimal.Layout.plain.text x

/-- How the label of a block goes on after its opening. -/
inductive Wording : Block → Opening → List Char → Prop where
  | horizontal {dx dy : Float} (level : (dy == 0.0) = true) :
    Wording (.move dx dy) .horizontal (shown dx ++ " steps".toList)
  | vertical {dx dy : Float} (upright : (dx == 0.0) = true) :
    Wording (.move dx dy) .vertical (shown dy ++ " steps".toList)
  | diagonal {dx dy : Float} :
    Wording (.move dx dy) .diagonal
      (shown dx ++ (" steps, Y: ".toList ++ (shown dy ++ " steps".toList)))
  | left {angle : Float} : Wording (.turn angle) .left (shown (-angle) ++ " degrees".toList)
  | turn {angle : Float} : Wording (.turn angle) .turn (shown angle ++ " degrees".toList)
  | speech {kind : SpeechKind} {text : String} {seconds : Float} :
    Wording (.speak kind text seconds) (.speech kind)
      (text.toList ++ '"' :: (" for ".toList ++ (shown seconds ++ "s".toList)))
  | restart : Wording .restart .restart []

theorem toList_enclosed (front back : String) (x : Float) :
    (front ++ plainText x ++ back).toList = front.toList ++ (shown x ++ back.toList) := by
  rw [String.toList_append, String.toList_append, plainText, String.toList_ofList,
    List.append_assoc]

theorem exists_wording (b : Block) :
    ∃ opening rest, b.Wording opening rest ∧ b.label.toList = opening.text.toList ++ rest := by
  cases b with
  | move dx dy =>
    by_cases level : (dy == 0.0) = true
    · refine ⟨_, _, .horizontal level, ?_⟩
      rw [label, if_pos level]
      exact toList_enclosed "Move X by " " steps" dx
    · by_cases upright : (dx == 0.0) = true
      · refine ⟨_, _, .vertical upright, ?_⟩
        rw [label, if_neg level, if_pos upright]
        exact toList_enclosed "Move Y by " " steps" dy
      · refine ⟨_, _, .diagonal, ?_⟩
        rw [label, if_neg level, if_neg upright, toList_enclosed, toList_enclosed,
          List.append_assoc, List.append_assoc]
        rfl
  | turn angle =>
    by_cases negative : angle < 0.0
    · refine ⟨_, _, .left, ?_⟩
      rw [label, if_pos negative]
      exact toList_enclosed "Rotate left by " " degrees" (-angle)
    · refine ⟨_, _, .turn, ?_⟩
      rw [label, if_neg negative]
      exact toList_enclosed "Rotate by " " degrees" angle
  | speak kind text seconds =>
    refine ⟨_, _, .speech, ?_⟩
    cases kind <;>
    · rw [label, toList_enclosed, String.toList_append, String.toList_append, List.append_assoc,
        List.append_assoc]
      rfl
  | restart => exact ⟨_, _, .restart, (List.append_nil _).symm⟩

/-! ## Equal labels -/

variable {b c : Block} {o : Opening} {cs ds : List Char}

theorem quote_notMem_shown {x : Float} (finite : x.isFinite = true) :
    '"' ∉ " for ".toList ++ (shown x ++ "s".toList) := by
  intro mem
  rcases List.mem_append.1 mem with mem | mem
  · exact absurd mem (by decide)
  · rcases List.mem_append.1 mem with mem | mem
    · exact absurd (Numeral.mem_plain finite mem) (by decide)
    · exact absurd mem (by decide)

/-- Blocks are equal if their labels have one opening and go on alike. -/
theorem Wording.beq (left : b.Wording o cs) (right : c.Wording o ds) (same : cs = ds)
    (hb : b.IsFinite) (hc : c.IsFinite) : (b == c) = true := by
  have steps : Numeral.Ends " steps".toList := by rintro c ⟨⟩; decide
  have across : ∀ rest, Numeral.Ends (" steps, Y: ".toList ++ rest) := by rintro rest c ⟨⟩; decide
  have degrees : Numeral.Ends " degrees".toList := by rintro c ⟨⟩; decide
  have seconds : Numeral.Ends "s".toList := by rintro c ⟨⟩; decide
  cases left with
  | @horizontal dx dy level =>
    cases right with
    | @horizontal dx' dy' level' =>
      obtain ⟨rfl, -⟩ := Numeral.plain_append_inj hb.1 hc.1 steps steps same
      exact Bool.and_eq_true_iff.2 ⟨beq_self hb.1, beq_of_zeros level level'⟩
  | @vertical dx dy upright =>
    cases right with
    | @vertical dx' dy' upright' =>
      obtain ⟨rfl, -⟩ := Numeral.plain_append_inj hb.2 hc.2 steps steps same
      exact Bool.and_eq_true_iff.2 ⟨beq_of_zeros upright upright', beq_self hb.2⟩
  | @diagonal dx dy =>
    cases right with
    | @diagonal dx' dy' =>
      obtain ⟨rfl, rest⟩ := Numeral.plain_append_inj hb.1 hc.1 (across _) (across _) same
      obtain ⟨rfl, -⟩ :=
        Numeral.plain_append_inj hb.2 hc.2 steps steps (List.append_cancel_left rest)
      exact Bool.and_eq_true_iff.2 ⟨beq_self hb.1, beq_self hb.2⟩
  | @left angle =>
    cases right with
    | @left angle' =>
      -- The angle is written without its minus sign.
      obtain ⟨opposite, -⟩ :=
        Numeral.plain_append_inj (isFinite_neg hb) (isFinite_neg hc) degrees degrees same
      obtain rfl : angle = angle' := by rw [← neg_neg angle, opposite, neg_neg]
      exact beq_self hb
  | @turn angle =>
    cases right with
    | @turn angle' =>
      obtain ⟨rfl, -⟩ := Numeral.plain_append_inj hb hc degrees degrees same
      exact beq_self hb
  | @speech kind text duration =>
    cases right with
    | @speech kind text' duration' =>
      obtain ⟨texts, rest⟩ :=
        eq_of_append_quote (quote_notMem_shown hb) (quote_notMem_shown hc) same
      obtain rfl := String.toList_inj.1 texts
      obtain ⟨rfl, -⟩ :=
        Numeral.plain_append_inj hb hc seconds seconds (List.append_cancel_left rest)
      exact Bool.and_eq_true_iff.2 ⟨beq_self_eq_true kind,
        Bool.and_eq_true_iff.2 ⟨beq_self_eq_true text, beq_self hb⟩⟩
  | restart =>
    cases right with
    | restart => rfl

/-- Two blocks with the same label are equal, whatever is spoken. -/
theorem beq_of_label_eq (hb : b.IsFinite) (hc : c.IsFinite) (same : b.label = c.label) :
    (b == c) = true := by
  obtain ⟨o, cs, left, label⟩ := exists_wording b
  obtain ⟨p, ds, right, label'⟩ := exists_wording c
  rw [same, label'] at label
  obtain ⟨rfl, rfl⟩ := Opening.append_inj label
  exact left.beq right rfl hb hc

theorem beq_of_label_eq_level :
    (move 2.5 0.0).IsFinite ∧ (move 2.5 (-0.0)).IsFinite ∧
      (move 2.5 0.0).label = (move 2.5 (-0.0)).label ∧
      (move 2.5 0.0 == move 2.5 (-0.0)) = true := by
  have left : (move 2.5 0.0).IsFinite := by decide
  have right : (move 2.5 (-0.0)).IsFinite := by decide
  have same : (move 2.5 0.0).label = (move 2.5 (-0.0)).label := rfl
  exact ⟨left, right, same, beq_of_label_eq left right same⟩

/-- A spoken text may look like the end of a label. -/
example :
    (speak .say "a\" for 2s" 0.5).label = "Say: \"a\" for 2s\" for 0.5s" ∧
      (speak .say "a" 2.0).label = "Say: \"a\" for 2s" := by
  decide +kernel

end Block

end Playhouse
