import Playhouse.Proofs.Binary64.Finite

/-!
# Blocks read from tokens

A block is `Usable` if its numbers are: moves and turns are finite, and durations are positive.
Every block of a program that was read from tokens is usable (`Program.usable_ofTokens`).
-/

namespace Playhouse

open Binary64

namespace Block

/-- The numbers of a block can be used. -/
def Usable : Block → Prop
  | .move dx dy => dx.isFinite = true ∧ dy.isFinite = true
  | .turn angle => angle.isFinite = true
  | .speak _ _ seconds => isDuration seconds = true
  | .restart => True

theorem isFinite_number (arg : Option (List Char)) : (number arg).isFinite = true := by
  unfold number
  split
  · split
    · assumption
    · rfl
  · rfl

theorem isDuration_duration (arg : List Char) : isDuration (duration arg) = true := by
  unfold duration
  split
  · split
    · assumption
    · decide
  · decide

theorem usable_speech (kind : SpeechKind) (args : List (List Char)) :
    (speech kind args).Usable := by
  match args with
  | [] | [_] =>
    change isDuration defaultSeconds = true
    decide
  | text :: next :: others => exact isDuration_duration _

theorem usable_of_ofSegments {head : String} {args : List (List Char)} {block : Block}
    (found : ofSegments? head args = some block) : block.Usable := by
  unfold ofSegments? at found
  split at found
  all_goals cases found
  · exact ⟨isFinite_number _, rfl⟩
  · exact ⟨isFinite_number _, rfl⟩
  · exact ⟨isFinite_neg (isFinite_number _), rfl⟩
  · exact ⟨rfl, isFinite_number _⟩
  · exact ⟨isFinite_number _, isFinite_number _⟩
  · exact isFinite_number _
  · exact isFinite_neg (isFinite_number _)
  · trivial
  · exact usable_speech .say args
  · exact usable_speech .think args

theorem usable_of_ofToken {token : String} {block : Block} (found : ofToken? token = some block) :
    block.Usable := by
  unfold ofToken? at found
  split at found
  · cases found
  · exact usable_of_ofSegments found

end Block

namespace Program

def Usable (p : Program) : Prop :=
  ∀ block ∈ p, block.Usable

theorem usable_ofTokens (tokens : List String) : (Program.ofTokens tokens).Usable := by
  intro block mem
  obtain ⟨token, -, found⟩ := List.mem_filterMap.1 mem
  exact Block.usable_of_ofToken found

end Program

end Playhouse
