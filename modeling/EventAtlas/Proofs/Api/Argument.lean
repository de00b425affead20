import EventAtlas.Proofs.Api.WrapperCall
import EventAtlas.Proofs.Text.Parentheses
import Mathlib.Data.List.Basic

/-!
# Arguments of wrapper calls

A path is noted when it stands behind the first comma after the parenthesis of a call. It is the
second argument of the call if the parentheses up to the comma are balanced. If they are not, the
call has ended before the comma, or the comma stands in a parenthesis of its own.
-/

namespace EventAtlas.WrapperCall

open Text

/-- A path is passed as the second argument of a call. What stands in front of its comma is
balanced, and may be anything else. -/
def IsSecondArgument (source : String) (path : List Char) : Prop :=
  ∃ name gap argument literal host, SpellsOne names name ∧ Gap gap ∧ Balanced argument ∧
    Quotes literal host path ∧
    Text.StandsIn (· = name ++ (gap ++ '(' :: (argument ++ ',' :: literal))) source.toList

/-- The path of a call whose argument is balanced is the second argument. -/
theorem StandsIn.isSecondArgument {source : String} {argument host path : List Char}
    (stands : StandsIn source argument host path) (balanced : Balanced argument) :
    IsSecondArgument source path := by
  obtain ⟨before, _, after, split, named, blank, -, -, quotes⟩ := stands
  exact ⟨_, _, argument, _, host, named, blank, balanced, quotes, before, _, after, split, rfl⟩

/-- The paths that are found are those of the calls in the source. The path of a call whose
argument is balanced is the second argument of a call. Otherwise the call has ended before the
comma, or a parenthesis is left open in front of the comma. So where the arguments of all calls are
balanced, all paths that are found are second arguments. -/
theorem path_is_second_argument (source : String) :
    (∀ path, signature path ∈ detect source ↔
      ∃ argument host, StandsIn source argument host path) ∧
    (∀ argument host path, StandsIn source argument host path →
      (Balanced argument → IsSecondArgument source path) ∧
      (¬ Balanced argument ↔ ClosesEarly argument ∨ StaysOpen argument)) ∧
    ((∀ argument host path, StandsIn source argument host path → Balanced argument) →
      ∀ path, signature path ∈ detect source → IsSecondArgument source path) := by
  refine ⟨fun path => signature_mem_detect_iff, fun argument host path stands => ?_,
    fun allBalanced path found => ?_⟩
  · exact ⟨stands.isSecondArgument, not_balanced_iff⟩
  · obtain ⟨argument, host, stands⟩ := signature_mem_detect_iff.1 found
    exact stands.isSecondArgument (allBalanced argument host path stands)

/-- In a source with one parenthesis that is opened and one comma behind it, every call has what
stands between them as its argument. -/
theorem argument_eq_of_single {source : String} {front inside back name gap argument literal before
      after : List Char}
    (shown : source.toList = front ++ '(' :: (inside ++ ',' :: back))
    (oneComma : ',' ∉ front ++ '(' :: inside ∧ ',' ∉ back) (oneParen : '(' ∉ front ∧ '(' ∉ inside)
    (split : source.toList =
      before ++ (name ++ (gap ++ '(' :: (argument ++ ',' :: literal)) ++ after)) :
    argument = inside := by
  have commas : front ++ '(' :: inside ++ ',' :: back =
      before ++ name ++ gap ++ '(' :: argument ++ ',' :: (literal ++ after) := by
    simpa using shown.symm.trans split
  obtain ⟨parens, -, -⟩ := (List.append_cons_inj_of_notMem oneComma.1 oneComma.2).1 commas
  exact ((List.append_cons_inj_of_notMem oneParen.1 oneParen.2).1 parens).2.2.symm

/-- Where the only call is well formed, its path is the second argument. -/
theorem path_is_second_argument_single :
    IsSecondArgument "performHttpCall(f[0], 'v2/a')" "v2/a".toList := by
  refine (path_is_second_argument _).2.2 (fun argument host path stands => ?_) _ (by decide)
  obtain ⟨before, _, after, split, -, -, -, -, -⟩ := stands
  have shown : "performHttpCall(f[0], 'v2/a')".toList =
      "performHttpCall".toList ++ '(' :: ("f[0]".toList ++ ',' :: " 'v2/a')".toList) := by
    decide
  rw [argument_eq_of_single shown (by decide) (by decide) split]
  decide

/-- A source in which a call with one argument has ended, and an array with a path follows. -/
def arrayText : String :=
  "$c->performHttpCall($m); return [$m, 'v2/payments'];"

/-- Not every path that is found is a second argument: the only comma is in the array. -/
theorem path_in_array :
    ¬ ∀ source path, signature path ∈ detect source → IsSecondArgument source path := by
  intro all
  have found : signature "v2/payments".toList ∈ detect arrayText := by decide
  obtain ⟨name, gap, argument, literal, host, -, -, balanced, -, before, _, after, split, rfl⟩ :=
    all _ _ found
  have shown : arrayText.toList = "$c->performHttpCall".toList ++
      '(' :: ("$m); return [$m".toList ++ ',' :: " 'v2/payments'];".toList) := by decide
  rw [argument_eq_of_single shown (by decide) (by decide) split] at balanced
  exact absurd balanced (by decide)

end EventAtlas.WrapperCall
