import Mathlib.Data.List.DropRight
import SampleCapture.LogFilter

/-!
# Directives of the log filter

A directive is meant for one whole target. The filter in force has a directive for the telemetry
target unless the text of this target stands in the chosen filter while no directive is for it: as
a part of another name, or behind the target of a directive.
-/

namespace SampleCapture.LogFilter

/-! ## Directives -/

def directives (filter : List Char) : List (List Char) :=
  filter.splitOn ','

def trim (text : List Char) : List Char :=
  (text.dropWhile Text.isWhiteSpace).rdropWhile Text.isWhiteSpace

def target (directive : List Char) : List Char :=
  trim (directive.takeWhile fun c => c ≠ '=' && c ≠ '[')

/-- A directive of the filter is for the telemetry target. -/
def Names (filter : String) : Prop :=
  ∃ directive ∈ directives filter.toList, target directive = ProgressLine.target.toList

instance (filter : String) : Decidable (Names filter) :=
  inferInstanceAs (Decidable (∃ directive ∈ _, _))

theorem trim_within (text : List Char) : trim text <:+: text := by
  have front : trim text <+: text.dropWhile Text.isWhiteSpace := List.rdropWhile_prefix _ _
  have back : text.dropWhile Text.isWhiteSpace <:+ text := List.dropWhile_suffix _
  exact front.isInfix.trans back.isInfix

theorem target_within (directive : List Char) : target directive <:+: directive := by
  have front : directive.takeWhile (fun c => c ≠ '=' && c ≠ '[') <+: directive :=
    List.takeWhile_prefix _
  exact (trim_within _).trans front.isInfix

theorem mem_intersperse {α : Type} {x separator : α} {xs : List α} (inside : x ∈ xs) :
    x ∈ xs.intersperse separator := by
  induction xs with
  | nil => cases inside
  | cons first rest ih =>
      cases rest with
      | nil => exact inside
      | cons second rest =>
          rw [List.intersperse_cons_cons]
          rcases List.mem_cons.mp inside with rfl | behind
          · exact List.mem_cons_self
          · exact List.mem_cons_of_mem _ (List.mem_cons_of_mem _ (ih behind))

theorem directive_within {filter directive : List Char}
    (inside : directive ∈ directives filter) : directive <:+: filter := by
  have whole : [','].intercalate (directives filter) = filter := List.intercalate_splitOn ','
  rw [← whole]
  exact List.infix_of_mem_flatten (mem_intersperse inside)

theorem directives_append (filter later : List Char) :
    directives (filter ++ ',' :: later) = directives filter ++ directives later :=
  List.splitOnP_append_cons filter later (beq_self_eq_true ',')

/-! ## Text that occurs -/

theorem occursIn_iff {part text : List Char} : occursIn part text = true ↔ part <:+: text := by
  induction text with
  | nil => simp [occursIn]
  | cons c rest ih =>
      rw [occursIn, Bool.or_eq_true, List.isPrefixOf_iff_prefix, ih, List.infix_cons_iff]

/-- The text of the telemetry target stands in the filter. -/
def Mentions (filter : String) : Prop :=
  ProgressLine.target.toList <:+: filter.toList

theorem Names.mentions {filter : String} (names : Names filter) : Mentions filter := by
  obtain ⟨directive, inside, same⟩ := names
  have part := (target_within directive).trans (directive_within inside)
  rwa [same] at part

theorem inForce_of_mentions {given : Option String} (mentions : Mentions (chosen given)) :
    inForce given = chosen given :=
  if_pos (occursIn_iff.mpr mentions)

theorem inForce_of_not_mentions {given : Option String} (silent : ¬Mentions (chosen given)) :
    inForce given = chosen given ++ "," ++ telemetryDirective :=
  if_neg (mt occursIn_iff.mp silent)

theorem toList_added (filter : String) :
    (filter ++ "," ++ telemetryDirective).toList =
      filter.toList ++ ',' :: telemetryDirective.toList := by
  rw [String.toList_append, String.toList_append, List.append_assoc]
  rfl

/-- The directive that is added is for the telemetry target. -/
theorem names_added (filter : String) : Names (filter ++ "," ++ telemetryDirective) := by
  refine ⟨telemetryDirective.toList, ?_, by decide⟩
  rw [toList_added, directives_append]
  exact List.mem_append_right _ (by decide)

theorem mentions_inForce (given : Option String) : Mentions (inForce given) := by
  by_cases mentions : Mentions (chosen given)
  · rwa [inForce_of_mentions mentions]
  · rw [inForce_of_not_mentions mentions]
    exact (names_added _).mentions

/-! ## The filter in force -/

theorem not_isBlank_of_mentions {filter : String} (mentions : Mentions filter) :
    Text.isBlank filter.toList = false := by
  have letter : 'g' ∈ filter.toList := mentions.subset (by decide)
  rw [Text.isBlank, List.all_eq_false]
  exact ⟨'g', letter, by decide⟩

theorem not_mentions_usual : ¬Mentions usual := by
  rw [Mentions, ← occursIn_iff]
  decide

theorem chosen_of_not_isBlank {filter : String} (text : Text.isBlank filter.toList = false) :
    chosen (some filter) = filter := by
  rw [chosen, text]
  rfl

/-- A value that mentions the target is the chosen filter, and the usual filter does not mention
it. -/
theorem mentions_chosen_iff (given : Option String) :
    Mentions (chosen given) ↔ Mentions (given.getD "") := by
  cases given with
  | none => exact iff_of_false not_mentions_usual fun mentions =>
      absurd (not_isBlank_of_mentions mentions) (by decide)
  | some filter =>
      rw [Option.getD_some]
      cases blank : Text.isBlank filter.toList with
      | false => rw [chosen_of_not_isBlank blank]
      | true =>
          rw [chosen, blank]
          refine iff_of_false not_mentions_usual fun mentions => ?_
          rw [not_isBlank_of_mentions mentions] at blank
          cases blank

theorem chosen_of_mentions {given : Option String} (mentions : Mentions (given.getD "")) :
    chosen given = given.getD "" := by
  have text := not_isBlank_of_mentions mentions
  cases given with
  | none => exact absurd text (by decide)
  | some filter => exact chosen_of_not_isBlank text

def Added (given : Option String) : Prop :=
  inForce given = chosen given ++ "," ++ telemetryDirective

theorem added_iff (given : Option String) : Added given ↔ ¬Mentions (given.getD "") := by
  rw [← mentions_chosen_iff]
  refine ⟨fun added mentions => ?_, inForce_of_not_mentions⟩
  rw [Added, inForce_of_mentions mentions] at added
  have lengths := congrArg (fun text => text.toList.length) added
  simp only [toList_added, List.length_append, List.length_cons] at lengths
  omega

theorem inForce_inForce (given : Option String) : inForce (some (inForce given)) = inForce given := by
  have mentions := mentions_inForce given
  have chosen := chosen_of_not_isBlank (not_isBlank_of_mentions mentions)
  rw [inForce_of_mentions (by rwa [chosen]), chosen]

theorem keeps_chosen (given : Option String) : (chosen given).toList <+: (inForce given).toList := by
  by_cases mentions : Mentions (chosen given)
  · have unchanged := inForce_of_mentions mentions
    exact unchanged ▸ List.prefix_rfl
  · rw [inForce_of_not_mentions mentions, toList_added]
    exact List.prefix_append _ _

/-- The telemetry lines are kept: a directive is for them, a filter that is given is kept and gets
a directive for them exactly if it has none, and a second time nothing changes. -/
structure Kept (given : Option String) : Prop where
  names : Names (inForce given)
  keeps : ∀ filter, given = some filter → Text.isBlank filter.toList = false →
    filter.toList <+: (inForce given).toList
  added : Added given ↔ ¬Names (given.getD "")
  again : inForce (some (inForce given)) = inForce given

/-- A filter that is given is always kept, and a second time nothing ever changes. The telemetry
lines are kept exactly if the value does not mention the target or has a directive for it. -/
theorem kept_iff (given : Option String) :
    (∀ filter, given = some filter → Text.isBlank filter.toList = false →
      filter.toList <+: (inForce given).toList) ∧
      inForce (some (inForce given)) = inForce given ∧
      (Kept given ↔ (Mentions (given.getD "") → Names (given.getD ""))) := by
  have keeps : ∀ filter, given = some filter → Text.isBlank filter.toList = false →
      filter.toList <+: (inForce given).toList := by
    rintro filter rfl text
    have kept := keeps_chosen (some filter)
    rwa [chosen_of_not_isBlank text] at kept
  refine ⟨keeps, inForce_inForce given, fun kept mentions => ?_, fun names => ?_⟩
  · by_contra unnamed
    exact (added_iff given).mp (kept.added.mpr unnamed) mentions
  · refine ⟨?_, keeps, ?_, inForce_inForce given⟩
    · by_cases mentions : Mentions (given.getD "")
      · rw [inForce_of_mentions ((mentions_chosen_iff given).mpr mentions),
          chosen_of_mentions mentions]
        exact names mentions
      · rw [(added_iff given).mpr mentions]
        exact names_added _
    · rw [added_iff]
      exact not_congr ⟨names, Names.mentions⟩

/-- A directive for a target with a longer name is taken for one for the telemetry lines. -/
theorem not_kept_longer_name : ¬Kept (some "warn,grabber_core::telemetry_server=info") := by
  rintro ⟨names, -, -, -⟩
  revert names
  decide

end SampleCapture.LogFilter
