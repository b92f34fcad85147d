import QuestMod.Source.Writer
import QuestMod.Proofs.Text.LineBreak

/-!
# Line ends in generated source

A step shows what it writes besides indentation and its own line feeds. The line ends of
rendered steps are the line feeds of the writer and the line ends that steps show, so
source has as many line feeds as the writer wrote lines unless a step shows one.
-/

namespace QuestMod
namespace Source

open Text (Occurs Passes lineBreaks occurs_append not_occurs_fixed)

/-! ## Steps -/

namespace Step

/-- What the step writes besides indentation and line feeds. -/
def shown : Step → String
  | line text => text
  | blank => ""
  | comment text => "// " ++ Text.commentBody text
  | openBlock header => header ++ "\x7b"
  | closeBlock suffix => "\x7d" ++ suffix
  | splice fragment => String.join ((Text.lines fragment).filter fun line => !Text.isBlankText line)

/-- Number of lines that the step writes. -/
def lineCount : Step → Nat
  | openBlock _ => 2
  | splice fragment => (Text.lines fragment).length
  | _ => 1

end Step

/-- Number of lines that the steps write. -/
def lineCount : List Step → Nat
  | [] => 0
  | step :: rest => step.lineCount + lineCount rest

/-- A step of the list shows the character. -/
def Shows (c : Char) (steps : List Step) : Prop :=
  ∃ step ∈ steps, Occurs c step.shown

section

variable {c : Char}

@[simp] theorem shows_nil : ¬ Shows c [] := by
  simp [Shows]

@[simp] theorem shows_cons (step : Step) (steps : List Step) :
    Shows c (step :: steps) ↔ Occurs c step.shown ∨ Shows c steps := by
  simp [Shows]

@[simp] theorem shows_append (first second : List Step) :
    Shows c (first ++ second) ↔ Shows c first ∨ Shows c second := by
  simp [Shows, or_and_right, exists_or]

@[simp] theorem shows_flatMap {α : Type} (items : List α) (stepsOf : α → List Step) :
    Shows c (items.flatMap stepsOf) ↔ ∃ item ∈ items, Shows c (stepsOf item) := by
  simp only [Shows, List.mem_flatMap]
  constructor
  · rintro ⟨step, ⟨item, member, inSteps⟩, occurs⟩
    exact ⟨item, member, step, inSteps, occurs⟩
  · rintro ⟨item, member, step, inSteps, occurs⟩
    exact ⟨step, ⟨item, member, inSteps⟩, occurs⟩

@[simp] theorem shows_mapLine {α : Type} (items : List α) (textOf : α → String) :
    Shows c (items.map fun item => .line (textOf item)) ↔
      ∃ item ∈ items, Occurs c (textOf item) := by
  constructor
  · rintro ⟨step, member, occurs⟩
    obtain ⟨item, inItems, rfl⟩ := List.mem_map.1 member
    exact ⟨item, inItems, occurs⟩
  · rintro ⟨item, member, occurs⟩
    exact ⟨.line (textOf item), List.mem_map_of_mem member, occurs⟩

end

/-! ## Rendered steps -/

theorem not_occurs_indentation
    {c : Char}
    (visible : c ≠ ' ')
    (depth : Nat) :
    ¬ Occurs c (indentation depth) := by
  rw [indentation, Text.occurs_ofList]
  exact fun member => visible (List.eq_of_mem_replicate member)

section

variable {c : Char} (isBreak : c ∈ lineBreaks) (notNewline : c ≠ '\n')

include isBreak notNewline

/-- A line of source adds a line feed and no other line end. -/
theorem occurs_lineText (depth : Nat) (text : String) :
    Occurs c (lineText depth text) ↔ Occurs c text := by
  have notSpace : c ≠ ' ' := by
    rintro rfl
    exact absurd isBreak (by decide)
  have noSpaces := not_occurs_indentation notSpace depth
  have noLineFeed : ¬ Occurs c "\n" := by
    simpa [Occurs] using notNewline
  unfold lineText
  split
  · rename_i empty
    rw [String.isEmpty_iff.1 empty]
    simpa [Occurs] using notNewline
  · simp [noSpaces, noLineFeed]

theorem occurs_splicedText (depth : Nat) (fragment : String) :
    Occurs c (splicedText depth fragment) ↔ Occurs c (Step.splice fragment).shown := by
  have noLineFeed : ¬ Occurs c "\n" := by
    simpa [Occurs] using notNewline
  rw [splicedText, Step.shown, Text.occurs_join, Text.occurs_join]
  constructor
  · rintro ⟨text, member, occurs⟩
    obtain ⟨line, inLines, rfl⟩ := List.mem_map.1 member
    unfold splicedLineText at occurs
    split at occurs
    · exact absurd occurs noLineFeed
    · rename_i filled
      rw [occurs_lineText isBreak notNewline] at occurs
      exact ⟨line, List.mem_filter.2 ⟨inLines, by simpa using filled⟩, occurs⟩
  · rintro ⟨line, member, occurs⟩
    obtain ⟨inLines, filled⟩ := List.mem_filter.1 member
    refine ⟨splicedLineText depth line, List.mem_map_of_mem inLines, ?_⟩
    rw [splicedLineText, if_neg (by simpa using filled), occurs_lineText isBreak notNewline]
    exact occurs

/-- What a step adds to the source holds the line ends that the step shows. -/
theorem Step.occurs_text (step : Step) (depth : Nat) :
    Occurs c (step.text depth) ↔ Occurs c step.shown := by
  cases step with
  | line text => exact occurs_lineText isBreak notNewline depth text
  | blank =>
      simp [Step.text, Step.shown, Occurs, notNewline]
  | comment text => exact occurs_lineText isBreak notNewline depth _
  | openBlock header =>
      simp [Step.text, Step.shown, occurs_lineText isBreak notNewline]
  | closeBlock suffix => exact occurs_lineText isBreak notNewline _ _
  | splice fragment => exact occurs_splicedText isBreak notNewline depth fragment

theorem occurs_renderAt (depth : Nat) (steps : List Step) :
    Occurs c (renderAt depth steps) ↔ Shows c steps := by
  induction steps generalizing depth with
  | nil => simp [Occurs]
  | cons step rest ih =>
      rw [renderAt_cons, occurs_append, step.occurs_text isBreak notNewline, ih, shows_cons]

/-- Rendered steps hold the line ends that the steps show, besides line feeds. -/
theorem occurs_render (steps : List Step) : Occurs c (render steps) ↔ Shows c steps :=
  occurs_renderAt isBreak notNewline 0 steps

end

/-! ## Line feeds -/

/-- Number of line feeds in a text. -/
def lineFeeds (text : String) : Nat :=
  text.toList.count '\n'

@[simp] theorem lineFeeds_append (first second : String) :
    lineFeeds (first ++ second) = lineFeeds first + lineFeeds second := by
  simp [lineFeeds]

theorem lineFeeds_eq_zero
    {text : String}
    (absent : ¬ Occurs '\n' text) :
    lineFeeds text = 0 :=
  List.count_eq_zero.2 absent

theorem lineFeeds_lineText
    {text : String}
    (absent : ¬ Occurs '\n' text)
    (depth : Nat) :
    lineFeeds (lineText depth text) = 1 := by
  have noIndentation : lineFeeds (indentation depth) = 0 :=
    lineFeeds_eq_zero (not_occurs_indentation (by decide) depth)
  unfold lineText
  split
  · rfl
  · rw [lineFeeds_append, lineFeeds_append, noIndentation, lineFeeds_eq_zero absent]
    rfl

theorem lineFeeds_splicedText (depth : Nat) (fragment : String) :
    lineFeeds (splicedText depth fragment) = (Text.lines fragment).length := by
  have oneEach : ∀ line ∈ Text.lines fragment, lineFeeds (splicedLineText depth line) = 1 := by
    intro line member
    unfold splicedLineText
    split
    · rfl
    · exact lineFeeds_lineText (Text.newline_not_mem_of_mem_lines member) depth
  rw [splicedText]
  revert oneEach
  induction Text.lines fragment with
  | nil => exact fun _ => rfl
  | cons line rest ih =>
      intro oneEach
      rw [List.map_cons, String.join_cons, lineFeeds_append, oneEach line List.mem_cons_self,
        ih fun other member => oneEach other (List.mem_cons_of_mem line member),
        List.length_cons, Nat.add_comm]

/-- A step that shows no line feed writes one behind each of its lines. -/
theorem Step.lineFeeds_text
    {step : Step}
    (absent : ¬ Occurs '\n' step.shown)
    (depth : Nat) :
    lineFeeds (step.text depth) = step.lineCount := by
  cases step with
  | line text => exact lineFeeds_lineText absent depth
  | blank => simp [Step.text, lineFeeds, Step.lineCount]
  | comment text => exact lineFeeds_lineText absent depth
  | openBlock header =>
      have inHeader : ¬ Occurs '\n' header := fun occurs =>
        absent (occurs_append.2 (.inl occurs))
      rw [Step.text, lineFeeds_append, lineFeeds_lineText inHeader,
        lineFeeds_lineText (not_occurs_fixed (by decide) (by decide))]
      rfl
  | closeBlock suffix => exact lineFeeds_lineText absent _
  | splice fragment => exact lineFeeds_splicedText depth fragment

/-- Steps that show no line feed have as many line feeds as lines. -/
theorem lineFeeds_render
    {steps : List Step}
    (absent : ¬ Shows '\n' steps) :
    lineFeeds (render steps) = lineCount steps := by
  have atDepth : ∀ depth, lineFeeds (renderAt depth steps) = lineCount steps := by
    induction steps with
    | nil => exact fun _ => rfl
    | cons step rest ih =>
        intro depth
        rw [shows_cons, not_or] at absent
        rw [renderAt_cons, lineFeeds_append, Step.lineFeeds_text absent.1, ih absent.2,
          lineCount]
  exact atDepth 0

/-! ## All line ends of a source -/

/-- The line ends of a source: one line feed for each of its lines, carriage returns on
one condition, and the line ends beyond ASCII that occur in some texts. -/
structure HasLineEnds (source : String) (lines : Nat) (returns : Prop) (texts : List String) :
    Prop where
  lineFeeds : lineFeeds source = lines
  return_iff : '\r' ∈ source.toList ↔ returns
  unicode_iff : ∀ c ∈ Text.unicodeBreaks, c ∈ source.toList ↔ ∃ text ∈ texts, c ∈ text.toList

/-- The line ends of rendered steps, when the steps show those that pass the escapes of
some texts and those that are kept without an escape. -/
theorem hasLineEnds_render
    {steps : List Step}
    {kept : Char → Prop}
    {texts : List String}
    (shows : ∀ c ∈ lineBreaks, Shows c steps ↔ kept c ∨ ∃ text ∈ texts, Passes c text)
    (noLineFeed : ¬ kept '\n')
    (inTexts : ∀ c, kept c → ∃ text ∈ texts, c ∈ text.toList) :
    HasLineEnds (render steps) (lineCount steps) (kept '\r') texts where
  lineFeeds := by
    refine lineFeeds_render ?_
    rw [shows '\n' (by decide), not_or]
    refine ⟨noLineFeed, ?_⟩
    rintro ⟨text, _, unicode, _⟩
    exact absurd unicode (by decide)
  return_iff := by
    have occurs : '\r' ∈ (render steps).toList ↔ Shows '\r' steps :=
      occurs_render (by decide) (by decide) steps
    rw [occurs, shows '\r' (by decide)]
    refine or_iff_left ?_
    rintro ⟨text, _, unicode, _⟩
    exact absurd unicode (by decide)
  unicode_iff := by
    intro c unicode
    have isBreak : c ∈ lineBreaks := List.mem_cons_of_mem _ (List.mem_cons_of_mem _ unicode)
    have notNewline : c ≠ '\n' := ((Text.mem_unicodeBreaks_iff isBreak).1 unicode).1
    have occurs : c ∈ (render steps).toList ↔ Shows c steps :=
      occurs_render isBreak notNewline steps
    rw [occurs, shows c isBreak]
    constructor
    · rintro (isKept | ⟨text, member, _, occurs⟩)
      · exact inTexts c isKept
      · exact ⟨text, member, occurs⟩
    · rintro ⟨text, member, occurs⟩
      exact .inr ⟨text, member, unicode, occurs⟩

end Source
end QuestMod
