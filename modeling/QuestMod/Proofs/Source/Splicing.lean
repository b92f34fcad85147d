import QuestMod.Proofs.Source.LineBreak
import QuestMod.Proofs.Text.Escape

/-!
# Splicing rendered fragments

Steps may be rendered on their own, and the text spliced in where they belong, or they may be
written there at once. Both give the same text: the lines of the rendered text are the lines
that the steps write, and a line gets the indentation of the depths of both. The steps must
close no block that is not theirs, and write whole lines that are empty or visible.
-/

namespace QuestMod
namespace Source

open Text (Occurs)

/-! ## Lines of a text -/

/-- A whole line in front of a fragment is spliced on its own. -/
theorem splicedText_append_newline
    {line : String}
    (oneLine : ¬ Occurs '\n' line)
    (noReturn : ¬ Occurs '\r' line)
    (depth : Nat)
    (rest : String) :
    splicedText depth (line ++ "\n" ++ rest) =
      splicedLineText depth line ++ splicedText depth rest := by
  have newline : "\n".toList = ['\n'] := rfl
  rw [splicedText, splicedText, Text.lines, String.toList_append, String.toList_append, newline,
    List.append_assoc, List.singleton_append, Text.lineList_append_newline oneLine noReturn,
    List.map_cons, List.map_cons, String.ofList_toList, String.join_cons]
  rfl

@[simp] theorem splicedText_empty (depth : Nat) : splicedText depth "" = "" := rfl

/-! ## Lines of a step -/

/-- The text is one line, which is empty or visible. -/
structure IsWritable (text : String) : Prop where
  oneLine : ¬ Occurs '\n' text
  noReturn : ¬ Occurs '\r' text
  visible : Text.isBlankText text = true → text = ""

/-- Indentation at two depths is indentation at their sum. -/
theorem indentation_append (first second : Nat) :
    indentation first ++ indentation second = indentation (first + second) := by
  rw [indentation, indentation, indentation, ← String.ofList_append,
    List.replicate_append_replicate, ← Nat.mul_add]

theorem splicedText_newline_append
    (depth : Nat)
    (rest : String) :
    splicedText depth ("\n" ++ rest) = "\n" ++ splicedText depth rest := by
  have whole : "\n" ++ rest = "" ++ "\n" ++ rest := rfl
  rw [whole, splicedText_append_newline List.not_mem_nil List.not_mem_nil]
  rfl

/-- A line that is not blank is indented. -/
theorem lineText_of_shown
    {text : String}
    (shown : Text.isBlankText text = false)
    (depth : Nat) :
    lineText depth text = indentation depth ++ text ++ "\n" := by
  have filled : ¬ text.isEmpty = true := by
    rw [String.isEmpty_iff]
    rintro rfl
    cases shown
  rw [lineText, if_neg filled]

/-- A line written at one depth and spliced at another is written at their sum. -/
theorem splicedText_lineText_append
    {text : String}
    (writable : IsWritable text)
    (depth inner : Nat)
    (rest : String) :
    splicedText depth (lineText inner text ++ rest) =
      lineText (depth + inner) text ++ splicedText depth rest := by
  by_cases empty : text = ""
  · subst empty
    exact splicedText_newline_append depth rest
  have shown : Text.isBlankText text = false := by
    rw [← Bool.not_eq_true]
    exact fun blank => empty (writable.visible blank)
  have oneLine : ¬ Occurs '\n' (indentation inner ++ text) := by
    rw [Text.occurs_append, not_or]
    exact ⟨not_occurs_indentation (by decide) inner, writable.oneLine⟩
  have noReturn : ¬ Occurs '\r' (indentation inner ++ text) := by
    rw [Text.occurs_append, not_or]
    exact ⟨not_occurs_indentation (by decide) inner, writable.noReturn⟩
  have shownInside : Text.isBlankText (indentation inner ++ text) = false := by
    rw [Text.isBlankText_append, shown, Bool.and_false]
  rw [lineText_of_shown shown, lineText_of_shown shown,
    splicedText_append_newline oneLine noReturn, splicedLineText, shownInside,
    if_neg Bool.false_ne_true, lineText_of_shown shownInside, ← indentation_append]
  simp only [String.append_assoc]

namespace IsWritable

/-- A fixed text is writable when a look at its characters tells so. -/
theorem fixed
    {characters : List Char}
    (oneLine : characters.all (fun c => !Text.lineBreaks.contains c) = true)
    (shown : characters.all Text.isBlank = false) :
    IsWritable (no_index (String.ofList characters)) where
  oneLine := Text.not_occurs_fixed (by decide) oneLine
  noReturn := Text.not_occurs_fixed (by decide) oneLine
  visible := by
    rw [Text.isBlankText, String.toList_ofList, shown]
    intro blank
    cases blank

/-- A line that begins with a visible character is writable. -/
theorem of_front
    {front text : String}
    (frontLine : IsWritable front)
    (frontShown : Text.isBlankText front = false)
    (oneLine : ¬ Occurs '\n' text)
    (noReturn : ¬ Occurs '\r' text) :
    IsWritable (front ++ text) where
  oneLine := by
    rw [Text.occurs_append, not_or]
    exact ⟨frontLine.oneLine, oneLine⟩
  noReturn := by
    rw [Text.occurs_append, not_or]
    exact ⟨frontLine.noReturn, noReturn⟩
  visible := by
    rw [Text.isBlankText_append, frontShown]
    intro blank
    cases blank

/-- A comment is one visible line, whatever its text is. -/
theorem comment (text : String) : IsWritable ("// " ++ Text.commentBody text) := by
  have escaped {c : Char} (isBreak : c ∈ Text.lineBreaks) (known : c ∉ Text.unicodeBreaks) :
      ¬ Occurs c (Text.commentBody text) := by
    rw [Text.occurs_commentBody isBreak]
    exact fun passes => known passes.1
  exact of_front (.fixed (by decide) (by decide)) (by decide) (escaped (by decide) (by decide))
    (escaped (by decide) (by decide))

/-- A closing brace makes its line visible. -/
theorem closing
    {suffix : String}
    (oneLine : ¬ Occurs '\n' suffix)
    (noReturn : ¬ Occurs '\r' suffix) :
    IsWritable ("\x7d" ++ suffix) :=
  of_front (.fixed (by decide) (by decide)) (by decide) oneLine noReturn

end IsWritable

/-- A line of a fragment without carriage returns is writable unless it is blank. -/
theorem isWritable_of_mem_lines
    {fragment line : String}
    (noReturn : ¬ Occurs '\r' fragment)
    (member : line ∈ Text.lines fragment)
    (shown : Text.isBlankText line = false) :
    IsWritable line where
  oneLine := Text.newline_not_mem_of_mem_lines member
  noReturn := fun inside => noReturn (Text.mem_of_mem_line member inside)
  visible := by
    rw [shown]
    intro blank
    cases blank

/-- A spliced fragment is spliced again line by line. -/
theorem splicedText_splicedText_append
    {fragment : String}
    (noReturn : ¬ Occurs '\r' fragment)
    (depth inner : Nat)
    (rest : String) :
    splicedText depth (splicedText inner fragment ++ rest) =
      splicedText (depth + inner) fragment ++ splicedText depth rest := by
  have writable : ∀ line ∈ Text.lines fragment, Text.isBlankText line = false →
      IsWritable line := fun line member => isWritable_of_mem_lines noReturn member
  have spliced (depth : Nat) : splicedText depth fragment =
      String.join ((Text.lines fragment).map (splicedLineText depth)) := rfl
  rw [spliced, spliced]
  clear spliced
  generalize Text.lines fragment = lines at writable
  induction lines with
  | nil => simp
  | cons line others ih =>
      have later := ih fun other member => writable other (List.mem_cons_of_mem line member)
      rw [List.map_cons, List.map_cons, String.join_cons, String.join_cons, String.append_assoc,
        String.append_assoc, ← later, splicedLineText, splicedLineText]
      cases blank : Text.isBlankText line with
      | true => exact splicedText_newline_append depth _
      | false =>
          exact splicedText_lineText_append (writable line List.mem_cons_self blank) depth inner _

/-! ## Steps -/

/-- The step writes whole lines that are empty or visible. Comments take any text. -/
def Step.WritesLines : Step → Prop
  | line text => IsWritable text
  | blank => True
  | comment _ => True
  | openBlock header => IsWritable header
  | closeBlock suffix => ¬ Occurs '\n' suffix ∧ ¬ Occurs '\r' suffix
  | splice fragment => ¬ Occurs '\r' fragment

/-- How many blocks of their own steps have open behind the step, when so many are open in front
of it. No block of others may be closed. -/
def Step.openBehind : Nat → Step → Option Nat
  | opened, openBlock _ => some (opened + 1)
  | 0, closeBlock _ => none
  | opened + 1, closeBlock _ => some opened
  | opened, _ => some opened

/-- How many blocks of their own the steps leave open. -/
def openBehind : Nat → List Step → Option Nat
  | opened, [] => some opened
  | opened, step :: rest => (step.openBehind opened).bind fun next => openBehind next rest

/-- The steps close each block that they open, and no other. -/
def ClosesBlocks (steps : List Step) : Prop :=
  openBehind 0 steps = some 0

/-- What a step writes inside of blocks is spliced as it is written in place. -/
theorem splicedText_text_append
    {step : Step}
    (writes : step.WritesLines)
    {opened next : Nat}
    (opens : step.openBehind opened = some next)
    (depth : Nat)
    (rest : String) :
    splicedText depth (step.text opened ++ rest) =
      step.text (depth + opened) ++ splicedText depth rest := by
  cases step with
  | line text => exact splicedText_lineText_append writes depth opened rest
  | blank => exact splicedText_newline_append depth rest
  | comment text => exact splicedText_lineText_append (.comment text) depth opened rest
  | openBlock header =>
      have brace : IsWritable "\x7b" := .fixed (by decide) (by decide)
      rw [Step.text, Step.text, String.append_assoc, String.append_assoc,
        splicedText_lineText_append writes, splicedText_lineText_append brace]
  | closeBlock suffix =>
      cases opened with
      | zero => cases opens
      | succ opened =>
          exact splicedText_lineText_append (.closing writes.1 writes.2) depth opened rest
  | splice fragment => exact splicedText_splicedText_append writes depth opened rest

/-- A step changes the depth as it changes the number of open blocks. -/
theorem depthAfter_of_openBehind
    {step : Step}
    {opened next : Nat}
    (opens : step.openBehind opened = some next)
    (depth : Nat) :
    step.depthAfter (depth + opened) = depth + next := by
  cases step with
  | closeBlock suffix =>
      cases opened with
      | zero => cases opens
      | succ opened =>
          cases opens
          rfl
  | line text | blank | comment text | openBlock header | splice fragment =>
      cases opens
      rfl

/-- What steps write inside of blocks of their own is spliced as it is written in place. -/
theorem splicedText_renderAt
    {steps : List Step}
    (writes : ∀ step ∈ steps, step.WritesLines)
    {opened finish : Nat}
    (closes : openBehind opened steps = some finish)
    (depth : Nat) :
    splicedText depth (renderAt opened steps) = renderAt (depth + opened) steps ∧
      depthAfter (depth + opened) steps = depth + finish := by
  induction steps generalizing opened with
  | nil =>
      cases closes
      exact ⟨rfl, rfl⟩
  | cons step rest ih =>
      obtain ⟨next, opens, closesLater⟩ := Option.bind_eq_some_iff.1 closes
      have alone := depthAfter_of_openBehind opens 0
      rw [Nat.zero_add, Nat.zero_add] at alone
      obtain ⟨text_eq, depth_eq⟩ :=
        ih (fun other member => writes other (List.mem_cons_of_mem step member)) closesLater
      rw [renderAt_cons, renderAt_cons, depthAfter_cons, depthAfter_of_openBehind opens, alone,
        splicedText_text_append (writes step List.mem_cons_self) opens, text_eq]
      exact ⟨rfl, depth_eq⟩

/-- Steps that close their own blocks and write whole lines write the same text at every depth
as their rendered text does that is spliced there, and both leave the depth as it was. -/
theorem splice_render_eq_renderAt
    {steps : List Step}
    (closes : ClosesBlocks steps)
    (writes : ∀ step ∈ steps, step.WritesLines)
    (depth : Nat) :
    renderAt depth [.splice (render steps)] = renderAt depth steps ∧
      depthAfter depth [.splice (render steps)] = depth ∧ depthAfter depth steps = depth := by
  obtain ⟨text_eq, depth_eq⟩ := splicedText_renderAt writes closes depth
  exact ⟨String.append_empty.trans text_eq, rfl, depth_eq⟩

/-- A loop with a comment over two lines, an empty line and a fragment of its own. -/
def loopSteps : List Step :=
  block "while (true)"
    [.comment "wait\nfor it", .blank, .splice "if (done)\n\n    break;"] ++ [.line "Stop();"]

/-- The loop may be spliced at every depth. -/
theorem splice_render_loopSteps :
    ClosesBlocks loopSteps ∧ (∀ step ∈ loopSteps, step.WritesLines) ∧
      renderAt 3 [.splice (render loopSteps)] = renderAt 3 loopSteps ∧
      depthAfter 3 [.splice (render loopSteps)] = 3 ∧ depthAfter 3 loopSteps = 3 := by
  have closes : ClosesBlocks loopSteps := rfl
  have writes : ∀ step ∈ loopSteps, step.WritesLines := by
    intro step member
    simp only [loopSteps, block, List.cons_append, List.nil_append, List.mem_cons,
      List.not_mem_nil, or_false] at member
    rcases member with rfl | rfl | rfl | rfl | rfl | rfl
    · exact IsWritable.fixed (by decide) (by decide)
    · trivial
    · trivial
    · show '\r' ∉ "if (done)\n\n    break;".toList
      decide
    · exact ⟨List.not_mem_nil, List.not_mem_nil⟩
    · exact IsWritable.fixed (by decide) (by decide)
  exact ⟨closes, writes, splice_render_eq_renderAt closes writes 3⟩

end Source
end QuestMod
