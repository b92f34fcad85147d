import QuestMod.Source.Writer
import QuestMod.Proofs.Source.CodeText

/-!
# Neat writing steps

Steps are neat when they close the blocks that they open and their text is code at
every depth. Neat steps may stand one behind the other, and a block around neat steps is
neat, so a whole file is neat when its lines are. A comment line is neat whatever its
text is, as long as the text is one line.
-/

namespace QuestMod
namespace Source

/-! ## Comment lines -/

/-- The text is a comment up to the end of its line. -/
def IsRemark (text : String) : Prop :=
  ∃ body, text.toList = '/' :: '/' :: body ∧ '\n' ∉ body

theorem isRemark_ofList
    {body : List Char}
    (absent : '\n' ∉ body) :
    IsRemark (String.ofList ('/' :: '/' :: body)) :=
  ⟨body, String.toList_ofList, absent⟩

/-- A comment goes on with any text of one line. -/
theorem IsRemark.append
    {first second : String}
    (remark : IsRemark first)
    (absent : '\n' ∉ second.toList) :
    IsRemark (first ++ second) := by
  obtain ⟨body, equal, noBreak⟩ := remark
  refine ⟨body ++ second.toList, ?_, ?_⟩
  · rw [String.toList_append, equal, List.cons_append, List.cons_append]
  · simp [noBreak, absent]

theorem isRemark_commentBody (text : String) : IsRemark ("// " ++ Text.commentBody text) :=
  (isRemark_ofList (by decide)).append (Text.newline_not_mem_commentBody text)

/-- All steps are lines with comments. -/
def AreRemarks (steps : List Step) : Prop :=
  ∀ step ∈ steps, ∃ text, step = .line text ∧ IsRemark text

/-- What holds of no steps, and of steps behind a comment if it holds of them, holds of lines
with comments. -/
@[elab_as_elim]
theorem AreRemarks.induction
    {motive : List Step → Prop}
    {steps : List Step}
    (remarks : AreRemarks steps)
    (nil : motive [])
    (remark : ∀ {text others}, IsRemark text → motive others → motive (.line text :: others)) :
    motive steps := by
  induction steps with
  | nil => exact nil
  | cons step others ih =>
      obtain ⟨⟨_, rfl, isRemark⟩, later⟩ := List.forall_mem_cons.1 remarks
      exact remark isRemark (ih later)

/-- A scan stays in a comment up to the end of the line. -/
theorem scan_comment_of_not_mem
    {body : List Char}
    (absent : '\n' ∉ body)
    (closers : List Char) :
    scan ⟨.comment, closers⟩ body = some ⟨.comment, closers⟩ := by
  induction body with
  | nil => rfl
  | cons c rest ih =>
      have notBreak : c ≠ '\n' := by
        rintro rfl
        exact absent List.mem_cons_self
      have later := ih fun member => absent (List.mem_cons_of_mem c member)
      simpa [scan_cons, ScanState.step, notBreak] using later

/-- A comment with its line end is code. -/
theorem IsRemark.isCode
    {text : String}
    (remark : IsRemark text) :
    IsCode (text ++ "\n") := by
  intro closers
  obtain ⟨body, equal, absent⟩ := remark
  have inside : scanText (some ⟨.code, closers⟩) text = some ⟨.comment, closers⟩ := by
    rw [scanText_some, equal]
    exact scan_comment_of_not_mem absent closers
  rw [scanText_append, inside]
  rfl

/-! ## Lines -/

theorem isCode_indentation (depth : Nat) : IsCode (indentation depth) := by
  refine (isWord_of_forall fun c member => ?_).isCode
  rw [List.eq_of_mem_replicate member]
  rfl

theorem isCode_newline : IsCode "\n" :=
  fun _ => rfl

/-- A line of code is code at every depth. -/
theorem isCode_lineText
    {text : String}
    (code : IsCode text)
    (depth : Nat) :
    IsCode (lineText depth text) := by
  unfold lineText
  split
  · exact isCode_newline
  · exact ((isCode_indentation depth).append code).append isCode_newline

/-- A comment line is code at every depth. -/
theorem IsRemark.isCode_lineText
    {text : String}
    (remark : IsRemark text)
    (depth : Nat) :
    IsCode (lineText depth text) := by
  unfold lineText
  split
  · exact isCode_newline
  · rw [String.append_assoc]
    exact (isCode_indentation depth).append remark.isCode

/-! ## Steps -/

/-- The steps end at the depth where they start, and their text is code. -/
structure Neat (steps : List Step) : Prop where
  level : ∀ depth, depthAfter depth steps = depth
  isCode : ∀ depth, IsCode (renderAt depth steps)

namespace Neat

variable {first second steps : List Step} {text : String}

theorem nil : Neat [] where
  level _ := rfl
  isCode _ _ := rfl

/-- Neat steps behind neat steps are neat. -/
theorem append
    (firstNeat : Neat first)
    (secondNeat : Neat second) :
    Neat (first ++ second) where
  level depth := by
    rw [depthAfter_append, firstNeat.level, secondNeat.level]
  isCode depth := by
    rw [renderAt_append, firstNeat.level]
    exact (firstNeat.isCode depth).append (secondNeat.isCode depth)

/-- A step that adds code and opens no block may stand in front of neat steps. -/
theorem cons
    {step : Step}
    (level : ∀ depth, step.depthAfter depth = depth)
    (code : ∀ depth, IsCode (step.text depth))
    (neat : Neat steps) :
    Neat (step :: steps) where
  level depth := by
    rw [depthAfter_cons, level, neat.level]
  isCode depth := by
    rw [renderAt_cons, level]
    exact (code depth).append (neat.isCode depth)

theorem line
    (code : IsCode text)
    (neat : Neat steps) :
    Neat (.line text :: steps) :=
  cons (fun _ => rfl) (isCode_lineText code) neat

theorem remark
    (remark : IsRemark text)
    (neat : Neat steps) :
    Neat (.line text :: steps) :=
  cons (fun _ => rfl) remark.isCode_lineText neat

/-- Lines with comments are neat. -/
theorem ofRemarks (remarks : AreRemarks steps) : Neat steps :=
  remarks.induction nil remark

theorem comment (neat : Neat steps) : Neat (.comment text :: steps) :=
  cons (fun _ => rfl) (isRemark_commentBody text).isCode_lineText neat

theorem blank (neat : Neat steps) : Neat (.blank :: steps) :=
  cons (fun _ => rfl) (fun _ => isCode_newline) neat

/-- The braces of a block close each other around neat steps. -/
theorem blockClosedBy
    {header suffix : String}
    (headerCode : IsCode header)
    (neat : Neat steps)
    (suffixCode : IsCode suffix) :
    Neat (blockClosedBy header steps suffix) where
  level depth := by
    simp [Source.blockClosedBy, depthAfter_append, Step.depthAfter, neat.level]
  isCode depth := by
    intro closers
    have opening : scanText (some ⟨.code, closers⟩) (lineText depth "\x7b") =
        some ⟨.code, '}' :: closers⟩ := by
      have named : lineText depth "\x7b" = indentation depth ++ "\x7b" ++ "\n" := rfl
      rw [named]
      simp (disch := decide) [isCode_indentation]
    have closing : scanText (some ⟨.code, '}' :: closers⟩) (lineText depth ("\x7d" ++ suffix)) =
        some ⟨.code, closers⟩ := by
      have filled : ("\x7d" ++ suffix).isEmpty = false := by
        simp [String.isEmpty_eq_false_iff, ← String.toList_inj]
      rw [lineText, filled]
      simp (disch := decide) [isCode_indentation, suffixCode]
    simp [Source.blockClosedBy, renderAt_append, Step.depthAfter, Step.text, neat.level,
      isCode_lineText headerCode, opening, neat.isCode, closing]

theorem block
    {header : String}
    (code : IsCode header)
    (neat : Neat steps) :
    Neat (block header steps) :=
  blockClosedBy code neat fun _ => rfl

theorem flatMap
    {α : Type}
    {items : List α}
    {stepsOf : α → List Step}
    (neat : ∀ item ∈ items, Neat (stepsOf item)) :
    Neat (items.flatMap stepsOf) := by
  induction items with
  | nil => exact nil
  | cons item rest ih =>
      rw [List.flatMap_cons]
      exact (neat item List.mem_cons_self).append
        (ih fun other member => neat other (List.mem_cons_of_mem item member))

/-- Lines of code for a list of items are neat. -/
theorem mapLine
    {α : Type}
    {items : List α}
    {textOf : α → String}
    (code : ∀ item ∈ items, IsCode (textOf item)) :
    Neat (items.map fun item => .line (textOf item)) := by
  rw [List.map_eq_flatMap]
  exact flatMap fun item member => nil.line (code item member)

/-- The text of neat steps is a sequence of token trees. -/
theorem checkTokens_render (neat : Neat steps) : checkTokens (render steps) = .ok () :=
  checkTokens_of_scan (neat.isCode 0 [])

end Neat

end Source
end QuestMod
