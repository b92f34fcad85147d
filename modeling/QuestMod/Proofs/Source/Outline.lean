import QuestMod.Proofs.Source.BareCode

/-!
# Outlines of source

A line of source that is no comment holds a statement or a brace of a block. The outline of
a source lists its statements in order, each with the number of blocks around it. What is
known about an outline holds at every depth, so the outline of a file is put together from
the outlines of its parts, and a block is found behind the statement that heads it.
-/

namespace QuestMod
namespace Source

/-! ## Statements -/

/-- A statement with the number of blocks around it. -/
structure Statement where
  depth : Nat
  text : String
  deriving DecidableEq

namespace Statement

/-- The statement with more blocks around it. -/
def inside (blocks : Nat) (statement : Statement) : Statement :=
  ⟨blocks + statement.depth, statement.text⟩

/-- The statement as its outermost block sees it. -/
def fromInside (statement : Statement) : Statement :=
  ⟨statement.depth - 1, statement.text⟩

@[simp] theorem inside_inside (first second : Nat) (statement : Statement) :
    (statement.inside second).inside first = statement.inside (first + second) :=
  congrArg (Statement.mk · statement.text) (Nat.add_assoc first second statement.depth).symm

@[simp] theorem inside_zero (statement : Statement) : statement.inside 0 = statement :=
  congrArg (Statement.mk · statement.text) (Nat.zero_add statement.depth)

/-- What stands inside of a block is not on the outermost level. -/
theorem depth_inside_one_ne_zero (statement : Statement) : (statement.inside 1).depth ≠ 0 :=
  Nat.ne_of_gt (Nat.lt_add_right statement.depth Nat.one_pos)

@[simp] theorem fromInside_inside_one (statement : Statement) :
    (statement.inside 1).fromInside = statement :=
  congrArg (Statement.mk · statement.text) (Nat.add_sub_cancel_left 1 statement.depth)

end Statement

/-- The statement or brace on a line, without its indentation. Comments and blank lines hold
none. -/
def codeText? (line : String) : Option String :=
  codeLine? line.toList

/-- The statements on the lines, when the given number of blocks is open in front of them. -/
def outlineFrom : Nat → List String → List Statement
  | _, [] => []
  | depth, line :: rest =>
      if line = "\x7b" then outlineFrom (depth + 1) rest
      else if line.toList.head? = some '\x7d' then outlineFrom (depth - 1) rest
      else ⟨depth, line⟩ :: outlineFrom depth rest

/-- The statements of a source, each with the number of blocks around it. -/
def outline (source : String) : List Statement :=
  outlineFrom 0 (readLines codeText? source)

theorem ignoresIndentation_codeText? : IgnoresIndentation codeText? where
  empty := rfl
  indented depth text := by
    rw [codeText?, codeText?, codeLine?, codeLine?, ← unindented, ← unindented,
      unindented_indentation_append]

/-- The text begins like a statement, and not like a comment or a brace. -/
def IsStatement (text : String) : Prop :=
  ∃ c rest, text.toList = c :: rest ∧ c ∉ [' ', '/', '\x7b', '\x7d']

namespace IsStatement

theorem fixed
    {c : Char}
    {characters : List Char}
    (visible : c ∉ [' ', '/', '\x7b', '\x7d']) :
    IsStatement (String.ofList (c :: characters)) :=
  ⟨c, characters, String.toList_ofList, visible⟩

theorem name
    {text : String}
    (form : HasIdentifierForm text) :
    IsStatement text := by
  cases spelled : text.toList with
  | nil =>
      rw [HasIdentifierForm, spelled] at form
      cases form
  | cons c rest =>
      refine ⟨c, rest, spelled, fun mark => ?_⟩
      have marks : [' ', '/', '\x7b', '\x7d'].all (!Text.continuesIdentifier ·) = true := by
        decide
      have unmarked := List.all_eq_true.1 marks c mark
      rw [continuesIdentifier_of_mem form (spelled ▸ List.mem_cons_self)] at unmarked
      cases unmarked

variable {text : String}

theorem append
    (isStatement : IsStatement text)
    (rest : String) :
    IsStatement (text ++ rest) := by
  obtain ⟨c, others, spelled, visible⟩ := isStatement
  exact ⟨c, others ++ rest.toList, by rw [String.toList_append, spelled]; rfl, visible⟩

/-- A statement is read as it stands. -/
theorem codeText?_eq (isStatement : IsStatement text) : codeText? text = some text := by
  obtain ⟨c, rest, spelled, visible⟩ := isStatement
  simp only [List.mem_cons, List.not_mem_nil, or_false, not_or] at visible
  have flush : ¬ (c == ' ') = true := by simpa using visible.1
  have noComment : ¬ ['/', '/'] <+: c :: rest := fun comment =>
    visible.2.1 (List.cons_prefix_cons.1 comment).1.symm
  have unindented : (c :: rest).dropWhile (· == ' ') = c :: rest :=
    List.dropWhile_cons_of_neg flush
  rw [codeText?, spelled, codeLine?, unindented,
    if_neg (not_or.2 ⟨List.cons_ne_nil _ _, noComment⟩), ← spelled, String.ofList_toList]

/-- A statement stands in the outline at the depth reached in front of it. -/
theorem outlineFrom_cons
    (isStatement : IsStatement text)
    (depth : Nat)
    (rest : List String) :
    outlineFrom depth (text :: rest) = ⟨depth, text⟩ :: outlineFrom depth rest := by
  obtain ⟨c, others, spelled, visible⟩ := isStatement
  simp only [List.mem_cons, List.not_mem_nil, or_false, not_or] at visible
  have noOpening : text ≠ "\x7b" := by
    rintro rfl
    exact visible.2.2.1 (List.cons.inj spelled).1.symm
  have noClosing : text.toList.head? ≠ some '\x7d' := by
    rw [spelled]
    exact fun same => visible.2.2.2 (Option.some.inj same)
  rw [outlineFrom, if_neg noOpening, if_neg noClosing]

end IsStatement

/-- A comment holds no statement. -/
theorem IsRemark.codeText?_eq
    {line : String}
    (remark : IsRemark line) :
    codeText? line = none := by
  obtain ⟨body, spelled, _⟩ := remark
  rw [codeText?, spelled]
  rfl

/-! ## Steps -/

/-- The statements and braces that the steps write. -/
def codeTexts (steps : List Step) : List String :=
  (steps.flatMap Step.lines).filterMap codeText?

theorem codeTexts_append (first second : List Step) :
    codeTexts (first ++ second) = codeTexts first ++ codeTexts second := by
  simp [codeTexts]

theorem codeTexts_cons (step : Step) (steps : List Step) :
    codeTexts (step :: steps) = step.lines.filterMap codeText? ++ codeTexts steps := by
  rw [codeTexts, List.flatMap_cons, List.filterMap_append, codeTexts]

/-- Whatever stands around the steps, their part of the outline is the given one. -/
def Outlines (steps : List Step) (statements : List Statement) : Prop :=
  ∀ depth rest, outlineFrom depth (codeTexts steps ++ rest) =
    statements.map (Statement.inside depth) ++ outlineFrom depth rest

namespace Outlines

variable {steps others : List Step} {statements otherStatements : List Statement} {text : String}

theorem nil : Outlines [] [] :=
  fun _ _ => rfl

theorem append
    (outlines : Outlines steps statements)
    (othersOutline : Outlines others otherStatements) :
    Outlines (steps ++ others) (statements ++ otherStatements) := by
  intro depth rest
  rw [codeTexts_append, List.append_assoc, outlines, othersOutline, List.map_append,
    List.append_assoc]

/-- A statement stands in front of the outline of what follows. -/
theorem line
    (isStatement : IsStatement text)
    (othersOutline : Outlines others statements) :
    Outlines (.line text :: others) (⟨0, text⟩ :: statements) := by
  intro depth rest
  have single : (Step.line text).lines.filterMap codeText? = [text] :=
    List.filterMap_cons_some isStatement.codeText?_eq
  rw [codeTexts_cons, single, List.singleton_append, List.cons_append,
    isStatement.outlineFrom_cons, othersOutline]
  rfl

theorem remark
    (isRemark : IsRemark text)
    (othersOutline : Outlines others statements) :
    Outlines (.line text :: others) statements := by
  intro depth rest
  have nothing : (Step.line text).lines.filterMap codeText? = [] :=
    List.filterMap_cons_none isRemark.codeText?_eq
  rw [codeTexts_cons, nothing, List.nil_append, othersOutline]

theorem ofRemarks (remarks : AreRemarks steps) : Outlines steps [] :=
  remarks.induction nil remark

/-- Comments have no place in an outline. -/
theorem comment (othersOutline : Outlines others statements) :
    Outlines (.comment text :: others) statements :=
  remark (isRemark_commentBody text) othersOutline

theorem blank (othersOutline : Outlines others statements) :
    Outlines (.blank :: others) statements :=
  othersOutline

/-- The statements of a block stand behind its header, inside of one more block. -/
theorem blockClosedBy
    (header : IsStatement text)
    (body : Outlines steps statements)
    (suffix : String) :
    Outlines (Source.blockClosedBy text steps suffix)
      (⟨0, text⟩ :: statements.map (Statement.inside 1)) := by
  intro depth rest
  have opening : (Step.openBlock text).lines.filterMap codeText? = [text, "\x7b"] := by
    have brace : codeText? "\x7b" = some "\x7b" := by decide
    rw [Step.lines, List.filterMap_cons_some header.codeText?_eq,
      List.filterMap_cons_some brace, List.filterMap_nil]
  have spelled : ("\x7d" ++ suffix).toList = '\x7d' :: suffix.toList := by
    rw [String.toList_append]
    rfl
  have closing : codeTexts [.closeBlock suffix] = ["\x7d" ++ suffix] := by
    have brace : codeText? ("\x7d" ++ suffix) = some ("\x7d" ++ suffix) := by
      rw [codeText?, spelled]
      show some (String.ofList ('\x7d' :: suffix.toList)) = _
      rw [← spelled, String.ofList_toList]
    exact List.filterMap_cons_some brace
  have closes : outlineFrom (depth + 1) (("\x7d" ++ suffix) :: rest) = outlineFrom depth rest := by
    have noOpening : "\x7d" ++ suffix ≠ "\x7b" := by
      intro same
      have lists := congrArg String.toList same
      rw [spelled] at lists
      exact absurd (List.cons.inj lists).1 (by decide)
    rw [outlineFrom, if_neg noOpening, spelled, List.head?_cons, if_pos rfl, Nat.add_sub_cancel]
  have opens (later : List String) :
      outlineFrom depth ("\x7b" :: later) = outlineFrom (depth + 1) later := by
    rw [outlineFrom, if_pos rfl]
  have spread : codeTexts (Source.blockClosedBy text steps suffix) ++ rest =
      text :: "\x7b" :: (codeTexts steps ++ ("\x7d" ++ suffix) :: rest) := by
    rw [Source.blockClosedBy, codeTexts_append, codeTexts_cons, opening, closing]
    simp
  have deeper : Statement.inside depth ∘ Statement.inside 1 = Statement.inside (depth + 1) :=
    funext fun statement => Statement.inside_inside depth 1 statement
  rw [spread, header.outlineFrom_cons, opens, body, closes, List.map_cons, List.map_map, deeper]
  rfl

/-- A block has the statements of its body inside of it. -/
theorem block
    (header : IsStatement text)
    (body : Outlines steps statements) :
    Outlines (Source.block text steps) (⟨0, text⟩ :: statements.map (Statement.inside 1)) :=
  blockClosedBy header body ""

theorem flatMap
    {α : Type}
    {items : List α}
    {stepsOf : α → List Step}
    {statementsOf : α → List Statement}
    (outlines : ∀ item ∈ items, Outlines (stepsOf item) (statementsOf item)) :
    Outlines (items.flatMap stepsOf) (items.flatMap statementsOf) :=
  Text.related_flatMap nil append outlines

theorem mapLine
    {α : Type}
    {items : List α}
    {textOf : α → String}
    (areStatements : ∀ item ∈ items, IsStatement (textOf item)) :
    Outlines (items.map fun item => .line (textOf item))
      (items.map fun item => ⟨0, textOf item⟩) := by
  rw [List.map_eq_flatMap, List.map_eq_flatMap]
  exact flatMap fun item member => line (areStatements item member) nil

/-- Steps have one outline. -/
theorem unique
    (outlines : Outlines steps statements)
    (outlinesToo : Outlines steps otherStatements) :
    statements = otherStatements := by
  have same := (outlines 0 []).symm.trans (outlinesToo 0 [])
  have whole (list : List Statement) : list.map (Statement.inside 0) = list :=
    (List.map_congr_left fun statement _ => statement.inside_zero).trans (List.map_id list)
  rwa [List.append_cancel_right_eq, whole, whole] at same

/-- The outline of rendered steps. -/
theorem outline_render
    (outlines : Outlines steps statements)
    (absent : ¬ Shows '\n' steps) :
    outline (render steps) = statements := by
  have lines : readLines codeText? (render steps) = codeTexts steps ++ [] := by
    rw [render, readLines_renderAt ignoresIndentation_codeText? absent, codeTexts,
      List.append_nil]
  have whole (list : List Statement) : list.map (Statement.inside 0) = list :=
    (List.map_congr_left fun statement _ => statement.inside_zero).trans (List.map_id list)
  rw [outline, lines, outlines, whole]
  exact List.append_nil _

end Outlines

/-! ## Labels -/

/-- The statement is a label of the block that it stands in. -/
def Statement.isLabel (statement : Statement) : Bool :=
  statement.depth == 0 && statement.text.toList.getLast? == some ':'

/-- The labels of a block, each with the statements behind it up to the next label. -/
def sections : List Statement → List (String × List Statement)
  | [] => []
  | statement :: rest =>
      if statement.isLabel then
        (statement.text, rest.takeWhile (!·.isLabel)) :: sections rest
      else sections rest

section

variable {body rest : List Statement} (unlabelled : ∀ statement ∈ body, statement.isLabel = false)

include unlabelled

theorem sections_append_of_unlabelled : sections (body ++ rest) = sections rest := by
  induction body with
  | nil => rfl
  | cons statement others ih =>
      obtain ⟨first, later⟩ := List.forall_mem_cons.1 unlabelled
      rw [List.cons_append, sections, first, if_neg Bool.false_ne_true, ih later]

/-- A label is read with the statements up to the next one. -/
theorem sections_cons_append
    {label : String}
    (isLabel : (Statement.mk 0 label).isLabel = true)
    (next : ∀ statement ∈ rest.head?, statement.isLabel = true) :
    sections (⟨0, label⟩ :: (body ++ rest)) = (label, body) :: sections rest := by
  have inside : ∀ statement ∈ body, (!statement.isLabel) = true := fun statement member => by
    rw [unlabelled statement member]
    rfl
  have ended : rest.takeWhile (!·.isLabel) = [] := by
    cases rest with
    | nil => rfl
    | cons statement others =>
        exact List.takeWhile_cons_of_neg (by simp [next statement rfl])
  rw [sections, if_pos isLabel, List.takeWhile_append_of_pos inside, ended, List.append_nil,
    sections_append_of_unlabelled unlabelled]

end

end Source
end QuestMod
