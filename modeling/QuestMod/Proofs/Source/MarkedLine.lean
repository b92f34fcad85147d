import QuestMod.Proofs.Source.ShownText
import QuestMod.Proofs.Text.LiteralValue

/-!
# Literals on marked lines

What source says about an identifier stands in the first literal of a line that a reader
knows by its beginning and by the text in front of the literal. Reading source line by
line, whatever its indentation, finds the literals that its steps write on such lines.
Every other step writes lines that depart from the beginning.
-/

namespace QuestMod
namespace Source

open Text (Occurs stringLiteral)

/-! ## Marks -/

/-- How a reader knows the lines whose first literal counts. -/
structure LineMark where
  /-- What the line begins with. -/
  front : String
  /-- What stands just in front of the literal. -/
  opening : String
  deriving DecidableEq

/-- The line without its indentation. -/
def unindented (line : String) : List Char :=
  line.toList.dropWhile (· == ' ')

namespace LineMark

/-- The value of the first literal of a line that has the mark. -/
def value? (mark : LineMark) (line : String) : Option String :=
  let opened := (unindented line).takeWhile (· != '"')
  if mark.front.toList <+: opened ∧ mark.opening.toList <:+ opened then
    Text.literalValue? ((unindented line).dropWhile (· != '"'))
  else none

/-- The values of the first literals of all lines that have the mark. -/
def values (mark : LineMark) (source : String) : List String :=
  (Text.splitAt '\n' source.toList).filterMap fun line => mark.value? (String.ofList line)

/-- The constant with the identifier of a quest. -/
def questConstant : LineMark := ⟨"public const string ", "QuestId = "⟩

/-- The constant with the identifier of a character. -/
def npcConstant : LineMark := ⟨"public const string ", "NpcId = "⟩

/-- The variables that are looked up by the identifier of a quest. -/
def questLookup : LineMark := ⟨"var _", "GetQuestById("⟩

/-- The variables that are looked up by the identifier of a character. -/
def npcLookup : LineMark := ⟨"var _", "n.ID == "⟩

end LineMark

/-- All marks of identifiers. -/
def idMarks : List LineMark :=
  [.questConstant, .npcConstant, .questLookup, .npcLookup]

/-- How the lines with such a mark begin. -/
def idFronts : List (List Char) :=
  [['p', 'u', 'b', 'l', 'i', 'c', ' ', 'c', 'o', 'n', 's', 't', ' ', 's', 't', 'r', 'i', 'n', 'g',
      ' '],
    ['v', 'a', 'r', ' ', '_']]

theorem front_mem_idFronts : ∀ mark ∈ idMarks, mark.front.toList ∈ idFronts := by
  decide

/-! ## Lines of rendered steps -/

/-- The lines that the step writes, without indentation and blank lines. -/
def Step.lines : Step → List String
  | line text => [text]
  | blank => []
  | comment text => ["// " ++ Text.commentBody text]
  | openBlock header => [header, "\x7b"]
  | closeBlock suffix => ["\x7d" ++ suffix]
  | splice fragment => (Text.lines fragment).filter fun line => !Text.isBlankText line

/-- The values that the steps state on lines with the mark. -/
def stated (mark : LineMark) (steps : List Step) : List String :=
  (steps.flatMap Step.lines).filterMap mark.value?

theorem unindented_of_flush
    {line : String}
    (flush : line.toList.head? ≠ some ' ') :
    unindented line = line.toList := by
  rw [unindented]
  cases characters : line.toList with
  | nil => rfl
  | cons c rest =>
      rw [characters, List.head?_cons] at flush
      exact List.dropWhile_cons_of_neg fun same => flush (congrArg some (beq_iff_eq.1 same))

theorem unindented_indentation_append (depth : Nat) (text : String) :
    unindented (indentation depth ++ text) = unindented text := by
  have spaces : ∀ c ∈ List.replicate (4 * depth) ' ', (c == ' ') = true := by
    intro c member
    rw [List.eq_of_mem_replicate member]
    rfl
  rw [unindented, String.toList_append, indentation, String.toList_ofList,
    List.dropWhile_append_of_pos spaces, unindented]

/-! ## Reading line by line -/

/-- What is read off the lines of a source, one by one. -/
def readLines {α : Type} (read : String → Option α) (source : String) : List α :=
  (Text.splitAt '\n' source.toList).filterMap fun line => read (String.ofList line)

/-- Nothing is read off an empty line, and indentation makes no difference. -/
structure IgnoresIndentation {α : Type} (read : String → Option α) : Prop where
  empty : read "" = none
  indented : ∀ depth text, read (indentation depth ++ text) = read text

section

variable {α : Type} {read : String → Option α}

theorem readLines_line_append
    {line : String}
    (absent : ¬ Occurs '\n' line)
    (rest : String) :
    readLines read (line ++ "\n" ++ rest) = [line].filterMap read ++ readLines read rest := by
  have newline : "\n".toList = ['\n'] := rfl
  rw [readLines, String.toList_append, String.toList_append, newline, List.append_assoc,
    List.singleton_append, Text.splitAt_append_separator, Text.splitAt_of_not_mem absent,
    List.filterMap_append, List.filterMap_cons, List.filterMap_nil, String.ofList_toList,
    readLines, List.filterMap_cons, List.filterMap_nil]

variable (ignores : IgnoresIndentation read)

include ignores

theorem readLines_empty : readLines read "" = [] :=
  List.filterMap_cons_none ignores.empty

theorem readLines_newline_append (rest : String) :
    readLines read ("\n" ++ rest) = readLines read rest := by
  have noLineFeed : ¬ Occurs '\n' "" := List.not_mem_nil
  have line : readLines read ("" ++ "\n" ++ rest) =
      [""].filterMap read ++ readLines read rest := readLines_line_append noLineFeed rest
  rwa [List.filterMap_cons_none ignores.empty, String.empty_append] at line

/-- A line of text is read without its indentation. -/
theorem readLines_lineText_append
    {text : String}
    (absent : ¬ Occurs '\n' text)
    (depth : Nat)
    (rest : String) :
    readLines read (lineText depth text ++ rest) =
      [text].filterMap read ++ readLines read rest := by
  unfold lineText
  split
  · rename_i empty
    rw [readLines_newline_append ignores, String.isEmpty_iff.1 empty,
      List.filterMap_cons_none ignores.empty]
    rfl
  · have oneLine : ¬ Occurs '\n' (indentation depth ++ text) := by
      rw [Text.occurs_append, not_or]
      exact ⟨not_occurs_indentation (by decide) depth, absent⟩
    rw [readLines_line_append oneLine, List.filterMap_cons, List.filterMap_cons,
      ignores.indented]

theorem readLines_splicedText_append
    (depth : Nat)
    (fragment rest : String) :
    readLines read (splicedText depth fragment ++ rest) =
      (Step.splice fragment).lines.filterMap read ++ readLines read rest := by
  have oneLine : ∀ line ∈ Text.lines fragment, ¬ Occurs '\n' line := fun _ member =>
    Text.newline_not_mem_of_mem_lines member
  rw [splicedText, Step.lines]
  revert oneLine
  induction Text.lines fragment with
  | nil => exact fun _ => congrArg (readLines read) String.empty_append
  | cons line others ih =>
      intro oneLine
      have later := ih fun other member => oneLine other (List.mem_cons_of_mem line member)
      rw [List.map_cons, String.join_cons, String.append_assoc, splicedLineText, List.filter_cons]
      cases blank : Text.isBlankText line with
      | true =>
          rw [if_pos rfl, readLines_newline_append ignores, later]
          rfl
      | false =>
          have absent := oneLine line List.mem_cons_self
          rw [if_neg Bool.false_ne_true, readLines_lineText_append ignores absent, later,
            ← List.append_assoc, ← List.filterMap_append]
          rfl

/-- What a step adds to the source is read off the lines that it writes. -/
theorem readLines_text_append
    {step : Step}
    (absent : ¬ Occurs '\n' step.shown)
    (depth : Nat)
    (rest : String) :
    readLines read (step.text depth ++ rest) =
      step.lines.filterMap read ++ readLines read rest := by
  cases step with
  | line text => exact readLines_lineText_append ignores absent depth rest
  | blank => exact readLines_newline_append ignores rest
  | comment text => exact readLines_lineText_append ignores absent depth rest
  | openBlock header =>
      rw [Step.shown, Text.occurs_append, not_or] at absent
      rw [Step.text, String.append_assoc, readLines_lineText_append ignores absent.1,
        readLines_lineText_append ignores absent.2, ← List.append_assoc, ← List.filterMap_append]
      rfl
  | closeBlock suffix => exact readLines_lineText_append ignores absent (depth - 1) rest
  | splice fragment => exact readLines_splicedText_append ignores depth fragment rest

/-- Rendered steps are read off the lines that the steps write. -/
theorem readLines_renderAt
    {steps : List Step}
    (absent : ¬ Shows '\n' steps)
    (depth : Nat) :
    readLines read (renderAt depth steps) = (steps.flatMap Step.lines).filterMap read := by
  induction steps generalizing depth with
  | nil => exact readLines_empty ignores
  | cons step rest ih =>
      rw [shows_cons, not_or] at absent
      rw [renderAt_cons, readLines_text_append ignores absent.1, ih absent.2,
        List.flatMap_cons, List.filterMap_append]

end

namespace LineMark

variable {mark : LineMark}

/-- What a mark finds in a line does not depend on its indentation. -/
theorem ignoresIndentation (marked : mark ∈ idMarks) : IgnoresIndentation mark.value? where
  empty := by
    revert mark
    decide
  indented depth text := by
    rw [value?, unindented_indentation_append, value?]

/-- Rendered steps hold the values of the lines that the steps write. -/
theorem values_renderAt
    (marked : mark ∈ idMarks)
    {steps : List Step}
    (absent : ¬ Shows '\n' steps)
    (depth : Nat) :
    mark.values (renderAt depth steps) = stated mark steps :=
  readLines_renderAt (ignoresIndentation marked) absent depth

/-! ## Marked lines -/

/-- The value of a line with a literal is that of the literal, if the line has the mark. -/
theorem value?_of_literal
    {front : String}
    (flush : front.toList.head? ≠ some ' ')
    (noQuote : '"' ∉ front.toList)
    (text back : String) :
    mark.value? (front ++ stringLiteral text ++ back) =
      if mark.front.toList <+: front.toList ∧ mark.opening.toList <:+ front.toList
        then some text else none := by
  have spelled : (front ++ stringLiteral text ++ back).toList =
      front.toList ++ ((stringLiteral text).toList ++ back.toList) := by
    rw [String.toList_append, String.toList_append, List.append_assoc]
  have quoted := Text.toList_stringLiteral_append text back.toList
  have noIndentation : unindented (front ++ stringLiteral text ++ back) =
      front.toList ++ ((stringLiteral text).toList ++ back.toList) := by
    rw [unindented_of_flush ?_, spelled]
    rw [spelled, quoted]
    cases characters : front.toList with
    | nil => simp
    | cons c rest => rwa [characters] at flush
  have plain : ∀ c ∈ front.toList, (c != '"') = true := by
    rintro c member
    refine bne_iff_ne.2 ?_
    rintro rfl
    exact noQuote member
  have taken : (unindented (front ++ stringLiteral text ++ back)).takeWhile (· != '"') =
      front.toList := by
    rw [noIndentation, quoted, List.takeWhile_append_of_pos plain]
    simp
  have dropped : (unindented (front ++ stringLiteral text ++ back)).dropWhile (· != '"') =
      (stringLiteral text).toList ++ back.toList := by
    rw [noIndentation, List.dropWhile_append_of_pos plain, quoted,
      List.dropWhile_cons_of_neg (by decide)]
  rw [value?, taken, dropped, Text.literalValue?_stringLiteral]

end LineMark

/-! ## Lines without a mark -/

/-- At some place the two lists have different characters. -/
def departs : List Char → List Char → Bool
  | c :: front, d :: line => c != d || departs front line
  | _, _ => false

/-- The list departs from every list that has the tail behind some word. -/
def departsBehindWord : List Char → List Char → Bool
  | [], _ => false
  | c :: front, tail =>
      departs (c :: front) tail && (c == ' ' || departsBehindWord front tail)

theorem not_prefix_of_departs
    {front line : List Char}
    (apart : departs front line = true) :
    ¬ front <+: line := by
  induction front generalizing line with
  | nil => cases apart
  | cons c rest ih =>
      cases line with
      | nil => cases apart
      | cons d others =>
          rw [departs, Bool.or_eq_true, bne_iff_ne] at apart
          rw [List.cons_prefix_cons]
          rintro ⟨same, begun⟩
          exact apart.elim (fun different => different same) fun later => ih later begun

theorem departs_append
    {front line : List Char}
    (apart : departs front line = true)
    (rest : List Char) :
    departs front (line ++ rest) = true := by
  induction front generalizing line with
  | nil => cases apart
  | cons c others ih =>
      cases line with
      | nil => cases apart
      | cons d characters =>
          rw [departs, Bool.or_eq_true] at apart
          rw [List.cons_append, departs, Bool.or_eq_true]
          exact apart.imp_right ih

/-- A list that departs behind every word departs behind this one. -/
theorem departs_word_append
    {front tail : List Char}
    (apart : departsBehindWord front tail = true)
    {word : List Char}
    (noSpace : ' ' ∉ word)
    (rest : List Char) :
    departs front (word ++ (tail ++ rest)) = true := by
  induction word generalizing front with
  | nil =>
      cases front with
      | nil => cases apart
      | cons c others =>
          rw [departsBehindWord, Bool.and_eq_true] at apart
          exact departs_append apart.1 rest
  | cons d characters ih =>
      cases front with
      | nil => cases apart
      | cons c others =>
          rw [departsBehindWord, Bool.and_eq_true, Bool.or_eq_true, beq_iff_eq] at apart
          rw [List.mem_cons, not_or] at noSpace
          rw [List.cons_append, departs, Bool.or_eq_true, bne_iff_ne]
          rcases apart.2 with isSpace | later
          · exact .inl fun same => noSpace.1 (isSpace.symm.trans same)
          · exact .inr (ih later noSpace.2)

section

variable {mark : LineMark} (marked : mark ∈ idMarks)

include marked

/-- A line that departs from the fronts of all marks has none of them. -/
theorem value?_eq_none_of_departs
    {line : String}
    (apart : ∀ front ∈ idFronts, departs front (unindented line) = true) :
    mark.value? line = none := by
  rw [LineMark.value?, if_neg]
  rintro ⟨begun, _⟩
  exact not_prefix_of_departs (apart _ (front_mem_idFronts mark marked))
    (begun.trans (List.takeWhile_prefix _))

/-- A line whose fixed beginning departs from all marks has none of them. -/
theorem value?_fixed_append
    {characters : List Char}
    (flush : characters.head? ≠ some ' ')
    (apart : idFronts.all (departs · characters) = true)
    (rest : String) :
    mark.value? (no_index (String.ofList characters) ++ rest) = none := by
  refine value?_eq_none_of_departs marked fun front member => ?_
  have begun := List.all_eq_true.1 apart front member
  have spelled : (String.ofList characters ++ rest).toList = characters ++ rest.toList := by
    rw [String.toList_append, String.toList_ofList]
  rw [unindented_of_flush ?_, spelled]
  · exact departs_append begun rest.toList
  · rw [spelled]
    cases characters with
    | nil => cases front <;> cases begun
    | cons c others => exact flush

theorem value?_fixed
    {characters : List Char}
    (flush : characters.head? ≠ some ' ')
    (apart : idFronts.all (departs · characters) = true) :
    mark.value? (no_index (String.ofList characters)) = none := by
  have line := value?_fixed_append marked flush apart ""
  rwa [String.append_empty] at line

/-- A line that begins with an identifier has no mark when what stands behind the identifier
departs from all marks. -/
theorem value?_name_append
    {name : String}
    (form : HasIdentifierForm name)
    {tail : List Char}
    (apart : idFronts.all (departsBehindWord · tail) = true)
    (rest : String) :
    mark.value? (name ++ (no_index (String.ofList tail) ++ rest)) = none := by
  have noSpace : ' ' ∉ name.toList := fun member =>
    absurd (continuesIdentifier_of_mem form member) (by decide)
  have spelled : (name ++ (String.ofList tail ++ rest)).toList =
      name.toList ++ (tail ++ rest.toList) := by
    rw [String.toList_append, String.toList_append, String.toList_ofList]
  refine value?_eq_none_of_departs marked fun front member => ?_
  have behind := List.all_eq_true.1 apart front member
  rw [unindented_of_flush ?_, spelled]
  · exact departs_word_append behind noSpace rest.toList
  · rw [spelled]
    cases characters : name.toList with
    | nil =>
        rw [HasIdentifierForm, characters] at form
        cases form
    | cons c others =>
        rw [characters, List.mem_cons, not_or] at noSpace
        exact fun same => noSpace.1 (Option.some.inj same).symm

end

/-! ## Values that steps state -/

section

variable {mark : LineMark}

@[simp] theorem stated_nil : stated mark [] = [] := rfl

/-- Steps state what the first ones and what the others state. -/
@[simp] theorem stated_append (first second : List Step) :
    stated mark (first ++ second) = stated mark first ++ stated mark second := by
  simp [stated]

theorem stated_cons (step : Step) (steps : List Step) :
    stated mark (step :: steps) = step.lines.filterMap mark.value? ++ stated mark steps := by
  rw [stated, List.flatMap_cons, List.filterMap_append, stated]

@[simp] theorem stated_line_cons (text : String) (steps : List Step) :
    stated mark (.line text :: steps) = (mark.value? text).toList ++ stated mark steps := by
  rw [stated_cons, Step.lines, List.filterMap_cons, List.filterMap_nil]
  cases mark.value? text <;> rfl

@[simp] theorem stated_blank_cons (steps : List Step) :
    stated mark (.blank :: steps) = stated mark steps := rfl

@[simp] theorem stated_mapLine {α : Type} (items : List α) (textOf : α → String) :
    stated mark (items.map fun item => .line (textOf item)) =
      items.filterMap fun item => mark.value? (textOf item) := by
  induction items with
  | nil => rfl
  | cons item rest ih =>
      rw [List.map_cons, stated_line_cons, ih, List.filterMap_cons]
      cases mark.value? (textOf item) <;> rfl

section

variable (marked : mark ∈ idMarks)

include marked

theorem stated_comment_cons (text : String) (steps : List Step) :
    stated mark (.comment text :: steps) = stated mark steps := by
  rw [stated_cons, Step.lines,
    List.filterMap_cons_none (value?_fixed_append marked (by decide) (by decide) _)]
  rfl

/-- Braces state nothing: a block states what its header and its body state. -/
theorem stated_blockClosedBy (header : String) (body : List Step) (suffix : String) :
    stated mark (blockClosedBy header body suffix) =
      (mark.value? header).toList ++ stated mark body := by
  have opened : mark.value? "\x7b" = none := value?_fixed marked (by decide) (by decide)
  have closed : mark.value? ("\x7d" ++ suffix) = none :=
    value?_fixed_append marked (by decide) (by decide) suffix
  rw [blockClosedBy, stated_append, stated_cons, stated_cons, Step.lines, Step.lines]
  simp only [List.filterMap_cons, List.filterMap_nil, opened, closed, stated_nil,
    List.append_nil]
  cases mark.value? header <;> rfl

theorem stated_block (header : String) (body : List Step) :
    stated mark (block header body) = (mark.value? header).toList ++ stated mark body :=
  stated_blockClosedBy marked header body ""

theorem stated_classHeader (kind id : String) : stated mark (classHeader kind id) = [] := by
  simp (disch := decide) only [classHeader, headerComment, generatorVersion, stated_line_cons,
    String.append_assoc, value?_fixed marked, value?_fixed_append marked, stated_nil,
    Option.toList_none, List.append_nil]

/-- The documentation comment states nothing, whatever its texts are. -/
theorem stated_summary (title description : String) :
    stated mark (summary title description) = [] := by
  simp (disch := decide) [summary, value?_fixed marked, value?_fixed_append marked]

theorem stated_usingSteps (names : List String) : stated mark (usingSteps names) = [] := by
  simp (disch := decide) [usingSteps, String.append_assoc, value?_fixed_append marked]

/-- A class file states what its body states. -/
theorem stated_classSteps
    {declaration : String}
    (declared : mark.value? declaration = none)
    (kind id title description space : String)
    (usings : List String)
    (body : List Step) :
    stated mark (classSteps (classHeader kind id) usings space (summary title description)
      declaration body) = stated mark body := by
  simp (disch := decide) [classSteps, stated_classHeader marked, stated_usingSteps marked,
    stated_block marked, value?_fixed_append marked, stated_summary marked, declared]

end

end

end Source
end QuestMod
