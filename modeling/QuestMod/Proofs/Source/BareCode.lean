import QuestMod.Proofs.Source.MarkedLine
import QuestMod.Proofs.Source.NeatSteps

/-!
# Code without literals and comments

Texts that come from a blueprint stand in string literals and in comments. A reader who
passes over both sees the code of a source: literals are empty, and of a comment nothing
but its slashes is left. Code is read piece by piece, and the lines of code in rendered
steps are those that the steps write, whatever their indentation is.
-/

namespace QuestMod
namespace Source

open Text (Occurs)

/-! ## Passing over literals and comments -/

namespace ScanMode

/-- What a reader is inside of behind a character. -/
def behind : ScanMode → Char → ScanMode
  | code, c => if c = '"' then string else if c = '/' then slash else code
  | slash, c => if c = '/' then comment else if c = '"' then string else code
  | comment, c => if c = '\n' then code else comment
  | string, c => if c = '"' then code else if c = '\\' then escape else string
  | escape, _ => string

/-- A reader of code sees the character. -/
def sees : ScanMode → Char → Bool
  | code, _ => true
  | slash, _ => true
  | comment, c => c == '\n'
  | string, c => c == '"'
  | escape, _ => false

end ScanMode

/-- What a reader is inside of behind a text. -/
def modeBehind (mode : ScanMode) (characters : List Char) : ScanMode :=
  characters.foldl ScanMode.behind mode

/-- The characters that a reader of code sees. -/
def bareFrom : ScanMode → List Char → List Char
  | _, [] => []
  | mode, c :: rest =>
      if mode.sees c then c :: bareFrom (mode.behind c) rest else bareFrom (mode.behind c) rest

@[simp] theorem bareFrom_nil (mode : ScanMode) : bareFrom mode [] = [] := rfl

theorem modeBehind_cons (mode : ScanMode) (c : Char) (rest : List Char) :
    modeBehind mode (c :: rest) = modeBehind (mode.behind c) rest := rfl

theorem modeBehind_append (mode : ScanMode) (first second : List Char) :
    modeBehind mode (first ++ second) = modeBehind (modeBehind mode first) second :=
  List.foldl_append

/-- Reading goes on from where it stopped. -/
theorem bareFrom_append (mode : ScanMode) (first second : List Char) :
    bareFrom mode (first ++ second) =
      bareFrom mode first ++ bareFrom (modeBehind mode first) second := by
  induction first generalizing mode with
  | nil => rfl
  | cons c rest ih =>
      rw [List.cons_append, bareFrom, bareFrom, ih]
      split <;> rfl

theorem bareFrom_sublist (mode : ScanMode) (characters : List Char) :
    (bareFrom mode characters).Sublist characters := by
  induction characters generalizing mode with
  | nil => exact .slnil
  | cons c rest ih =>
      rw [bareFrom]
      split
      · exact (ih _).cons_cons c
      · exact (ih _).cons c

/-- Neither a quote nor a slash makes a reader leave the code. -/
theorem read_plain
    {characters : List Char}
    (plain : ∀ c ∈ characters, c ≠ '"' ∧ c ≠ '/') :
    bareFrom .code characters = characters ∧ modeBehind .code characters = .code := by
  induction characters with
  | nil => exact ⟨rfl, rfl⟩
  | cons c rest ih =>
      obtain ⟨⟨notQuote, notSlash⟩, others⟩ := List.forall_mem_cons.1 plain
      have stays : ScanMode.code.behind c = .code := by
        rw [ScanMode.behind, if_neg notQuote, if_neg notSlash]
      obtain ⟨seen, ends⟩ := ih others
      constructor
      · rw [bareFrom, stays, seen]
        rfl
      · rw [modeBehind, List.foldl_cons, stays]
        exact ends

/-- A reader sees nothing of the body of a literal and is still inside of it at its end. -/
theorem read_literalBody (characters : List Char) :
    bareFrom .string (Text.literalBody characters) = [] ∧
      modeBehind .string (Text.literalBody characters) = .string := by
  induction characters with
  | nil => exact ⟨rfl, rfl⟩
  | cons c rest ih =>
      have single : bareFrom .string (Text.literalCharacter c) = [] ∧
          modeBehind .string (Text.literalCharacter c) = .string := by
        rcases Text.literalCharacter_cases c with
          ⟨mark, written⟩ | ⟨written, notBackslash, notQuote, _⟩
        · rw [written]
          exact ⟨rfl, rfl⟩
        · rw [written]
          simp [bareFrom, modeBehind, ScanMode.sees, ScanMode.behind, notQuote, notBackslash]
      rw [Text.literalBody_cons, bareFrom_append, modeBehind_append, single.1, single.2]
      exact ih

/-- A reader sees nothing of a comment. -/
theorem read_comment
    {characters : List Char}
    (oneLine : '\n' ∉ characters) :
    bareFrom .comment characters = [] ∧ modeBehind .comment characters = .comment := by
  induction characters with
  | nil => exact ⟨rfl, rfl⟩
  | cons c rest ih =>
      rw [List.mem_cons, not_or] at oneLine
      have other : c ≠ '\n' := Ne.symm oneLine.1
      have hidden : ScanMode.comment.sees c = false := beq_eq_false_iff_ne.2 other
      have stays : ScanMode.comment.behind c = .comment := if_neg other
      obtain ⟨seen, ends⟩ := ih oneLine.2
      constructor
      · rw [bareFrom, hidden, stays, seen]
        rfl
      · rw [modeBehind, List.foldl_cons, stays]
        exact ends

/-- Whether characters are plain for a reader can be computed. -/
theorem forall_ne_of_all
    {characters : List Char}
    (absent : characters.all (fun c => c != '"' && c != '/' && c != '\n') = true) :
    ∀ c ∈ characters, c ≠ '"' ∧ c ≠ '/' ∧ c ≠ '\n' := by
  intro c member
  have other := List.all_eq_true.1 absent c member
  simpa [and_assoc] using other

/-! ## Pieces of code -/

/-- The text is a piece of one line, and its code is the second text. -/
structure Reads (text code : String) : Prop where
  seen : bareFrom .code text.toList = code.toList
  ends : modeBehind .code text.toList = .code
  oneLine : '\n' ∉ text.toList

namespace Reads

theorem append
    {first second firstCode secondCode : String}
    (firstReads : Reads first firstCode)
    (secondReads : Reads second secondCode) :
    Reads (first ++ second) (firstCode ++ secondCode) where
  seen := by
    rw [String.toList_append, bareFrom_append, firstReads.seen, firstReads.ends,
      secondReads.seen, String.toList_append]
  ends := by
    rw [String.toList_append, modeBehind_append, firstReads.ends, secondReads.ends]
  oneLine := by
    rw [String.toList_append, List.mem_append, not_or]
    exact ⟨firstReads.oneLine, secondReads.oneLine⟩

/-- A text without quotes, slashes and line ends is its own code. -/
theorem plain
    {text : String}
    (absent : ∀ c ∈ text.toList, c ≠ '"' ∧ c ≠ '/' ∧ c ≠ '\n') :
    Reads text text := by
  obtain ⟨seen, ends⟩ := read_plain fun c member => ⟨(absent c member).1, (absent c member).2.1⟩
  exact ⟨seen, ends, fun member => (absent _ member).2.2 rfl⟩

theorem fixed
    {characters : List Char}
    (absent : characters.all (fun c => c != '"' && c != '/' && c != '\n') = true) :
    Reads (String.ofList characters) (String.ofList characters) := by
  refine plain fun c member => ?_
  rw [String.toList_ofList] at member
  exact forall_ne_of_all absent c member

/-- Characters of an identifier are code. -/
theorem continued
    {text : String}
    (continues : ∀ c ∈ text.toList, Text.continuesIdentifier c = true) :
    Reads text text := by
  refine plain fun c member => ⟨?_, ?_, ?_⟩
  all_goals
    rintro rfl
    exact absurd (continues _ member) (by decide)

theorem name
    {text : String}
    (form : HasIdentifierForm text) :
    Reads text text :=
  continued fun _ => continuesIdentifier_of_mem form

/-- A word of one line is code. -/
theorem word
    {text : String}
    (isWord : IsWord text)
    (isOneLine : Text.IsOneLine text) :
    Reads text text := by
  refine plain fun c member => ?_
  have unmarked := markOf_eq_plain_iff.1 (isWord c member)
  refine ⟨?_, ?_, ?_⟩
  · rintro rfl
    exact unmarked (by decide)
  · rintro rfl
    exact unmarked (by decide)
  · rintro rfl
    exact isOneLine '\n' (by decide) member

end Reads

/-! ## Lines of code -/

/-- The code of a line without its indentation, unless nothing is left but a comment. -/
def codeLine? (line : List Char) : Option String :=
  let code := line.dropWhile (· == ' ')
  if code = [] ∨ ['/', '/'] <+: code then none else some (String.ofList code)

/-- The lines of code of a source: literals are empty, and indentation, comments and blank
lines are left out. -/
def codeLines (source : String) : List String :=
  (Text.splitAt '\n' (bareFrom .code source.toList)).filterMap codeLine?

/-- The code of a line of source. -/
def lineCode? (line : String) : Option String :=
  codeLine? (bareFrom .code line.toList)

/-- The text is a whole line that opens no literal without closing it. -/
structure IsWholeLine (line : String) : Prop where
  oneLine : '\n' ∉ line.toList
  ends : modeBehind .code line.toList = .code ∨ modeBehind .code line.toList = .comment

theorem codeLines_line_append
    {line : String}
    (whole : IsWholeLine line)
    (rest : String) :
    codeLines (line ++ "\n" ++ rest) = (lineCode? line).toList ++ codeLines rest := by
  have newline : "\n".toList = ['\n'] := rfl
  have absent : '\n' ∉ bareFrom .code line.toList := fun member =>
    whole.oneLine ((bareFrom_sublist _ _).subset member)
  have behind : bareFrom (modeBehind .code line.toList) ('\n' :: rest.toList) =
      '\n' :: bareFrom .code rest.toList := by
    rcases whole.ends with ends | ends <;> rw [ends] <;> rfl
  rw [codeLines, String.toList_append, String.toList_append, newline, List.append_assoc,
    List.singleton_append, bareFrom_append, behind, Text.splitAt_append_separator,
    Text.splitAt_of_not_mem absent, List.filterMap_append, List.filterMap_cons,
    List.filterMap_nil, codeLines, lineCode?]
  cases codeLine? (bareFrom .code line.toList) <;> rfl

/-- Indentation is no code. -/
theorem codeLines_lineText_append
    {line : String}
    (whole : IsWholeLine line)
    (depth : Nat)
    (rest : String) :
    codeLines (lineText depth line ++ rest) = (lineCode? line).toList ++ codeLines rest := by
  unfold lineText
  split
  · rename_i empty
    have line_eq : line = "" := String.isEmpty_iff.1 empty
    subst line_eq
    exact codeLines_line_append whole rest
  · have spaces : ∀ c ∈ List.replicate (4 * depth) ' ', (c == ' ') = true := by
      intro c member
      rw [List.eq_of_mem_replicate member]
      rfl
    obtain ⟨seen, ends⟩ : bareFrom .code (List.replicate (4 * depth) ' ') =
          List.replicate (4 * depth) ' ' ∧
        modeBehind .code (List.replicate (4 * depth) ' ') = .code := by
      refine read_plain fun c member => ?_
      rw [List.eq_of_mem_replicate member]
      decide
    have spelled : (indentation depth ++ line).toList =
        List.replicate (4 * depth) ' ' ++ line.toList := by
      rw [String.toList_append, indentation, String.toList_ofList]
    have indented : IsWholeLine (indentation depth ++ line) := by
      refine ⟨?_, ?_⟩
      · rw [spelled, List.mem_append, not_or]
        exact ⟨fun member => absurd (List.eq_of_mem_replicate member) (by decide), whole.oneLine⟩
      · rw [spelled, modeBehind_append, ends]
        exact whole.ends
    have same : lineCode? (indentation depth ++ line) = lineCode? line := by
      rw [lineCode?, spelled, bareFrom_append, seen, ends, codeLine?,
        List.dropWhile_append_of_pos spaces]
      rfl
    rw [codeLines_line_append indented, same]

/-- The text is a line that begins with code, and its code is the second text. -/
structure LineReads (line code : String) : Prop extends Reads line code where
  flush : ∃ c rest, line.toList = c :: rest ∧ c ≠ ' ' ∧ c ≠ '/'

namespace LineReads

theorem append
    {first second firstCode secondCode : String}
    (firstReads : LineReads first firstCode)
    (secondReads : Reads second secondCode) :
    LineReads (first ++ second) (firstCode ++ secondCode) where
  toReads := firstReads.toReads.append secondReads
  flush := by
    obtain ⟨c, rest, spelled, visible⟩ := firstReads.flush
    exact ⟨c, rest ++ second.toList, by rw [String.toList_append, spelled]; rfl, visible⟩

theorem fixed
    {c : Char}
    {characters : List Char}
    (absent : (c :: characters).all (fun d => d != '"' && d != '/' && d != '\n') = true)
    (visible : c ≠ ' ' ∧ c ≠ '/') :
    LineReads (String.ofList (c :: characters)) (String.ofList (c :: characters)) where
  toReads := .fixed absent
  flush := ⟨c, characters, String.toList_ofList, visible⟩

variable {line code : String} (reads : LineReads line code)

include reads

theorem isWholeLine : IsWholeLine line :=
  ⟨reads.oneLine, .inl reads.ends⟩

theorem lineCode?_eq : lineCode? line = some code := by
  obtain ⟨c, rest, spelled, notSpace, notSlash⟩ := reads.flush
  have seen := reads.seen
  rw [spelled, bareFrom] at seen
  have flush : (c == ' ') = false := beq_eq_false_iff_ne.2 notSpace
  have noComment : ¬ ['/', '/'] <+: c :: bareFrom (ScanMode.code.behind c) rest := fun comment =>
    notSlash (List.cons_prefix_cons.1 comment).1.symm
  rw [lineCode?, spelled, bareFrom]
  show codeLine? (c :: bareFrom (ScanMode.code.behind c) rest) = some code
  rw [codeLine?, List.dropWhile_cons_of_neg (by simp [flush]),
    if_neg (not_or.2 ⟨List.cons_ne_nil _ _, noComment⟩)]
  exact congrArg some (String.toList_injective (String.toList_ofList.trans seen))

end LineReads

/-- A comment is a whole line without code. -/
theorem IsRemark.isWholeLine
    {line : String}
    (remark : IsRemark line) :
    IsWholeLine line ∧ lineCode? line = none := by
  obtain ⟨body, spelled, oneLine⟩ := remark
  obtain ⟨seen, ends⟩ := read_comment oneLine
  refine ⟨⟨?_, ?_⟩, ?_⟩
  · rw [spelled]
    simp [oneLine]
  · rw [spelled]
    exact .inr ends
  · rw [lineCode?, spelled]
    show codeLine? ('/' :: '/' :: bareFrom .comment body) = none
    rw [seen]
    rfl

/-! ## Steps -/

/-- Whatever follows the steps, the lines of code in their text are the given ones. -/
def StepsRead (steps : List Step) (code : List String) : Prop :=
  ∀ depth rest, codeLines (renderAt depth steps ++ rest) = code ++ codeLines rest

namespace StepsRead

variable {steps others : List Step} {code otherCode : List String} {text lineCode : String}

theorem nil : StepsRead [] [] :=
  fun _ _ => congrArg codeLines String.empty_append

theorem append
    (reads : StepsRead steps code)
    (othersRead : StepsRead others otherCode) :
    StepsRead (steps ++ others) (code ++ otherCode) := by
  intro depth rest
  rw [renderAt_append, String.append_assoc, reads, othersRead, List.append_assoc]

theorem cons
    {step : Step}
    (first : ∀ depth rest, codeLines (step.text depth ++ rest) = code ++ codeLines rest)
    (othersRead : StepsRead others otherCode) :
    StepsRead (step :: others) (code ++ otherCode) := by
  intro depth rest
  rw [renderAt_cons, String.append_assoc, first, othersRead, List.append_assoc]

theorem line
    (reads : LineReads text lineCode)
    (othersRead : StepsRead others otherCode) :
    StepsRead (.line text :: others) (lineCode :: otherCode) := by
  have first : ∀ depth rest, codeLines ((Step.line text).text depth ++ rest) =
      [lineCode] ++ codeLines rest := by
    intro depth rest
    rw [Step.text, codeLines_lineText_append reads.isWholeLine, reads.lineCode?_eq]
    rfl
  exact cons first othersRead

theorem remark
    (isRemark : IsRemark text)
    (othersRead : StepsRead others otherCode) :
    StepsRead (.line text :: others) otherCode := by
  have first : ∀ depth rest, codeLines ((Step.line text).text depth ++ rest) =
      [] ++ codeLines rest := by
    intro depth rest
    rw [Step.text, codeLines_lineText_append isRemark.isWholeLine.1, isRemark.isWholeLine.2]
    rfl
  exact cons first othersRead

theorem ofRemarks (remarks : AreRemarks steps) : StepsRead steps [] :=
  remarks.induction nil remark

theorem comment (othersRead : StepsRead others otherCode) :
    StepsRead (.comment text :: others) otherCode :=
  remark (isRemark_commentBody text) othersRead

theorem blank (othersRead : StepsRead others otherCode) :
    StepsRead (.blank :: others) otherCode := by
  have empty : IsWholeLine "" := ⟨List.not_mem_nil, .inl rfl⟩
  have first : ∀ depth rest, codeLines (Step.blank.text depth ++ rest) =
      [] ++ codeLines rest := fun depth rest => codeLines_lineText_append empty depth rest
  exact cons first othersRead

/-- A header and the brace that follows it. -/
theorem opened
    (header : LineReads text lineCode)
    (othersRead : StepsRead others otherCode) :
    StepsRead (.openBlock text :: others) (lineCode :: "\x7b" :: otherCode) := by
  have brace : LineReads "\x7b" "\x7b" := .fixed (by decide) (by decide)
  have first : ∀ depth rest, codeLines ((Step.openBlock text).text depth ++ rest) =
      [lineCode, "\x7b"] ++ codeLines rest := by
    intro depth rest
    rw [Step.text, String.append_assoc, codeLines_lineText_append header.isWholeLine,
      codeLines_lineText_append brace.isWholeLine, header.lineCode?_eq, brace.lineCode?_eq]
    rfl
  exact cons first othersRead

/-- The brace that closes a block. -/
theorem closed
    {suffix closingCode : String}
    (closing : LineReads ("\x7d" ++ suffix) closingCode) :
    StepsRead [.closeBlock suffix] [closingCode] := by
  have first : ∀ depth rest, codeLines ((Step.closeBlock suffix).text depth ++ rest) =
      [closingCode] ++ codeLines rest := by
    intro depth rest
    rw [Step.text, codeLines_lineText_append closing.isWholeLine, closing.lineCode?_eq]
    rfl
  exact cons first nil

/-- A block is its header and its body between braces. -/
theorem blockClosedBy
    {suffix closingCode : String}
    (header : LineReads text lineCode)
    (body : StepsRead steps code)
    (closing : LineReads ("\x7d" ++ suffix) closingCode) :
    StepsRead (Source.blockClosedBy text steps suffix)
      (lineCode :: "\x7b" :: code ++ [closingCode]) :=
  (opened header body).append (closed closing)

theorem flatMap
    {α : Type}
    {items : List α}
    {stepsOf : α → List Step}
    {codeOf : α → List String}
    (reads : ∀ item ∈ items, StepsRead (stepsOf item) (codeOf item)) :
    StepsRead (items.flatMap stepsOf) (items.flatMap codeOf) :=
  Text.related_flatMap nil append reads

theorem mapLine
    {α : Type}
    {items : List α}
    {textOf codeOf : α → String}
    (reads : ∀ item ∈ items, LineReads (textOf item) (codeOf item)) :
    StepsRead (items.map fun item => .line (textOf item)) (items.map codeOf) := by
  rw [List.map_eq_flatMap, List.map_eq_flatMap]
  exact flatMap fun item member => line (reads item member) nil

/-- The lines of code in the text of the steps. -/
theorem codeLines_render (reads : StepsRead steps code) : codeLines (render steps) = code := by
  have whole := reads 0 ""
  have empty : codeLines "" = [] := rfl
  rwa [String.append_empty, empty, List.append_nil] at whole

/-- The lines of code in the text of one member. -/
theorem codeLines_renderGroups
    {member : Member}
    (reads : StepsRead member.steps code) :
    codeLines (renderGroups [[member]]) = code := by
  have only : bodySteps [[member]] = member.steps := by
    rw [bodySteps, groupSteps, List.flatMap_singleton]
  rw [renderGroups, only]
  exact reads.codeLines_render

end StepsRead

/-! ## Calls -/

/-- The names in front of the opening parentheses of a line, when the given characters stand
in front of it, last one first. Spaces may stand between a name and its parenthesis. -/
def calledFrom : List Char → List Char → List String
  | _, [] => []
  | front, c :: rest =>
      if c = '(' then
        String.ofList
            ((front.dropWhile (· == ' ')).takeWhile Text.continuesIdentifier).reverse ::
          calledFrom (c :: front) rest
      else calledFrom (c :: front) rest

/-- The names that a line of code calls. -/
def calledNames (line : String) : List String :=
  calledFrom [] line.toList

theorem calledFrom_append (front first second : List Char) :
    calledFrom front (first ++ second) =
      calledFrom front first ++ calledFrom (first.reverse ++ front) second := by
  induction first generalizing front with
  | nil => rfl
  | cons c rest ih =>
      rw [List.cons_append, calledFrom, calledFrom, ih, List.reverse_cons, List.append_assoc]
      split <;> rfl

theorem calledFrom_toList_append (front : List Char) (first second : String) :
    calledFrom front (first ++ second).toList =
      calledFrom front first.toList ++
        calledFrom (first.toList.reverse ++ front) second.toList := by
  rw [String.toList_append, calledFrom_append]

/-- Nothing is called without a parenthesis. -/
theorem calledFrom_of_not_occurs
    {text : String}
    (absent : ¬ Occurs '(' text)
    (front : List Char) :
    calledFrom front text.toList = [] := by
  unfold Occurs at absent
  generalize text.toList = characters at absent
  induction characters generalizing front with
  | nil => rfl
  | cons c rest ih =>
      rw [List.mem_cons, not_or] at absent
      rw [calledFrom, if_neg (Ne.symm absent.1)]
      exact ih _ absent.2

theorem calledFrom_append_of_not_occurs
    {first second : String}
    {front : List Char}
    (absent : ¬ Occurs '(' second) :
    calledFrom front (first ++ second).toList = calledFrom front first.toList := by
  rw [calledFrom_toList_append, calledFrom_of_not_occurs absent, List.append_nil]

theorem IsWord.not_occurs_parenthesis
    {text : String}
    (word : IsWord text) :
    ¬ Occurs '(' text := by
  intro member
  have plain := word '(' member
  cases plain

end Source
end QuestMod
