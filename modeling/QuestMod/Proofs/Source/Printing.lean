import QuestMod.Proofs.Source.Declaration
import QuestMod.Proofs.Source.Spelling

/-!
# What steps print

Steps print what their lines read as: their text is neat, it has known lines of code and known
statements, it shows known texts, and it states known values. All of this is put together
along the steps at once, from what each line reads as. Members of a class print declarations
under their own names, and a class body prints what its members print.
-/

namespace QuestMod
namespace Source

open Text (IsOneLine Passes lineBreaks)

/-! ## Steps -/

/-- The steps are neat and print the lines of code and the statements. Of the texts they show
the line ends that have no escape, and no others, and they state the values under their
marks. -/
structure Prints (steps : List Step) (code : List String) (statements : List Statement)
    (texts : List String) (ids : List (LineMark × String)) : Prop where
  neat : Neat steps
  reads : StepsRead steps code
  outlines : Outlines steps statements
  shows_iff : ∀ c ∈ lineBreaks, (Shows c steps ↔ ∃ text ∈ texts, Passes c text)
  stated_eq : ∀ mark ∈ idMarks, stated mark steps = valuesOf mark ids

namespace Prints

variable {steps others : List Step} {code otherCode : List String}
  {statements otherStatements : List Statement} {texts otherTexts : List String}
  {ids otherIds : List (LineMark × String)} {text lineCode : String}

theorem nil : Prints [] [] [] [] [] where
  neat := .nil
  reads := .nil
  outlines := .nil
  shows_iff c _ := by simp
  stated_eq _ _ := rfl

/-- Steps print one behind the other. -/
theorem append
    (first : Prints steps code statements texts ids)
    (second : Prints others otherCode otherStatements otherTexts otherIds) :
    Prints (steps ++ others) (code ++ otherCode) (statements ++ otherStatements)
      (texts ++ otherTexts) (ids ++ otherIds) where
  neat := first.neat.append second.neat
  reads := first.reads.append second.reads
  outlines := first.outlines.append second.outlines
  shows_iff c isBreak := by
    rw [shows_append, first.shows_iff c isBreak, second.shows_iff c isBreak]
    simp only [List.mem_append, or_and_right, exists_or]
  stated_eq mark marked := by
    rw [stated_append, first.stated_eq mark marked, second.stated_eq mark marked,
      valuesOf_append]

/-- The texts that steps show are known as a set. -/
theorem showing
    (prints : Prints steps code statements texts ids)
    (same : ∀ text, text ∈ texts ↔ text ∈ otherTexts) :
    Prints steps code statements otherTexts ids where
  neat := prints.neat
  reads := prints.reads
  outlines := prints.outlines
  shows_iff c isBreak := by
    simpa only [same] using prints.shows_iff c isBreak
  stated_eq := prints.stated_eq

/-! ### Lines -/

theorem ofLine
    {lineTexts : List String}
    {lineIds : List (LineMark × String)}
    (isLine : IsLine text lineCode lineTexts lineIds) :
    Prints [.line text] [lineCode] [⟨0, text⟩] lineTexts lineIds where
  neat := .line isLine.isCode .nil
  reads := .line isLine.lineReads .nil
  outlines := .line isLine.isStatement .nil
  shows_iff c isBreak := by
    simp [Step.shown, isLine.occurs_iff c isBreak]
  stated_eq mark marked := by
    rw [stated_line_cons, stated_nil, List.append_nil, isLine.value?_eq mark marked]

/-- A line in front of steps prints in front of what they print. -/
theorem line
    {lineTexts : List String}
    {lineIds : List (LineMark × String)}
    (isLine : IsLine text lineCode lineTexts lineIds)
    (behind : Prints steps code statements texts ids) :
    Prints (.line text :: steps) (lineCode :: code) (⟨0, text⟩ :: statements) (lineTexts ++ texts)
      (lineIds ++ ids) :=
  (ofLine isLine).append behind

/-- A comment of one line is no code, and shows and states nothing. -/
theorem ofRemark
    (isRemark : IsRemark text)
    (oneLine : IsOneLine text) :
    Prints [.line text] [] [] [] [] where
  neat := .remark isRemark .nil
  reads := .remark isRemark .nil
  outlines := .remark isRemark .nil
  shows_iff c isBreak := by
    simp [Step.shown, oneLine c isBreak]
  stated_eq mark marked := by
    obtain ⟨body, spelled, _⟩ := isRemark
    have begins : text = "//" ++ String.ofList body := String.toList_injective (by simp [spelled])
    rw [stated_line_cons, begins, value?_fixed_append marked (by decide) (by decide)]
    rfl

theorem remark
    (isRemark : IsRemark text)
    (oneLine : IsOneLine text)
    (behind : Prints steps code statements texts ids) :
    Prints (.line text :: steps) code statements texts ids :=
  (ofRemark isRemark oneLine).append behind

theorem comment
    (oneLine : IsOneLine text)
    (behind : Prints steps code statements texts ids) :
    Prints (.comment text :: steps) code statements texts ids := by
  have comment : Prints [.comment text] [] [] [] [] := {
    neat := .comment .nil
    reads := .comment .nil
    outlines := .comment .nil
    shows_iff := fun c isBreak => by
      have silent : ¬ Passes c text := fun passes => oneLine c isBreak passes.2
      simp (disch := decide) [Step.shown, Text.not_occurs_fixed isBreak,
        Text.occurs_commentBody isBreak, silent]
    stated_eq := fun mark marked => by
      rw [stated_comment_cons marked, stated_nil, valuesOf_nil] }
  exact comment.append behind

theorem blank (behind : Prints steps code statements texts ids) :
    Prints (.blank :: steps) code statements texts ids := by
  have blank : Prints [.blank] [] [] [] [] := {
    neat := .blank .nil
    reads := .blank .nil
    outlines := .blank .nil
    shows_iff := fun c isBreak => by
      simp (disch := decide) [Step.shown, Text.not_occurs_fixed isBreak]
    stated_eq := fun _ _ => rfl }
  exact blank.append behind

/-! ### Blocks and lists -/

/-- A block prints its header, and its body inside of one more block. -/
theorem blockClosedBy
    {lineTexts : List String}
    {lineIds : List (LineMark × String)}
    (header : IsLine text lineCode lineTexts lineIds)
    (body : Prints steps code statements texts ids)
    {suffix : List Char}
    (scans : scan ⟨.code, []⟩ suffix = some ⟨.code, []⟩)
    (plain : suffix.all isPlain = true) :
    Prints (Source.blockClosedBy text steps (String.ofList suffix))
      (lineCode :: "\x7b" :: code ++ ["\x7d" ++ String.ofList suffix])
      (⟨0, text⟩ :: statements.map (Statement.inside 1)) (lineTexts ++ texts) (lineIds ++ ids) where
  neat := .blockClosedBy header.isCode body.neat (isCode_ofList scans)
  reads := by
    have behind : Spells ⟨.code, []⟩ (String.ofList suffix) _ [] ⟨.code, []⟩ :=
      .fixed scans plain
    have brace : LineReads "\x7d" "\x7d" := .fixed (by decide) (by decide)
    exact .blockClosedBy header.lineReads body.reads (brace.append behind.reads)
  outlines := .blockClosedBy header.isStatement body.outlines _
  shows_iff c isBreak := by
    have behind : Spells ⟨.code, []⟩ (String.ofList suffix) _ [] ⟨.code, []⟩ :=
      .fixed scans plain
    rw [shows_blockClosedBy isBreak, header.occurs_iff c isBreak, body.shows_iff c isBreak,
      behind.occurs_iff c isBreak]
    simp only [List.mem_append, or_and_right, exists_or, List.not_mem_nil, false_and, exists_false,
      or_false]
  stated_eq mark marked := by
    rw [stated_blockClosedBy marked, header.value?_eq mark marked, body.stated_eq mark marked,
      valuesOf_append]

/-- A block that is closed by nothing but its brace. -/
theorem block
    {lineTexts : List String}
    {lineIds : List (LineMark × String)}
    (header : IsLine text lineCode lineTexts lineIds)
    (body : Prints steps code statements texts ids) :
    Prints (Source.block text steps) (lineCode :: "\x7b" :: code ++ ["\x7d"])
      (⟨0, text⟩ :: statements.map (Statement.inside 1)) (lineTexts ++ texts) (lineIds ++ ids) := by
  have closed : Prints (Source.blockClosedBy text steps (String.ofList [])) _ _ _ _ :=
    blockClosedBy header body rfl rfl
  have nothing : String.ofList [] = "" := rfl
  rwa [nothing, String.append_empty] at closed

/-- The steps of items print one behind the other. -/
theorem flatMap
    {α : Type}
    {items : List α}
    {stepsOf : α → List Step}
    {codeOf : α → List String}
    {statementsOf : α → List Statement}
    {textsOf : α → List String}
    (prints : ∀ item ∈ items,
      Prints (stepsOf item) (codeOf item) (statementsOf item) (textsOf item) []) :
    Prints (items.flatMap stepsOf) (items.flatMap codeOf) (items.flatMap statementsOf)
      (items.flatMap textsOf) [] := by
  induction items with
  | nil => exact nil
  | cons item rest ih =>
      obtain ⟨first, others⟩ := List.forall_mem_cons.1 prints
      simp only [List.flatMap_cons]
      exact first.append (ih others)

/-- Lines of items that show and state nothing. -/
theorem mapLine
    {α : Type}
    {items : List α}
    {textOf codeOf : α → String}
    (lines : ∀ item ∈ items, IsLine (textOf item) (codeOf item) [] []) :
    Prints (items.map fun item => .line (textOf item)) (items.map codeOf)
      (items.map fun item => ⟨0, textOf item⟩) [] [] := by
  have each : Prints (items.flatMap fun item => [.line (textOf item)]) _ _ _ [] :=
    .flatMap fun item member => .ofLine (lines item member)
  simp only [← List.map_eq_flatMap] at each
  exact each.showing (by simp)

/-- The steps of items print one behind the other, whatever their code is. -/
theorem exists_flatMap
    {α : Type}
    {items : List α}
    {stepsOf : α → List Step}
    {statementsOf : α → List Statement}
    {textsOf : α → List String}
    (prints : ∀ item ∈ items, ∃ code,
      Prints (stepsOf item) code (statementsOf item) (textsOf item) []) :
    ∃ code, Prints (items.flatMap stepsOf) code (items.flatMap statementsOf)
      (items.flatMap textsOf) [] := by
  induction items with
  | nil => exact ⟨_, nil⟩
  | cons item rest ih =>
      obtain ⟨⟨_, first⟩, others⟩ := List.forall_mem_cons.1 prints
      obtain ⟨_, later⟩ := ih others
      simp only [List.flatMap_cons]
      exact ⟨_, first.append later⟩

end Prints

/-! ## Members -/

/-- The member prints a declaration under its own name. -/
structure PrintsMember (member : Member) (code : List String) (declaration : Declaration)
    (texts : List String) (ids : List (LineMark × String)) : Prop extends
    Prints member.steps code declaration.outline texts ids, Writes member declaration

namespace PrintsMember

variable {name text lineCode : String} {steps : List Step} {code : List String}
  {statements : List Statement} {texts lineTexts : List String}
  {ids lineIds : List (LineMark × String)}

/-- A member on one line, with comments behind it. -/
theorem ofLine
    (isLine : IsLine text lineCode lineTexts lineIds)
    (named : declaredName? text = some name)
    (silent : Prints steps [] [] [] []) :
    PrintsMember ⟨name, .line text :: steps⟩ [lineCode] ⟨[], text, []⟩ lineTexts lineIds where
  toPrints := by
    have whole := Prints.line isLine silent
    rwa [List.append_nil, List.append_nil] at whole
  named := named
  silent := List.forall_mem_nil _

theorem onLine
    (isLine : IsLine text lineCode lineTexts lineIds)
    (named : declaredName? text = some name) :
    PrintsMember (.onLine name text) [lineCode] ⟨[], text, []⟩ lineTexts lineIds :=
  ofLine isLine named .nil

theorem withBody
    (header : IsLine text lineCode lineTexts lineIds)
    (named : declaredName? text = some name)
    (body : Prints steps code statements texts ids) :
    PrintsMember (.withBody name text steps) (lineCode :: "\x7b" :: code ++ ["\x7d"])
      ⟨[], text, statements⟩ (lineTexts ++ texts) (lineIds ++ ids) where
  toPrints := .block header body
  named := named
  silent := List.forall_mem_nil _

/-- A member with a comment in front. -/
theorem documented
    {remark : String}
    (isRemark : IsRemark remark)
    (oneLine : IsOneLine remark)
    (header : IsLine text lineCode lineTexts lineIds)
    (named : declaredName? text = some name)
    (body : Prints steps code statements texts ids) :
    PrintsMember ⟨name, .line remark :: block text steps⟩
      (lineCode :: "\x7b" :: code ++ ["\x7d"]) ⟨[], text, statements⟩ (lineTexts ++ texts)
      (lineIds ++ ids) where
  toPrints := .remark isRemark oneLine (.block header body)
  named := named
  silent := List.forall_mem_nil _

end PrintsMember

/-- Each of the members prints a declaration, and together they show the texts and state the
values. -/
inductive PrintMembers : List Member → List String → List (LineMark × String) → Prop
  | nil : PrintMembers [] [] []
  | cons
      {member : Member}
      {members : List Member}
      {code : List String}
      {declaration : Declaration}
      {texts otherTexts : List String}
      {ids otherIds : List (LineMark × String)}
      (first : PrintsMember member code declaration texts ids)
      (others : PrintMembers members otherTexts otherIds) :
      PrintMembers (member :: members) (texts ++ otherTexts) (ids ++ otherIds)

namespace PrintMembers

variable {members others : List Member} {texts otherTexts : List String}
  {ids otherIds : List (LineMark × String)}

theorem single
    {member : Member}
    {code : List String}
    {declaration : Declaration}
    (prints : PrintsMember member code declaration texts ids) :
    PrintMembers [member] texts ids := by
  have whole := PrintMembers.cons prints .nil
  rwa [List.append_nil, List.append_nil] at whole

/-- Members that show and state nothing. -/
theorem ofSilent
    (silent : ∀ member ∈ members, ∃ code declaration, PrintsMember member code declaration [] []) :
    PrintMembers members [] [] := by
  induction members with
  | nil => exact .nil
  | cons member rest ih =>
      obtain ⟨⟨_, _, first⟩, others⟩ := List.forall_mem_cons.1 silent
      exact .cons first (ih others)

theorem append
    (first : PrintMembers members texts ids)
    (second : PrintMembers others otherTexts otherIds) :
    PrintMembers (members ++ others) (texts ++ otherTexts) (ids ++ otherIds) := by
  induction first with
  | nil => exact second
  | cons prints _ ih =>
      rw [List.append_assoc, List.append_assoc]
      exact .cons prints ih

/-- Members that print together print in two parts. -/
theorem exists_parts
    (prints : PrintMembers (members ++ others) texts ids) :
    ∃ front back frontIds backIds, texts = front ++ back ∧ ids = frontIds ++ backIds ∧
      PrintMembers members front frontIds ∧ PrintMembers others back backIds := by
  induction members generalizing texts ids with
  | nil => exact ⟨[], texts, [], ids, rfl, rfl, .nil, prints⟩
  | cons member rest ih =>
      cases prints with
      | cons first later =>
          obtain ⟨front, back, frontIds, backIds, rfl, rfl, inFront, behind⟩ := ih later
          exact ⟨_, back, _, backIds, (List.append_assoc _ _ _).symm,
            (List.append_assoc _ _ _).symm, .cons first inFront, behind⟩

/-- Members that print are declared. -/
theorem areDeclared (prints : PrintMembers members texts ids) : AreDeclared members := by
  induction prints with
  | nil => exact List.forall_mem_nil _
  | cons first _ ih => exact List.forall_mem_cons.2 ⟨⟨_, first.toWrites⟩, ih⟩

/-- A group of members prints what they print. -/
theorem exists_groupSteps (prints : PrintMembers members texts ids) :
    ∃ code statements, Prints (groupSteps members) code statements texts ids := by
  induction prints with
  | nil => exact ⟨_, _, .nil⟩
  | cons first _ ih =>
      obtain ⟨_, _, later⟩ := ih
      exact ⟨_, _, first.toPrints.append later⟩

/-- A class body prints what its members print. -/
theorem exists_bodySteps
    {groups : List (List Member)}
    (prints : PrintMembers groups.flatten texts ids) :
    ∃ code statements, Prints (bodySteps groups) code statements texts ids := by
  fun_induction bodySteps groups generalizing texts ids with
  | case1 => exact prints.exists_groupSteps
  | case2 group =>
      rw [List.flatten_singleton] at prints
      exact prints.exists_groupSteps
  | case3 group groups _ ih =>
      rw [List.flatten_cons] at prints
      obtain ⟨_, _, _, _, rfl, rfl, inGroup, behind⟩ := prints.exists_parts
      obtain ⟨_, _, first⟩ := inGroup.exists_groupSteps
      obtain ⟨_, _, later⟩ := ih behind
      exact ⟨_, _, first.append (.blank later)⟩

/-! ## Class files -/

section

variable {groups : List (List Member)} (prints : PrintMembers groups.flatten texts ids)
  {declaration lineCode : String} (declared : IsLine declaration lineCode [] [])
  {kind space : String} {usings : List String} (id title description : String)

include prints declared

/-- A class file is neat when its members print, whatever its comments tell. -/
theorem neat_classSteps
    (kindLine : IsOneLine kind)
    (dotted : ∀ name ∈ usings, IsDottedName name)
    (spaceDotted : IsDottedName space) :
    Neat (classSteps (classHeader kind id) usings space (summary title description) declaration
      (bodySteps groups)) := by
  obtain ⟨_, _, body⟩ := prints.exists_bodySteps
  exact Source.neat_classSteps
    (.ofRemarks (areRemarks_classHeader (fun member => kindLine '\n' (by decide) member) id))
    (fun name member => (dotted name member).isWord) spaceDotted
    (.ofRemarks (areRemarks_summary title description)) declared.isCode body.neat

/-- A class file shows the texts of its members, and in its comments the identifier, the title
and the lines of the description. -/
theorem shows_classSteps
    {c : Char}
    (isBreak : c ∈ lineBreaks)
    (kindLine : IsOneLine kind)
    (dotted : ∀ name ∈ usings, IsDottedName name)
    (spaceLine : IsOneLine space) :
    Shows c (classSteps (classHeader kind id) usings space (summary title description)
        declaration (bodySteps groups)) ↔
      Passes c id ∨ (Passes c title ∨
        ∃ line ∈ Text.lines description, Text.Occurs c (Text.trim line)) ∨
          ∃ text ∈ texts, Passes c text := by
  obtain ⟨_, _, body⟩ := prints.exists_bodySteps
  rw [Source.shows_classSteps isBreak _ _ _ (fun name member => (dotted name member).isOneLine)
    spaceLine declared.isOneLine, shows_classHeader isBreak kindLine, shows_summary isBreak,
    body.shows_iff c isBreak]

/-- The values that a class file states are those that its members state. -/
theorem values_classSteps
    {mark : LineMark}
    (marked : mark ∈ idMarks)
    (absent : ¬ Shows '\n' (classSteps (classHeader kind id) usings space
      (summary title description) declaration (bodySteps groups))) :
    mark.values (render (classSteps (classHeader kind id) usings space
      (summary title description) declaration (bodySteps groups))) = valuesOf mark ids := by
  obtain ⟨_, _, body⟩ := prints.exists_bodySteps
  have unmarked : mark.value? declaration = none :=
    Option.toList_eq_nil_iff.1 (declared.value?_eq mark marked)
  rw [render, LineMark.values_renderAt marked absent, stated_classSteps marked unmarked]
  exact body.stated_eq mark marked

end

end PrintMembers

end Source
end QuestMod
