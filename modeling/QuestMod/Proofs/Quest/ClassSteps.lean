import QuestMod.Proofs.Quest.SubscriptionSteps
import QuestMod.Quest.Class

/-!
# What quest classes print

The members of a quest class besides its methods for the lifecycle and its subscriptions:
constants, properties, tables, saved data, progress and registration. Each line that they emit
is read once. Put together, the members of the class show the texts of the quest, and state its
identifier and the targets of its subscriptions.
-/

namespace QuestMod
namespace Quest

open Source (Begins HasIdentifierForm IsLine PrintMembers Prints PrintsMember Spells Statement
  declaredName? declaredName?_fixed declaredName?_ofList declaredName?_of_toList_eq)
open Text (IsOneLine)

/-! ## Constants -/

section

variable (quest : Blueprint.Quest)

/-- The constant with the identifier states it. -/
theorem isLine_questId :
    IsLine ("public const string QuestId = " ++ Text.stringLiteral quest.questId ++ ";")
      "public const string QuestId = \"\";" [quest.questId]
      [(.questConstant, quest.questId)] := by
  have spelled : "public const string QuestId = " ++ "\"\"" ++ ";" =
      "public const string QuestId = \"\";" := by decide
  rw [← spelled]
  exact .stating (.fixed (by rfl) (by decide)) (.fixed (by decide)) (by decide) _
    (.fixed (by rfl) (by decide)) (by decide)

/-- The constant with the title has no mark. -/
theorem isLine_questTitle :
    IsLine ("public const string QuestTitle = " ++ Text.stringLiteral quest.title ++ ";")
      "public const string QuestTitle = \"\";" [quest.title] [] := by
  have spelled : "public const string QuestTitle = " ++ "\"\"" ++ ";" =
      "public const string QuestTitle = \"\";" := by decide
  rw [← spelled]
  exact .markless (.fixed (by rfl) (by decide)) (.fixed (by decide)) (by decide) _
    (.fixed (by rfl) (by decide)) (by decide)

theorem printMembers_constantMembers :
    PrintMembers (constantMembers quest) [quest.questId, quest.title]
      [(.questConstant, quest.questId)] :=
  .cons (.onLine (isLine_questId quest) (declaredName?_fixed (by decide) (by decide) _ _))
    (.single (.onLine (isLine_questTitle quest)
      (declaredName?_fixed (by decide) (by decide) _ _)))

/-! ## Properties -/

theorem isLine_title :
    IsLine "protected override string Title => QuestTitle;"
      "protected override string Title => QuestTitle;" [] [] :=
  .fixed (by decide)

theorem isLine_description :
    IsLine ("protected override string Description => " ++
        Text.stringLiteral quest.description ++ ";")
      "protected override string Description => \"\";" [quest.description] [] := by
  have spelled : "protected override string Description => " ++ "\"\"" ++ ";" =
      "protected override string Description => \"\";" := by decide
  have front : Begins "protected override string Description => " _ _ _ :=
    .fixed (by rfl) (by decide)
  rw [← spelled]
  exact ((front.append (.literal _)).append (.fixed (by rfl) (by decide))).isLine

/-- A flag is its own code. -/
theorem isLine_autoBegin (flag : Bool) :
    IsLine ("protected override bool AutoBegin => " ++ Source.boolLiteral flag ++ ";")
      ("protected override bool AutoBegin => " ++ Source.boolLiteral flag ++ ";") [] [] := by
  have front : Begins "protected override bool AutoBegin => " _ _ _ :=
    .fixed (by rfl) (by decide)
  exact ((front.append (.word (Source.isWord_boolLiteral flag)
    (Source.isOneLine_boolLiteral flag))).append (.fixed (by rfl) (by decide))).isLine

theorem printMembers_propertyMembers :
    PrintMembers (propertyMembers quest) [quest.description] [] := by
  have override : Prints (overrideComment quest) [] [] [] [] := by
    unfold overrideComment
    split
    · exact .comment (Source.isOneLine_ofList (by decide)) .nil
    · exact .nil
  exact .cons (.onLine isLine_title (declaredName?_ofList (by decide))) <|
    .cons (.onLine (isLine_description quest) (declaredName?_fixed (by decide) (by decide) _ _)) <|
      .single (.ofLine (isLine_autoBegin _) (declaredName?_fixed (by decide) (by decide) _ _)
        override)

end

/-! ## Tables and fields -/

/-- The line of the table with the required progress. -/
def tableLine (entries : List Entry) : String :=
  "public static readonly int[] RequiredProgress = \x7b " ++
    ", ".intercalate (entries.map fun entry => toString entry.requiredProgress) ++ " \x7d;"

/-- A table of numbers is its own code. -/
theorem isLine_tableLine (entries : List Entry) :
    IsLine (tableLine entries) (tableLine entries) [] [] := by
  have front : Begins "public static readonly int[] RequiredProgress = \x7b " _ _
      ⟨.code, ['\x7d']⟩ :=
    .fixed (by rfl) (by decide)
  have numbers : Spells ⟨.code, ['\x7d']⟩
      (", ".intercalate (entries.map fun entry => toString entry.requiredProgress)) _ []
      ⟨.code, ['\x7d']⟩ :=
    .commas <| List.forall_mem_map.2 fun entry _ => .number entry.requiredProgress
  exact ((front.append numbers).append (.fixed (by rfl) (by decide))).isLine

theorem printsMember_progressTable (entries : List Entry) :
    PrintsMember (progressTable entries) [tableLine entries] ⟨[], tableLine entries, []⟩ [] [] :=
  .onLine (isLine_tableLine entries) (declaredName?_fixed (by decide) (by decide) _ _)

theorem printsMember_entryMember
    {entry : Entry}
    (form : HasIdentifierForm entry.variableName) :
    ∃ code, PrintsMember (entryMember entry) code
      ⟨[], "private QuestEntry? " ++ entry.variableName ++ ";", []⟩ [] [] := by
  have front : Begins "private QuestEntry? " _ _ _ :=
    .fixed (by rfl) (by decide)
  exact ⟨_, .onLine ((front.append (.name form)).append (.fixed (by rfl) (by decide))).isLine
    (declaredName?_of_toList_eq form "private QuestEntry?".toList [';'] (by simp) (by decide)
      (by decide) (by decide))⟩

theorem printsMember_progressArray :
    PrintsMember progressArray
      ["private readonly int[] _progress = new int[RequiredProgress.Length];"]
      ⟨[], "private readonly int[] _progress = new int[RequiredProgress.Length];", []⟩ [] [] :=
  .onLine (.fixed (by decide)) (declaredName?_ofList (by decide))

/-! ## Saved fields -/

/-- A default that fits its kind is the literal of a value of that kind. -/
theorem literalOf?_cases
    {kind : Blueprint.DataKind}
    {written literal : String}
    (fits : literalOf? kind written = some literal) :
    (kind = .int ∧ ∃ value : Int, literal = toString value) ∨
      (kind = .float ∧ ∃ value, literal = Source.singleLiteral value) ∨
      (kind = .bool ∧ (literal = "true" ∨ literal = "false")) ∨
      (kind = .text ∧ literal = Text.stringLiteral written) := by
  cases kind with
  | int =>
      obtain ⟨value, _, bounded⟩ := Option.bind_eq_some_iff.1 fits
      obtain ⟨_, same⟩ := Option.ite_none_right_eq_some.1 bounded
      exact .inl ⟨rfl, value, (Option.some.inj same).symm⟩
  | float =>
      obtain ⟨value, _, finite⟩ := Option.bind_eq_some_iff.1 fits
      obtain ⟨_, same⟩ := Option.ite_none_right_eq_some.1 finite
      exact .inr (.inl ⟨rfl, value, (Option.some.inj same).symm⟩)
  | bool =>
      obtain ⟨truth, same⟩ := Option.ite_none_right_eq_some.1 fits
      rw [Option.some.inj same] at truth
      exact .inr (.inr (.inl ⟨rfl, truth⟩))
  | text => exact .inr (.inr (.inr ⟨rfl, (Option.some.inj fits).symm⟩))

/-- The default that a text field shows. -/
def textDefault? (field : Blueprint.DataField) : Option String :=
  match field.kind with
  | .text => field.default
  | _ => none

/-- The default of a kind shows nothing. -/
theorem exists_spells_kindDefault (kind : Blueprint.DataKind) :
    ∃ code, Spells ⟨.code, []⟩ (kindDefault kind) code [] ⟨.code, []⟩ := by
  cases kind with
  | text =>
      have spelled : kindDefault .text = "\"\"" := by decide
      rw [spelled]
      exact ⟨_, .quoted (by rfl) (by rfl) (by decide)⟩
  | int => exact ⟨_, .fixed (by rfl) (by decide)⟩
  | float => exact ⟨_, .fixed (by rfl) (by decide)⟩
  | bool => exact ⟨_, .fixed (by rfl) (by decide)⟩

/-- Numbers and truth values show nothing. -/
theorem exists_spells_literalOf?
    {kind : Blueprint.DataKind}
    (noText : kind ≠ .text)
    {written literal : String}
    (fits : literalOf? kind written = some literal) :
    ∃ code, Spells ⟨.code, []⟩ literal code [] ⟨.code, []⟩ := by
  rcases literalOf?_cases fits with
    ⟨_, value, rfl⟩ | ⟨_, value, rfl⟩ | ⟨_, rfl | rfl⟩ | ⟨isText, _⟩
  · exact ⟨_, .word (Source.isWord_toString_int value) (Source.isOneLine_toString_int value)⟩
  · exact ⟨_, .word (Source.isWord_singleLiteral value) (Source.isOneLine_singleLiteral value)⟩
  · exact ⟨_, .fixed (by rfl) (by decide)⟩
  · exact ⟨_, .fixed (by rfl) (by decide)⟩
  · exact absurd isText noText

/-- The literal of a default shows its text, if it is one. -/
theorem exists_spells_defaultLiteral (field : Blueprint.DataField) :
    ∃ code, Spells ⟨.code, []⟩ (defaultLiteral field) code (textDefault? field).toList
      ⟨.code, []⟩ := by
  by_cases isText : field.kind = .text
  · rw [textDefault?, defaultLiteral, writtenDefault?, isText]
    cases field.default with
    | none => exact exists_spells_kindDefault .text
    | some written => exact ⟨_, .literal written⟩
  · have nothing : textDefault? field = none := by
      unfold textDefault?
      split
      · rename_i kind
        exact absurd kind isText
      · rfl
    rw [nothing, defaultLiteral]
    split
    · rename_i written _
      cases fits : literalOf? field.kind written with
      | none => exact exists_spells_kindDefault field.kind
      | some literal => exact exists_spells_literalOf? isText fits
    · exact exists_spells_kindDefault field.kind

/-- A saved field begins with its type, and no type makes it a constant. -/
theorem begins_typed (kind : Blueprint.DataKind) :
    Begins ("public " ++ typeName kind ++ " ") ("public " ++ typeName kind ++ " ") []
      ⟨.code, []⟩ := by
  have spelled (characters : List Char)
      (same : "public " ++ typeName kind ++ " " = String.ofList characters)
      (scans : Source.scan ⟨.code, []⟩ characters = some ⟨.code, []⟩)
      (isFront : Source.isFixedFront characters = true) :
      Begins ("public " ++ typeName kind ++ " ") ("public " ++ typeName kind ++ " ") []
        ⟨.code, []⟩ := by
    rw [same]
    exact .fixed scans isFront
  cases kind with
  | int => exact spelled "public int ".toList (by decide) (by rfl) (by decide)
  | float => exact spelled "public float ".toList (by decide) (by rfl) (by decide)
  | bool => exact spelled "public bool ".toList (by decide) (by rfl) (by decide)
  | text => exact spelled "public string ".toList (by decide) (by rfl) (by decide)

/-- The declaration of a field shows its default, if this is a text. -/
theorem exists_printsMember_field
    (field : Blueprint.DataField)
    {name : String}
    (form : HasIdentifierForm name) :
    ∃ code declaration, PrintsMember
      (.onLine name ("public " ++ typeName field.kind ++ " " ++ name ++ " = " ++
        defaultLiteral field ++ ";")) code declaration (textDefault? field).toList [] := by
  obtain ⟨_, literal⟩ := exists_spells_defaultLiteral field
  have line : IsLine ("public " ++ typeName field.kind ++ " " ++ name ++ " = " ++
      defaultLiteral field ++ ";") _ ((textDefault? field).toList ++ []) [] :=
    (((((begins_typed field.kind).append (.name form)).append (.fixed (by rfl) (by decide))).append
      literal).append (.fixed (by rfl) (by decide))).isLine
  have plain : ((typeName field.kind).toList.all fun c => !Source.endsName c) = true := by
    cases field.kind <;> decide
  have named : declaredName? ("public " ++ typeName field.kind ++ " " ++ name ++ " = " ++
      defaultLiteral field ++ ";") = some name :=
    declaredName?_of_toList_eq form ("public ".toList ++ (typeName field.kind).toList)
      (' ' :: '=' :: ' ' :: ((defaultLiteral field).toList ++ [';'])) (by simp)
      (by rw [List.all_append, plain]; rfl) (by simp) rfl
  rw [List.append_nil] at line
  exact ⟨_, _, .onLine line named⟩

theorem printMembers_fieldMembers
    (index : Nat)
    (fields : List Blueprint.DataField)
    (used : Source.NameSet) :
    PrintMembers (fieldMembers index fields used).1 (fields.filterMap textDefault?) [] := by
  induction fields generalizing index used with
  | nil => exact .nil
  | cons field rest ih =>
      have form := Source.hasIdentifierForm_chooseName
        (hasIdentifierForm_wantedField index field) used (index + 1)
      obtain ⟨_, _, first⟩ := exists_printsMember_field field form
      have whole := PrintMembers.cons first
        (ih (index + 1) (Source.chooseName (wantedField index field) used (index + 1)).2)
      rw [List.filterMap_cons]
      cases shown : textDefault? field <;> rwa [shown] at whole

/-- The declaration of a counter. -/
theorem exists_printsMember_counter
    {name : String}
    (form : HasIdentifierForm name) :
    ∃ code, PrintsMember (.onLine name ("public int " ++ name ++ ";")) code
      ⟨[], "public int " ++ name ++ ";", []⟩ [] [] := by
  have front : Begins "public int " _ _ _ := .fixed (by rfl) (by decide)
  exact ⟨_, .onLine ((front.append (.name form)).append (.fixed (by rfl) (by decide))).isLine
    (declaredName?_of_toList_eq form "public int".toList [';'] (by simp) (by decide)
      (by decide) (by decide))⟩

/-! ## The class of saved data -/

/-- The class of saved data has an identifier for its name. Its members show the texts, and its
counters are declared under identifiers. -/
structure PrintsData (data : DataClass) (texts : List String) : Prop where
  name : HasIdentifierForm data.name
  members : PrintMembers (data.fields ++ data.counters) texts []
  counters : ∀ member ∈ data.counters, ∃ name, HasIdentifierForm name ∧
    member = .onLine name ("public int " ++ name ++ ";")

/-- The defaults that the saved data of a quest shows. -/
def textDefaults (quest : Blueprint.Quest) : List String :=
  if quest.generateDataClass then quest.dataFields.filterMap textDefault? else []

theorem printsData_dataClass
    (quest : Blueprint.Quest)
    {className : String}
    (form : HasIdentifierForm className)
    {entries : List Entry}
    (named : WellNamed entries) :
    PrintsData (dataClass quest className entries) (quest.dataFields.filterMap textDefault?) where
  name := hasIdentifierForm_dataClassName form
  members := by
    have counters : PrintMembers (dataClass quest className entries).counters [] [] :=
      .ofSilent fun member declared => by
        obtain ⟨name, nameForm, rfl⟩ := mem_counterMembers named declared
        obtain ⟨_, prints⟩ := exists_printsMember_counter nameForm
        exact ⟨_, _, prints⟩
    have fields := printMembers_fieldMembers 0 quest.dataFields (.ofList [dataClassName className])
    have whole := fields.append counters
    rwa [List.append_nil] at whole
  counters _ declared := mem_counterMembers named declared

/-- Whatever class saves the data of a quest shows the defaults of its text fields. -/
theorem printsData_of_saves
    {quest : Blueprint.Quest}
    {className : String}
    (form : HasIdentifierForm className)
    {entries : List Entry}
    (named : WellNamed entries)
    {data : DataClass}
    (saves : dataClass? quest className entries = some data) :
    PrintsData data (textDefaults quest) := by
  simp only [dataClass?, Option.ite_none_right_eq_some, Option.some.injEq] at saves
  obtain ⟨generated, rfl⟩ := saves
  rw [textDefaults, if_pos generated]
  exact printsData_dataClass quest form named

section

variable {data : DataClass} (form : HasIdentifierForm data.name)

include form

/-- The nested class prints its members behind an attribute. -/
theorem exists_printsMember_nestedClass
    {code : List String}
    {statements : List Statement}
    {texts : List String}
    (body : Prints (Source.groupSteps (data.fields ++ data.counters)) code statements texts []) :
    ∃ classCode, PrintsMember
      ⟨data.name, .line "[Serializable]" ::
        Source.block ("public class " ++ data.name)
          (Source.groupSteps (data.fields ++ data.counters))⟩
      classCode ⟨["[Serializable]"], "public class " ++ data.name, statements⟩ texts [] := by
  have front : Begins "public class " _ _ _ := .fixed (by rfl) (by decide)
  exact ⟨_, {
    toPrints := .line (.fixed (by decide)) (.block (front.append (.name form)).isLine body)
    named := declaredName?_of_toList_eq form "public class".toList [] (by simp) (by decide)
      (by decide) rfl
    silent := List.forall_mem_singleton.2 (by decide) }⟩

/-- The field that holds the saved data. -/
theorem exists_printsMember_savedData :
    ∃ code, PrintsMember
      ⟨"_data", [.line ("[SaveableField(\"" ++ data.name ++ "\")]"),
        .line ("private " ++ data.name ++ " _data = new " ++ data.name ++ "();")]⟩ code
      ⟨["[SaveableField(\"" ++ data.name ++ "\")]"],
        "private " ++ data.name ++ " _data = new " ++ data.name ++ "();", []⟩ [] [] := by
  have opened : Begins "[SaveableField(\"" _ _ _ :=
    .front (.quoted (by rfl) (by rfl) (by decide)) (by decide)
  have marker : IsLine ("[SaveableField(\"" ++ data.name ++ "\")]") _ [] [] :=
    ((opened.append (.quotedName form)).append (.quoted (by rfl) (by rfl) (by decide))).isLine
  have front : Begins "private " _ _ _ := .fixed (by rfl) (by decide)
  have field : IsLine ("private " ++ data.name ++ " _data = new " ++ data.name ++ "();") _ [] [] :=
    ((((front.append (.name form)).append (.fixed (by rfl) (by decide))).append
      (.name form)).append (.fixed (by rfl) (by decide))).isLine
  have dataForm : HasIdentifierForm "_data" := Source.hasIdentifierForm_ofList (by decide)
  exact ⟨_, {
    toPrints := .line marker (.ofLine field)
    named := declaredName?_of_toList_eq dataForm ("private ".toList ++ data.name.toList)
      (' ' :: '=' :: ' ' :: ("new ".toList ++ (data.name.toList ++ "();".toList))) (by simp)
      (by rw [List.all_append, Source.all_not_endsName form]; rfl) (by simp) rfl
    silent := by
      refine List.forall_mem_singleton.2 ?_
      rw [declaredName?, if_pos (by simp)] }⟩

/-- The access to saved data has the name of a class for its type, and no constant has. -/
theorem isLine_dataAccess :
    ∃ code, IsLine ("public " ++ data.name ++ " Data => _data;") code [] [] := by
  have noSpace : ' ' ∉ data.name.toList := fun member =>
    absurd (Source.continuesIdentifier_of_mem form member) (by decide)
  have spelled : ("public " ++ data.name ++ " Data => _data;").toList =
      ['p', 'u', 'b', 'l', 'i', 'c', ' '] ++
        (data.name.toList ++ (" Data => _data;".toList ++ [])) := by
    have head : "public ".toList = ['p', 'u', 'b', 'l', 'i', 'c', ' '] := rfl
    rw [String.toList_append, String.toList_append, head, List.append_assoc, List.append_nil]
  have front : Spells ⟨.code, []⟩ "public " _ [] ⟨.code, []⟩ := .fixed (by rfl) (by decide)
  refine ⟨_, (front.append (.name form)).append (.fixed (by rfl) (by decide)),
    ((Source.IsStatement.fixed (by decide)).append _).append _, fun mark marked => ?_⟩
  have constant : Source.departsBehindWord ['c', 'o', 'n', 's', 't', ' ', 's', 't', 'r', 'i', 'n',
      'g', ' '] " Data => _data;".toList = true := by decide
  have unmarked : mark.value? ("public " ++ data.name ++ " Data => _data;") = none := by
    refine Source.value?_eq_none_of_departs marked fun start member => ?_
    rw [Source.unindented_of_flush (by rw [spelled]; simp), spelled]
    simp only [Source.idFronts, List.mem_cons, List.not_mem_nil, or_false] at member
    rcases member with rfl | rfl
    · exact Source.departs_word_append constant noSpace []
    · rfl
  rw [unmarked]
  rfl

theorem exists_printsMember_dataAccess :
    ∃ code, PrintsMember (.onLine "Data" ("public " ++ data.name ++ " Data => _data;")) code
      ⟨[], "public " ++ data.name ++ " Data => _data;", []⟩ [] [] := by
  obtain ⟨_, line⟩ := isLine_dataAccess form
  exact ⟨_, .onLine line (declaredName?_of_toList_eq (by decide)
    ("public ".toList ++ data.name.toList) " => _data;".toList (by simp)
    (by rw [List.all_append, Source.all_not_endsName form]; rfl) (by simp) (by decide))⟩

end

theorem PrintsData.printMembers_groups
    {data : DataClass}
    {texts : List String}
    (prints : PrintsData data texts) :
    PrintMembers data.groups.flatten texts [] := by
  obtain ⟨_, _, body⟩ := prints.members.exists_groupSteps
  obtain ⟨_, nested⟩ := exists_printsMember_nestedClass prints.name body
  obtain ⟨_, stored⟩ := exists_printsMember_savedData prints.name
  obtain ⟨_, access⟩ := exists_printsMember_dataAccess prints.name
  have whole : PrintMembers data.groups.flatten (texts ++ []) [] :=
    .cons nested (.cons stored (.single access))
  rwa [List.append_nil] at whole

/-- The members that hold the entries and their progress show the defaults of texts. -/
theorem printMembers_storageGroups
    (quest : Blueprint.Quest)
    {className : String}
    (form : HasIdentifierForm className)
    {entries : List Entry}
    (named : WellNamed entries) :
    PrintMembers (storageGroups entries (dataClass? quest className entries)).flatten
      (textDefaults quest) [] := by
  have fields : PrintMembers (entries.map entryMember) [] [] :=
    .ofSilent <| List.forall_mem_map.2 fun entry member => by
      obtain ⟨_, prints⟩ := printsMember_entryMember (named entry member)
      exact ⟨_, _, prints⟩
  cases saves : dataClass? quest className entries with
  | some data =>
      rw [storageGroups, List.flatten_cons]
      exact fields.append (printsData_of_saves form named saves).printMembers_groups
  | none =>
      have nothing : textDefaults quest = [] := by
        simp only [dataClass?, ite_eq_right_iff, reduceCtorEq, imp_false] at saves
        rw [textDefaults, if_neg saves]
      rw [storageGroups, List.flatten_singleton, nothing]
      exact fields.append (.single printsMember_progressArray)

/-! ## Progress -/

/-- The expressions of the progress counters begin with the names of their tables. -/
theorem begins_of_mem_counters
    {entries : List Entry}
    {data : Option DataClass}
    {texts : List String}
    (prints : ∀ saved ∈ data, PrintsData saved texts) :
    ∀ counter ∈ counters entries data, Begins counter counter [] ⟨.code, []⟩ := by
  intro counter member
  unfold counters at member
  split at member
  · rename_i saved
    obtain ⟨declared, inCounters, rfl⟩ := List.mem_map.1 member
    obtain ⟨name, form, rfl⟩ := (prints saved rfl).counters declared inCounters
    have front : Begins "_data." _ _ _ := .fixed (by rfl) (by decide)
    exact front.append (.name form)
  · obtain ⟨index, _, rfl⟩ := List.mem_map.1 member
    have front : Begins "_progress[" _ _ _ := .fixed (by rfl) (by decide)
    exact (front.append (.number index)).append (.fixed (by rfl) (by decide))

/-- The label of the case at a position. -/
def caseLabel (position : Nat) : String :=
  "case " ++ toString position ++ ":"

/-- The statements behind the label of an entry's case. -/
def caseOutline (position : Nat) (entry : Entry) (counter : String) : List Statement := [
  ⟨0, "if (this." ++ entry.variableName ++ " == null || this." ++ entry.variableName ++
    ".State != QuestState.Active)"⟩,
  ⟨1, "break;"⟩,
  ⟨0, counter ++ "++;"⟩,
  ⟨0, "if (" ++ counter ++ " >= RequiredProgress[" ++ toString position ++ "])"⟩,
  ⟨1, "this." ++ entry.variableName ++ ".Complete();"⟩,
  ⟨0, "break;"⟩]

/-- A case shows nothing: its line are made of names and numbers. -/
theorem exists_prints_caseSteps
    (position : Nat)
    {entry : Entry}
    (form : HasIdentifierForm entry.variableName)
    {counter : String}
    (counts : Begins counter counter [] ⟨.code, []⟩) :
    ∃ code, Prints (caseSteps position entry counter) code
      (⟨0, caseLabel position⟩ :: caseOutline position entry counter) [] [] := by
  have label : IsLine (caseLabel position) _ [] [] :=
    (((Begins.fixed (by rfl) (by decide)).append (.number position)).append
      (.fixed (by rfl) (by decide))).isLine
  have inactive : IsLine ("if (this." ++ entry.variableName ++ " == null || this." ++
      entry.variableName ++ ".State != QuestState.Active)") _ [] [] :=
    (((((Begins.fixed (by rfl) (by decide)).append (.name form)).append
      (.fixed (by rfl) (by decide))).append (.name form)).append
        (.fixed (by rfl) (by decide))).isLine
  have counted : IsLine (counter ++ "++;") _ [] [] :=
    (counts.append (.fixed (by rfl) (by decide))).isLine
  have enough : IsLine
      ("if (" ++ counter ++ " >= RequiredProgress[" ++ toString position ++ "])") _ [] [] :=
    (((((Begins.fixed (by rfl) (by decide)).append
      counts.toSpells.inside).append (.fixed (by rfl) (by decide))).append
        (.number position)).append (.fixed (by rfl) (by decide))).isLine
  have completes : IsLine ("this." ++ entry.variableName ++ ".Complete();") _ [] [] :=
    (((Begins.fixed (by rfl) (by decide)).append (.name form)).append
      (.fixed (by rfl) (by decide))).isLine
  have breaks : IsLine "break;" _ [] [] := .fixed (by decide)
  have spelled : "if (" ++ fieldOf entry ++ " == null || " ++ fieldOf entry ++
      ".State != QuestState.Active)" =
        "if (this." ++ entry.variableName ++ " == null || this." ++ entry.variableName ++
          ".State != QuestState.Active)" :=
    String.toList_injective (by simp [fieldOf])
  rw [caseSteps, spelled]
  exact ⟨_, (((Prints.ofLine label).append (.block inactive (.ofLine breaks))).append
    (.ofLine counted)).append (.block enough (.ofLine completes)) |>.append (.ofLine breaks)⟩

/-- The statements behind the last label of the method that records progress. -/
def defaultOutline : List Statement := [
  ⟨0, "MelonLogger.Warning(\"Unknown objective index \" + index + \" in quest \" + " ++
    "QuestId);"⟩,
  ⟨0, "break;"⟩]

/-- The cases of the method that records progress. -/
def casesOutline (entries : List Entry) (counters : List String) : List Statement :=
  ((entries.zip counters).zipIdx.flatMap fun numbered =>
    ⟨0, caseLabel numbered.2⟩ :: caseOutline numbered.2 numbered.1.1 numbered.1.2) ++
      ⟨0, "default:"⟩ :: defaultOutline

theorem exists_printsMember_advanceObjective
    {entries : List Entry}
    (named : WellNamed entries)
    {counters : List String}
    (count : ∀ counter ∈ counters, Begins counter counter [] ⟨.code, []⟩) :
    ∃ code, PrintsMember (advanceObjective entries counters) code
      ⟨[], "public void AdvanceObjective(int index)",
        ⟨0, "switch (index)"⟩ :: (casesOutline entries counters).map (Statement.inside 1)⟩
      [] [] := by
  have documentation : Source.IsRemark
      ("/// <summary>Record one unit of progress on the objective at " ++
        "<paramref name=\"index\"/>.</summary>") :=
    (Source.isRemark_ofList (by decide)).append (by decide)
  have remarkLine : IsOneLine
      ("/// <summary>Record one unit of progress on the objective at " ++
        "<paramref name=\"index\"/>.</summary>") :=
    Source.isOneLine_append (Source.isOneLine_ofList (by decide))
      (Source.isOneLine_ofList (by decide))
  have warns : Begins "MelonLogger.Warning(\"Unknown objective index \" + index + \" in quest \" + "
      _ _ _ :=
    .front (.quoted (by rfl) (by rfl) (by decide)) (by decide)
  have unknown : IsLine
      ("MelonLogger.Warning(\"Unknown objective index \" + index + \" in quest \" + " ++
        "QuestId);") _ [] [] :=
    (warns.append (.fixed (by rfl) (by decide))).isLine
  have each : ∀ numbered ∈ (entries.zip counters).zipIdx, ∃ code,
      Prints (caseSteps numbered.2 numbered.1.1 numbered.1.2) code
        (⟨0, caseLabel numbered.2⟩ :: caseOutline numbered.2 numbered.1.1 numbered.1.2) [] [] := by
    intro numbered member
    have inZip := List.of_mem_zip (List.fst_mem_of_mem_zipIdx member)
    exact exists_prints_caseSteps numbered.2 (named _ inZip.1) (count _ inZip.2)
  obtain ⟨_, cases⟩ := Prints.exists_flatMap each
  have all : Prints _ _ (casesOutline entries counters) _ [] :=
    cases.append (.line (.fixed (by decide)) (.line unknown (.ofLine (.fixed (by decide)))))
  have silent : Prints _ _ (casesOutline entries counters) [] [] := all.showing (by simp)
  exact ⟨_, .documented documentation remarkLine (.fixed (by decide)) (by decide)
    (.block (.fixed (by decide)) silent)⟩

/-! ## Registration -/

theorem exists_printsMember_createMethod
    {className : String}
    (form : HasIdentifierForm className) :
    ∃ code declaration, PrintsMember (createMethod className) code declaration [] [] := by
  have header : IsLine ("public static " ++ className ++ "? Create()") _ [] [] :=
    (((Begins.fixed (by rfl) (by decide)).append (.name form)).append
      (.fixed (by rfl) (by decide))).isLine
  have creates : IsLine ("var quest = QuestManager.CreateQuest<" ++ className ++
      ">(QuestId) as " ++ className ++ ";") _ [] [] :=
    (((((Begins.fixed (by rfl) (by decide)).append (.name form)).append
      (.fixed (by rfl) (by decide))).append (.name form)).append
        (.fixed (by rfl) (by decide))).isLine
  have warns : IsLine "MelonLogger.Warning(\"Failed to create quest \" + QuestId);" _ [] [] :=
    (Begins.front (.quoted (by rfl) (by rfl) (by decide)) (by decide)).isLine
  have failed : Prints (Source.block "if (quest == null)"
      [.line "MelonLogger.Warning(\"Failed to create quest \" + QuestId);"]) _ _ [] [] :=
    .block (.fixed (by decide)) (.ofLine warns)
  have createForm : HasIdentifierForm "Create" := Source.hasIdentifierForm_ofList (by decide)
  have named : declaredName? ("public static " ++ className ++ "? Create()") = some "Create" :=
    declaredName?_of_toList_eq createForm ("public static ".toList ++ className.toList ++ ['?'])
      ['(', ')'] (by simp)
      (by rw [List.all_append, List.all_append, Source.all_not_endsName form]; rfl) (by simp)
      (by decide)
  exact ⟨_, _, .documented (Source.isRemark_ofList (by decide))
    (Source.isOneLine_ofList (by decide)) header named
    (.line creates (failed.append (.ofLine (.fixed (by decide)))))⟩

/-! ## All members -/

section

variable (quest : Blueprint.Quest) {className : String} (icon : Option String)

/-- The texts that the members of a quest class show, in the order of the members. -/
def memberTexts (className : String) : List String :=
  let titles := (resolveForClass quest className).entries.map Entry.title
  [quest.questId, quest.title, quest.description] ++ textDefaults quest ++ titles ++ titles ++
    (subscriptions quest).filterMap Subscription.target? ++
    quest.rewards.filterMap rewardItem? ++ [quest.title] ++ icon.toList

/-- Every member of a quest class is declared under its own name. The members show the texts of
the quest, and state its identifier and the targets of its look-ups. -/
theorem printMembers_memberGroups (form : HasIdentifierForm className) :
    PrintMembers (memberGroups quest className (resolveForClass quest className) icon).flatten
      (memberTexts quest icon className)
      ((.questConstant, quest.questId) ::
        (subscriptions quest).filterMap Subscription.lookup?) := by
  have named : WellNamed (resolveForClass quest className).entries :=
    wellNamed_entries quest.objectives (memberScope className)
  have count : ∀ counter ∈ counters (resolveForClass quest className).entries
      (dataClass? quest className (resolveForClass quest className).entries),
        Begins counter counter [] ⟨.code, []⟩ :=
    begins_of_mem_counters fun _ saves => printsData_of_saves form named saves
  have constants := (printMembers_constantMembers quest).append (printMembers_propertyMembers quest)
  have table := PrintMembers.single
    (printsMember_progressTable (resolveForClass quest className).entries)
  have storage := printMembers_storageGroups quest form named
  obtain ⟨_, binds⟩ := printsMember_bindEntries named
  have lifecycle := PrintMembers.cons (printsMember_created named)
    (.cons (printsMember_loaded named) (.single binds))
  have subscribed : PrintMembers (subscriptionGroups (resolveForClass quest className).entries
      (resolveForClass quest className).subscriptions).flatten _ _ :=
    printMembers_subscriptionGroups named fun _ => isWritable_and_positioned
  have rewards := printMembers_rewardGroups quest
  have icons := printMembers_iconGroups icon
  obtain ⟨_, advances⟩ := exists_printsMember_advanceObjective named count
  obtain ⟨_, _, creates⟩ := exists_printsMember_createMethod form
  have methods := PrintMembers.cons advances (.single creates)
  have whole := ((((((constants.append table).append storage).append lifecycle).append
    subscribed).append rewards).append icons).append methods
  simp only [List.append_nil, List.nil_append, List.cons_append, List.append_assoc] at whole
  simp only [memberGroups, memberTexts, List.flatten_append, List.flatten_cons, List.flatten_nil,
    List.append_nil, List.nil_append, List.cons_append, List.append_assoc]
  exact whole

end

end Quest
end QuestMod
