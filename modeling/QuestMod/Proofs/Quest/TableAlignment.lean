import QuestMod.Proofs.Quest.MemberName

/-!
# Tables of a quest class

The entries of a quest stand in several places of its class: creation and rebuilding add
them, restored ones are bound to them by their position, and the required progress and the
counters are looked up by an index. All these tables have the order of the entries, so an
index means the same entry in each of them.
-/

namespace QuestMod
namespace Quest

open Source (HasIdentifierForm Statement blockOf classBody declares headOf? sections)

/-! ## Added entries -/

/-- The variable and the title of the entry that a statement adds. -/
def addedTitle? (text : String) : Option (String × String) :=
  (" = AddEntry(".toList.isPrefixOf? (text.toList.dropWhile (· != ' '))).bind fun argument =>
    (Text.literalValue? argument).map fun title =>
      (String.ofList (text.toList.takeWhile (· != ' ')), title)

/-- The entries that the statements add, in their order. -/
def addedEntries (statements : List Statement) : List (String × String) :=
  statements.filterMap fun statement => addedTitle? statement.text

theorem addedEntries_append (first second : List Statement) :
    addedEntries (first ++ second) = addedEntries first ++ addedEntries second :=
  List.filterMap_append

theorem addedEntries_cons (statement : Statement) (statements : List Statement) :
    addedEntries (statement :: statements) =
      (addedTitle? statement.text).toList ++ addedEntries statements := by
  rw [addedEntries, List.filterMap_cons]
  cases addedTitle? statement.text <;> rfl

/-- A reader parts a statement at its first space. -/
theorem addedTitle?_of_toList_eq
    {text : String}
    {word rest : List Char}
    (spelled : text.toList = word ++ rest)
    (noSpace : ' ' ∉ word)
    (parted : ∀ c ∈ rest.head?, c = ' ') :
    addedTitle? text =
      (" = AddEntry(".toList.isPrefixOf? rest).bind fun argument =>
        (Text.literalValue? argument).map fun title => (String.ofList word, title) := by
  have inside : ∀ c ∈ word, (c != ' ') = true := fun c member =>
    bne_iff_ne.2 fun same => noSpace (same ▸ member)
  have behind : rest.dropWhile (· != ' ') = rest ∧ rest.takeWhile (· != ' ') = [] := by
    cases rest with
    | nil => exact ⟨rfl, rfl⟩
    | cons c others =>
        obtain rfl := parted c rfl
        exact ⟨List.dropWhile_cons_of_neg (by decide), List.takeWhile_cons_of_neg (by decide)⟩
  rw [addedTitle?, spelled, List.dropWhile_append_of_pos inside, behind.1,
    List.takeWhile_append_of_pos inside, behind.2, List.append_nil]

section

variable {entry : Entry} (form : HasIdentifierForm entry.variableName)

include form

theorem space_not_mem_variableName : ' ' ∉ entry.variableName.toList := fun member =>
  absurd (Source.continuesIdentifier_of_mem form member) (by decide)

theorem addedTitle?_newEntryLine (place : Option Blueprint.Location) :
    addedTitle? (newEntryLine entry place) = some (entry.variableName, entry.title) := by
  obtain ⟨rest, spelled⟩ : ∃ rest, (newEntryLine entry place).toList = entry.variableName.toList ++
      (" = AddEntry(".toList ++ ((Text.stringLiteral entry.title).toList ++ rest)) := by
    cases place with
    | none => exact ⟨");".toList, by simp [newEntryLine]⟩
    | some location =>
        exact ⟨", ".toList ++ ((Source.vectorLiteral location).toList ++ ");".toList),
          by simp [newEntryLine]⟩
  have opened : " = AddEntry(".toList.isPrefixOf?
      (" = AddEntry(".toList ++ ((Text.stringLiteral entry.title).toList ++ rest)) =
        some ((Text.stringLiteral entry.title).toList ++ rest) :=
    List.isPrefixOf?_eq_some_iff_append_eq.2 rfl
  rw [addedTitle?_of_toList_eq spelled (space_not_mem_variableName form)
    (fun c first => (Option.some.inj first).symm), opened, Option.bind_some,
    Text.literalValue?_stringLiteral, Option.map_some, String.ofList_toList]

theorem addedTitle?_begin : addedTitle? (entry.variableName ++ ".Begin();") = none := by
  have spelled : (entry.variableName ++ ".Begin();").toList =
      (entry.variableName.toList ++ ".Begin();".toList) ++ [] := by
    simp
  have noSpace : ' ' ∉ entry.variableName.toList ++ ".Begin();".toList := by
    rw [List.mem_append, not_or]
    exact ⟨space_not_mem_variableName form, by decide⟩
  rw [addedTitle?_of_toList_eq spelled noSpace (fun c first => by cases first)]
  rfl

theorem addedTitle?_placeLine (location : Blueprint.Location) :
    addedTitle? (placeLine entry location) = none := by
  obtain ⟨rest, vector⟩ : ∃ rest, (Source.vectorLiteral location).toList = 'n' :: rest := by
    unfold Source.vectorLiteral
    simp
  have spelled : (placeLine entry location).toList =
      (entry.variableName.toList ++ ".POIPosition".toList) ++
        (' ' :: '=' :: ' ' :: 'n' :: (rest ++ [';'])) := by
    simp [placeLine, vector]
  have noSpace : ' ' ∉ entry.variableName.toList ++ ".POIPosition".toList := by
    rw [List.mem_append, not_or]
    exact ⟨space_not_mem_variableName form, by decide⟩
  rw [addedTitle?_of_toList_eq spelled noSpace (fun c first => (Option.some.inj first).symm)]
  rfl

theorem addedEntries_creationOutline :
    addedEntries (creationOutline entry) = [(entry.variableName, entry.title)] := by
  rw [creationOutline, addedEntries_cons, addedTitle?_newEntryLine form]
  cases entry.startState.note? with
  | none =>
      dsimp only
      rw [addedEntries_cons, addedTitle?_begin form]
      rfl
  | some note => rfl

theorem addedEntries_rebuildOutline :
    addedEntries (rebuildOutline entry) = [(entry.variableName, entry.title)] := by
  rw [rebuildOutline, addedEntries_cons, addedTitle?_newEntryLine form]
  cases entry.restoredLocation with
  | none => rfl
  | some location =>
      dsimp only
      rw [addedEntries_cons, addedTitle?_placeLine form]
      rfl

end

section

variable {entries : List Entry} (named : WellNamed entries)

include named

theorem addedEntries_flatMap
    {outlineOf : Entry → List Statement}
    (one : ∀ entry, HasIdentifierForm entry.variableName →
      addedEntries (outlineOf entry) = [(entry.variableName, entry.title)]) :
    addedEntries (entries.flatMap outlineOf) =
      entries.map fun entry => (entry.variableName, entry.title) := by
  induction entries with
  | nil => rfl
  | cons entry rest ih =>
      obtain ⟨form, others⟩ := List.forall_mem_cons.1 named
      rw [List.flatMap_cons, addedEntries_append, one entry form, ih others]
      rfl

/-- Creation adds the entries in their order. -/
theorem addedEntries_createdOutline :
    addedEntries (createdOutline entries) =
      entries.map fun entry => (entry.variableName, entry.title) := by
  have front : addedEntries [⟨0, "base.OnCreated();"⟩, ⟨0, "if (QuestEntries.Count > 0)"⟩,
      ⟨1, callLine bindMethod⟩, ⟨1, callLine subscribeMethod⟩, ⟨1, "return;"⟩] = [] := by
    decide
  have back : addedEntries [⟨0, callLine subscribeMethod⟩] = [] := by decide
  rw [createdOutline, addedEntries_append, addedEntries_append, front, back,
    addedEntries_flatMap named fun _ form => addedEntries_creationOutline form, List.nil_append,
    List.append_nil]

/-- Rebuilding adds the entries in their order. -/
theorem addedEntries_loadedOutline :
    addedEntries (loadedOutline entries) =
      entries.map fun entry => (entry.variableName, entry.title) := by
  have front :
      addedEntries [⟨0, "base.OnLoaded();"⟩, ⟨0, "if (QuestEntries.Count == 0)"⟩] = [] := by
    decide
  have back : addedEntries [⟨0, callLine subscribeMethod⟩] = [] := by decide
  have inside (statements : List Statement) :
      addedEntries (statements.map (Statement.inside 1)) = addedEntries statements := by
    rw [addedEntries, List.filterMap_map]
    rfl
  rw [loadedOutline, addedEntries_append, inside, addedEntries_append, front, back,
    addedEntries_flatMap named fun _ form => addedEntries_rebuildOutline form, List.nil_append,
    List.append_nil]

end

/-! ## Bound entries -/

/-- Entries are counted by their positions. -/
theorem index_of_getElem?
    {objectives : List Blueprint.Objective}
    {used : Source.NameSet}
    {position : Nat}
    {entry : Entry}
    (present : (entries objectives used).1[position]? = some entry) :
    entry.index = position := by
  by_cases empty : objectives = []
  · subst empty
    rw [entries_nil] at present
    obtain ⟨rfl, rfl⟩ : position = 0 ∧ placeholder _ = entry := by
      cases position with
      | zero => exact ⟨rfl, Option.some.inj present⟩
      | succ position => cases present
    rfl
  · obtain ⟨numbered, found, stands⟩ :=
      exists_getElem?_of_forall₂ (standsFor_entries empty used).flip present
    have index : entry.index = numbered.2 := congrArg Entry.index stands
    rw [List.getElem?_zipIdx, Option.map_eq_some_iff] at found
    obtain ⟨objective, _, rfl⟩ := found
    rw [index, Nat.zero_add]

/-- The line that binds a variable to the restored entry at a position. -/
def boundText (variableName : String) (position : Nat) : String :=
  variableName ++ " = QuestEntries.Count > " ++ toString position ++ " ? QuestEntries[" ++
    toString position ++ "] : null;"

/-- Restored entries are bound in the order of the entries. -/
theorem bindOutline_entries (objectives : List Blueprint.Objective) (used : Source.NameSet) :
    bindOutline (entries objectives used).1 =
      (entries objectives used).1.zipIdx.map fun numbered =>
        ⟨0, boundText numbered.1.variableName numbered.2⟩ := by
  refine List.ext_getElem? fun position => ?_
  rw [bindOutline, List.getElem?_map, List.getElem?_map, List.getElem?_zipIdx]
  cases present : (entries objectives used).1[position]? with
  | none => rfl
  | some entry =>
      have index := index_of_getElem? present
      rw [Option.map_some, Option.map_some, Option.map_some, Nat.zero_add, ← index]
      rfl

/-! ## Required progress -/

/-- The progress that each objective of a quest needs, and that of a placeholder. -/
def neededProgress (quest : Blueprint.Quest) : List Nat :=
  if quest.objectives.isEmpty then [1]
  else quest.objectives.map fun objective => max 1 objective.requiredProgress.toNat

/-- What stands between the first opening brace and the closing one behind it. -/
def betweenBraces (characters : List Char) : List Char :=
  (characters.dropWhile (· != '\x7b')).tail.takeWhile (· != '\x7d')

theorem betweenBraces_append
    {front inner : List Char}
    (closed : front.all (· != '\x7b') = true)
    (plain : ∀ c ∈ inner, c ≠ '\x7d')
    (rest : List Char) :
    betweenBraces (front ++ '\x7b' :: (inner ++ '\x7d' :: rest)) = inner := by
  have inside : ∀ c ∈ inner, (c != '\x7d') = true := fun c member => bne_iff_ne.2 (plain c member)
  rw [betweenBraces, List.dropWhile_append_of_pos (List.all_eq_true.1 closed),
    List.dropWhile_cons_of_neg (by decide), List.tail_cons, List.takeWhile_append_of_pos inside,
    List.takeWhile_cons_of_neg (by decide), List.append_nil]

/-- The numbers between the braces of a table. -/
def tableNumbers (text : String) : List String :=
  (Text.splitAt ',' ((betweenBraces text.toList).filter (· != ' '))).map String.ofList

theorem filter_intercalate_comma
    {words : List (List Char)}
    (noSpace : ∀ word ∈ words, ' ' ∉ word) :
    ([',', ' '].intercalate words).filter (· != ' ') = [','].intercalate words := by
  have kept {word : List Char} (absent : ' ' ∉ word) : word.filter (· != ' ') = word :=
    List.filter_eq_self.2 fun c member => bne_iff_ne.2 fun same => absent (same ▸ member)
  induction words with
  | nil => rfl
  | cons word rest ih =>
      obtain ⟨first, later⟩ := List.forall_mem_cons.1 noSpace
      cases rest with
      | nil => simpa using kept first
      | cons next others =>
          have comma : [',', ' '].filter (· != ' ') = [','] := by decide
          rw [List.intercalate_cons_cons, List.filter_append, List.filter_append, kept first, comma,
            ih later, List.intercalate_cons_cons]

/-- The numbers of a table, in the order of the entries. -/
def neededTexts (entries : List Entry) : List String :=
  entries.map fun entry => toString entry.requiredProgress

theorem not_mem_of_mem_neededTexts
    {entries : List Entry}
    {c : Char}
    (foreign : Text.continuesIdentifier c = false) :
    ∀ text ∈ neededTexts entries, c ∉ text.toList := by
  intro text member inText
  obtain ⟨entry, _, rfl⟩ := List.mem_map.1 member
  have continues := Source.continuesIdentifier_of_mem_toString inText
  rw [foreign] at continues
  cases continues

/-- The table is closed by the first closing brace behind its numbers. -/
theorem betweenBraces_tableLine (entries : List Entry) :
    betweenBraces (tableLine entries).toList =
      ' ' :: ((", ".intercalate (neededTexts entries)).toList ++ [' ']) := by
  have noBrace : ¬ Text.Occurs '\x7d' (", ".intercalate (neededTexts entries)) := by
    rw [neededTexts, Text.occurs_intercalate (by unfold Text.Occurs; decide)]
    rintro ⟨entry, member, inNumber⟩
    exact not_mem_of_mem_neededTexts (by decide) _ (List.mem_map_of_mem member) inNumber
  -- The numbers are generalized: the joined text would be unfolded otherwise.
  have between (numbers : String) (plain : ¬ Text.Occurs '\x7d' numbers) :
      betweenBraces ("public static readonly int[] RequiredProgress = \x7b " ++ numbers ++
        " \x7d;").toList = ' ' :: (numbers.toList ++ [' ']) := by
    have spelled : ("public static readonly int[] RequiredProgress = \x7b " ++ numbers ++
        " \x7d;").toList = "public static readonly int[] RequiredProgress = ".toList ++
          '\x7b' :: ((' ' :: (numbers.toList ++ [' '])) ++ '\x7d' :: [';']) := by
      simp
    rw [spelled]
    refine betweenBraces_append (by decide) ?_ [';']
    rintro c member rfl
    simp only [List.mem_cons, List.mem_append, List.not_mem_nil, or_false] at member
    rcases member with space | inNumbers | space
    · exact absurd space (by decide)
    · exact plain inNumbers
    · exact absurd space (by decide)
  exact between _ noBrace

/-- A table of numbers is read back number by number. -/
theorem tableNumbers_tableLine
    {entries : List Entry}
    (nonempty : entries ≠ []) :
    tableNumbers (tableLine entries) = neededTexts entries := by
  have without {c : Char} (foreign : Text.continuesIdentifier c = false) :
      ∀ word ∈ (neededTexts entries).map String.toList, c ∉ word :=
    List.forall_mem_map.2 (not_mem_of_mem_neededTexts foreign)
  have noSpace := without (c := ' ') (by decide)
  have noComma := without (c := ',') (by decide)
  have comma : ", ".toList = [',', ' '] := rfl
  have back : [' '].filter (· != ' ') = [] := by decide
  have kept : (betweenBraces (tableLine entries).toList).filter (· != ' ') =
      [','].intercalate ((neededTexts entries).map String.toList) := by
    rw [betweenBraces_tableLine, List.filter_cons_of_neg (by decide), List.filter_append, back,
      List.append_nil, String.toList_intercalate, comma, filter_intercalate_comma noSpace]
  have someNumber : (neededTexts entries).map String.toList ≠ [] := by
    simpa [neededTexts] using nonempty
  rw [tableNumbers, kept, Text.splitAt_intercalate someNumber noComma, List.map_map]
  exact (List.map_congr_left fun _ _ => String.ofList_toList).trans (List.map_id _)

/-! ## Cases -/

/-- The characters behind the front of a statement decide whether it is a label. -/
theorem isLabel_append
    (depth : Nat)
    (front : String)
    {characters : List Char}
    (nonempty : characters ≠ []) :
    (Statement.mk depth (front ++ String.ofList characters)).isLabel =
      (depth == 0 && characters.getLast? == some ':') := by
  rw [Statement.isLabel, String.toList_append, String.toList_ofList,
    List.getLast?_append_of_ne_nil _ nonempty]

theorem unlabelled_caseOutline
    (position : Nat)
    (entry : Entry)
    (counter : String) :
    ∀ statement ∈ caseOutline position entry counter, statement.isLabel = false := by
  simp only [caseOutline, List.forall_mem_cons]
  refine ⟨?_, by decide, ?_, ?_, rfl, by decide, List.forall_mem_nil _⟩
  · exact (isLabel_append _ _ (by decide)).trans (by decide)
  · exact (isLabel_append _ _ (by decide)).trans (by decide)
  · exact (isLabel_append _ _ (by decide)).trans (by decide)

theorem isLabel_caseLabel (position : Nat) :
    (Statement.mk 0 (caseLabel position)).isLabel = true :=
  (isLabel_append _ _ (by decide)).trans (by decide)

theorem sections_default :
    sections (⟨0, "default:"⟩ :: defaultOutline) = [("default:", defaultOutline)] := by
  decide

/-- The cases of the method that records progress are those of the entries, one by one. -/
theorem sections_casesOutline (entries : List Entry) (counters : List String) :
    sections (casesOutline entries counters) =
      ((entries.zip counters).zipIdx.map fun numbered =>
        (caseLabel numbered.2, caseOutline numbered.2 numbered.1.1 numbered.1.2)) ++
          [("default:", defaultOutline)] := by
  rw [casesOutline]
  induction (entries.zip counters).zipIdx with
  | nil => exact sections_default
  | cons numbered rest ih =>
      have next : ∀ statement ∈ ((rest.flatMap fun numbered =>
          (⟨0, caseLabel numbered.2⟩ : Statement) ::
            caseOutline numbered.2 numbered.1.1 numbered.1.2) ++
              ⟨0, "default:"⟩ :: defaultOutline).head?, statement.isLabel = true := by
        cases rest with
        | nil =>
            intro statement first
            cases first
            decide
        | cons second others =>
            intro statement first
            cases first
            exact isLabel_caseLabel second.2
      rw [List.flatMap_cons, List.map_cons, List.cons_append, List.cons_append, List.append_assoc,
        Source.sections_cons_append (unlabelled_caseOutline _ _ _) (isLabel_caseLabel _) next, ih]
      rfl

/-! ## Counters -/

/-- The class declares the counter: as a field of its saved data, or as a place in its
array. -/
inductive IsCounter (className : String) (body : List Statement) (count : Nat) : String → Prop
  | saved
      {name : String}
      (data : headOf? (declares "_data") body =
        some ("private " ++ dataClassName className ++ " _data = new " ++
          dataClassName className ++ "();"))
      (field : headOf? (declares name) (blockOf (declares (dataClassName className)) body) =
        some ("public int " ++ name ++ ";")) :
      IsCounter className body count ("_data." ++ name)
  | place
      {index : Nat}
      (array : headOf? (declares "_progress") body =
        some "private readonly int[] _progress = new int[RequiredProgress.Length];")
      (within : index < count) :
      IsCounter className body count ("_progress[" ++ toString index ++ "]")

/-- The counters of a quest class, in the order of its entries. -/
def classCounters (quest : Blueprint.Quest) (className : String) : List String :=
  counters (resolveForClass quest className).entries
    (dataClass? quest className (resolveForClass quest className).entries)

section

variable (quest : Blueprint.Quest) (className : String)

theorem length_classCounters :
    (classCounters quest className).length = (resolveForClass quest className).entries.length := by
  unfold classCounters dataClass?
  split
  · simp [counters, dataClass]
  · simp [counters]

/-- No two entries count in one place. -/
theorem nodup_classCounters : (classCounters quest className).Nodup := by
  unfold classCounters dataClass?
  split
  · have names := (nodup_savedNames quest className (resolveForClass quest className).entries).1
    rw [List.map_append, List.nodup_append] at names
    have spelled : counters (resolveForClass quest className).entries
        (some (dataClass quest className (resolveForClass quest className).entries)) =
          ((dataClass quest className (resolveForClass quest className).entries).counters.map
            Source.Member.name).map fun name => "_data." ++ name := by
      rw [List.map_map]
      rfl
    rw [spelled]
    exact names.2.1.map fun first second same => (String.append_right_inj _).1 same
  · refine List.nodup_range.map fun first second same => Text.toString_injective ?_
    exact (String.append_right_inj _).1 ((String.append_left_inj _).1 same)

end

section

variable (quest : Blueprint.Quest) {className root : String} (form : HasIdentifierForm className)
  (rootLine : Text.IsOneLine root) (icon : Option String)

include form rootLine

theorem isCounter_of_mem_counters
    {data : DataClass}
    (saves : dataClass? quest className (resolveForClass quest className).entries = some data)
    {declared : Source.Member}
    (isCounter : declared ∈ data.counters) :
    IsCounter className (classBody (classFile quest className root icon).source)
      (resolveForClass quest className).entries.length ("_data." ++ declared.name) := by
  have named : WellNamed (resolveForClass quest className).entries :=
    wellNamed_entries quest.objectives (memberScope className)
  have prints := printsData_of_saves form named saves
  have shown := outlines_savedData quest form rootLine icon saves
  obtain ⟨name_eq, members, distinct⟩ := declared_of_dataClass? quest form named saves
  obtain ⟨name, nameForm, rfl⟩ := prints.counters declared isCounter
  obtain ⟨_, savedData⟩ := exists_printsMember_savedData prints.name
  obtain ⟨_, counter⟩ := exists_printsMember_counter nameForm
  have stored := headOf?_classBody quest form rootLine icon
    (mem_memberGroups_of_mem_storageGroups quest icon
      (by rw [saves]; exact List.mem_append_right _ (List.mem_cons_of_mem _ List.mem_cons_self)))
    savedData.toWrites
  have field := Source.headOf?_declares members distinct (List.mem_append_right _ isCounter)
    counter.toWrites shown
  rw [name_eq] at stored field
  exact .saved stored field

/-- Every counter is declared in the class or in its saved data. -/
theorem isCounter_of_mem_classCounters :
    ∀ counter ∈ classCounters quest className,
      IsCounter className (classBody (classFile quest className root icon).source)
        (resolveForClass quest className).entries.length counter := by
  intro counter member
  unfold classCounters at member
  cases saves : dataClass? quest className (resolveForClass quest className).entries with
  | some data =>
      rw [saves] at member
      obtain ⟨declared, isCounter, rfl⟩ := List.mem_map.1 member
      exact isCounter_of_mem_counters quest form rootLine icon saves isCounter
  | none =>
      rw [saves] at member
      obtain ⟨index, inRange, rfl⟩ := List.mem_map.1 member
      have stores : progressArray ∈ (storageGroups (resolveForClass quest className).entries
          (dataClass? quest className (resolveForClass quest className).entries)).flatten := by
        rw [saves, storageGroups, List.flatten_singleton]
        exact List.mem_append_right _ List.mem_cons_self
      have array := headOf?_classBody quest form rootLine icon
        (mem_memberGroups_of_mem_storageGroups quest icon stores)
        printsMember_progressArray.toWrites
      exact .place array (List.mem_range.1 inRange)

end

/-! ## Alignment -/

/-- The block of a method of the class in a source. -/
def methodBlock (name source : String) : List Statement :=
  blockOf (declares name) (classBody source)

/-- All tables in the source of a quest class are in the order of the entries. -/
structure TablesAlign (quest : Blueprint.Quest) (className root : String)
    (icon : Option String) : Prop where
  nonempty : (resolveForClass quest className).entries ≠ []
  /-- Creation assigns the variables in this order. -/
  created :
    addedEntries (methodBlock "OnCreated" (classFile quest className root icon).source) =
      (resolveForClass quest className).entries.map fun entry => (entry.variableName, entry.title)
  /-- Rebuilding assigns them in the same order, with the same titles. -/
  loaded :
    addedEntries (methodBlock "OnLoaded" (classFile quest className root icon).source) =
      (resolveForClass quest className).entries.map fun entry => (entry.variableName, entry.title)
  /-- Each variable is bound to the restored entry at its position. -/
  bound :
    methodBlock "BindExistingEntries" (classFile quest className root icon).source =
      (resolveForClass quest className).entries.zipIdx.map fun numbered =>
        ⟨0, boundText numbered.1.variableName numbered.2⟩
  /-- The table holds one number for each entry. -/
  progress :
    (headOf? (declares "RequiredProgress")
        (classBody (classFile quest className root icon).source)).map tableNumbers =
      some ((neededProgress quest).map fun needed => toString needed)
  progressCount :
    (neededProgress quest).length = (resolveForClass quest className).entries.length
  /-- The case at a position uses the variable, the number and the counter at this position. -/
  cases :
    sections (blockOf (· == "switch (index)")
        (methodBlock "AdvanceObjective" (classFile quest className root icon).source)) =
      (((resolveForClass quest className).entries.zip (classCounters quest className)).zipIdx.map
          fun numbered =>
            (caseLabel numbered.2, caseOutline numbered.2 numbered.1.1 numbered.1.2)) ++
        [("default:", defaultOutline)]
  counterCount :
    (classCounters quest className).length = (resolveForClass quest className).entries.length
  countersApart : (classCounters quest className).Nodup
  counters :
    ∀ counter ∈ classCounters quest className,
      IsCounter className (classBody (classFile quest className root icon).source)
        (resolveForClass quest className).entries.length counter

theorem entries_ne_nil (objectives : List Blueprint.Objective) (used : Source.NameSet) :
    (entries objectives used).1 ≠ [] := by
  by_cases empty : objectives = []
  · rw [empty, entries_nil]
    exact List.cons_ne_nil _ _
  · intro none
    have lengths := (standsFor_entries empty used).length_eq
    rw [none, List.length_zipIdx] at lengths
    exact empty (List.length_eq_zero_iff.1 lengths)

/-- Entries need the progress of their objectives, and a placeholder needs one step. -/
theorem map_requiredProgress_entries (quest : Blueprint.Quest) (used : Source.NameSet) :
    (entries quest.objectives used).1.map Entry.requiredProgress = neededProgress quest := by
  unfold entries neededProgress
  split
  · rfl
  · exact map_entriesFrom (fun _ _ _ => Nat.max_comm _ _) 0 quest.objectives used

/-- Creation, rebuilding, binding, required progress and counters of a quest class all follow
the order of its entries. -/
theorem tables_of_quest_class_align
    (quest : Blueprint.Quest)
    {className root : String}
    (form : HasIdentifierForm className)
    (rootLine : Text.IsOneLine root)
    (icon : Option String) :
    TablesAlign quest className root icon := by
  have named : WellNamed (resolveForClass quest className).entries :=
    wellNamed_entries quest.objectives (memberScope className)
  have nonempty : (resolveForClass quest className).entries ≠ [] :=
    entries_ne_nil quest.objectives (memberScope className)
  have needed : (resolveForClass quest className).entries.map Entry.requiredProgress =
      neededProgress quest := map_requiredProgress_entries quest (memberScope className)
  have count : ∀ counter ∈ classCounters quest className,
      Source.Begins counter counter [] ⟨.code, []⟩ :=
    begins_of_mem_counters fun _ saves => printsData_of_saves form named saves
  obtain ⟨_, binds⟩ := printsMember_bindEntries named
  obtain ⟨_, advances⟩ := exists_printsMember_advanceObjective named count
  have createdBlock := blockOf_classBody quest form rootLine icon (by simp [memberGroups])
    (printsMember_created named).toWrites
  have loadedBlock := blockOf_classBody quest form rootLine icon (by simp [memberGroups])
    (printsMember_loaded named).toWrites
  have boundBlock := blockOf_classBody quest form rootLine icon (by simp [memberGroups])
    binds.toWrites
  have table := headOf?_classBody quest form rootLine icon (by simp [memberGroups])
    (printsMember_progressTable (resolveForClass quest className).entries).toWrites
  have advanceBlock := blockOf_classBody quest form rootLine icon
    (by simp [memberGroups, classCounters]) advances.toWrites
  have switched : blockOf (· == "switch (index)")
      (methodBlock "AdvanceObjective" (classFile quest className root icon).source) =
        casesOutline (resolveForClass quest className).entries (classCounters quest className) := by
    have behind := Source.blockOf_append_cons (List.forall_mem_nil _)
      (beq_self_eq_true "switch (index)")
      (casesOutline (resolveForClass quest className).entries (classCounters quest className))
      Source.beginsFlush_nil
    rw [List.append_nil] at behind
    exact (congrArg (blockOf _) advanceBlock).trans behind
  refine ⟨nonempty, ?_, ?_, ?_, ?_, ?_, ?_, length_classCounters quest className,
    nodup_classCounters quest className, isCounter_of_mem_classCounters quest form rootLine icon⟩
  · exact (congrArg addedEntries createdBlock).trans (addedEntries_createdOutline named)
  · exact (congrArg addedEntries loadedBlock).trans (addedEntries_loadedOutline named)
  · exact boundBlock.trans (bindOutline_entries quest.objectives (memberScope className))
  · refine (congrArg (Option.map tableNumbers) table).trans (congrArg some ?_)
    rw [tableNumbers_tableLine nonempty, ← needed, List.map_map]
    rfl
  · rw [← needed, List.length_map]
  · rw [switched, sections_casesOutline]

/-- A quest with one objective that needs nothing and one that needs three steps. -/
def harvestQuest : Blueprint.Quest where
  className := "Harvest"
  questId := "harvest"
  title := "Harvest"
  generateDataClass := true
  objectives := [{ title := "Say \"hello\" = AddEntry(", name := "hello", requiredProgress := 0 },
    { title := "Pick apples", name := "apples", requiredProgress := 3 }]
  dataFields := [{ name := "applesProgress", kind := .int }]

/-- The tables of the class align also where a title looks like code. -/
theorem harvestQuest_tables_align :
    HasIdentifierForm "Harvest" ∧ Text.IsOneLine "Farm" ∧
      neededProgress harvestQuest = [1, 3] ∧
      classCounters harvestQuest "Harvest" = ["_data.helloProgress", "_data.applesProgress_1"] ∧
      TablesAlign harvestQuest "Harvest" "Farm" none := by
  have form : HasIdentifierForm "Harvest" := Source.hasIdentifierForm_ofList (by decide)
  have rootLine : Text.IsOneLine "Farm" := Source.isOneLine_ofList (by decide)
  exact ⟨form, rootLine, by decide, by decide +kernel,
    tables_of_quest_class_align harvestQuest form rootLine none⟩

end Quest
end QuestMod
