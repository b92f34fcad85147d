import QuestMod.Npc.Class
import QuestMod.Proofs.Source.Printing

/-!
# Class files of characters

Each line of a character's class is read once. Every text of a character stands in a literal or
in a comment, and its region is made an identifier. So the class file is a sequence of token
trees whatever the blueprint holds, it shows the line ends of the character's texts that have no
escape, and a reader finds in it one identifier, the declared one.
-/

namespace QuestMod
namespace Npc

open Source (Begins HasIdentifierForm IsDottedName IsLine LineMark Neat PrintMembers Prints
  PrintsMember Shows Spells declaredIn? declaredName? declaredName?_fixed declaredName?_ofList
  declaredName?_of_toList_eq)
open Text (Occurs Passes lineBreaks)

variable (npc : Blueprint.Npc) {className : String}

/-! ## Identity -/

/-- A constant is known by the fixed text in front of its value. -/
theorem exists_printsMember_constantMember
    {value lineCode : String}
    {front name : List Char}
    {ids : List (LineMark × String)}
    (spelled : "public const string " ++ String.ofList name ++ " = " = String.ofList front)
    (named : declaredIn? front = some name)
    (ended : front.any Source.endsName = true)
    (line : IsLine (String.ofList front ++ Text.stringLiteral value ++ ";") lineCode [value] ids) :
    ∃ code declaration,
      PrintsMember (constantMember (String.ofList name) value) code declaration [value] ids := by
  rw [constantMember, spelled]
  exact ⟨_, _, .onLine line (declaredName?_fixed named ended _ _)⟩

/-- The constant with the identifier states it. -/
theorem isLine_npcId :
    IsLine ("public const string NpcId = " ++ Text.stringLiteral npc.npcId ++ ";")
      ("public const string NpcId = " ++ "\"\"" ++ ";") [npc.npcId] [(.npcConstant, npc.npcId)] :=
  .stating (.fixed (by rfl) (by decide)) (.fixed (by decide)) (by decide) _
    (.fixed (by rfl) (by decide)) (by decide)

theorem isLine_firstName :
    IsLine ("public const string NpcFirstName = " ++ Text.stringLiteral npc.firstName ++ ";")
      ("public const string NpcFirstName = " ++ "\"\"" ++ ";") [npc.firstName] [] :=
  .markless (.fixed (by rfl) (by decide)) (.fixed (by decide)) (by decide) _
    (.fixed (by rfl) (by decide)) (by decide)

theorem isLine_lastName :
    IsLine ("public const string NpcLastName = " ++ Text.stringLiteral npc.lastName ++ ";")
      ("public const string NpcLastName = " ++ "\"\"" ++ ";") [npc.lastName] [] :=
  .markless (.fixed (by rfl) (by decide)) (.fixed (by decide)) (by decide) _
    (.fixed (by rfl) (by decide)) (by decide)

/-- Of the constants that identify a character, one states something. -/
theorem printMembers_identityMembers :
    PrintMembers (identityMembers npc) [npc.npcId, npc.firstName, npc.lastName]
      [(.npcConstant, npc.npcId)] := by
  obtain ⟨_, _, id⟩ : ∃ code declaration, PrintsMember (constantMember "NpcId" npc.npcId) code
      declaration [npc.npcId] [(.npcConstant, npc.npcId)] :=
    exists_printsMember_constantMember (by decide) (by decide) (by decide) (isLine_npcId npc)
  obtain ⟨_, _, firstName⟩ : ∃ code declaration, PrintsMember
      (constantMember "NpcFirstName" npc.firstName) code declaration [npc.firstName] [] :=
    exists_printsMember_constantMember (by decide) (by decide) (by decide) (isLine_firstName npc)
  obtain ⟨_, _, lastName⟩ : ∃ code declaration, PrintsMember
      (constantMember "NpcLastName" npc.lastName) code declaration [npc.lastName] [] :=
    exists_printsMember_constantMember (by decide) (by decide) (by decide) (isLine_lastName npc)
  exact .cons id (.cons firstName (.single lastName))

/-! ## Greetings -/

/-- The table of greetings shows each of them. -/
theorem exists_printsMember_greetingTable :
    ∃ code declaration, PrintsMember (greetingTable npc) code declaration npc.greetings [] := by
  have front : Begins "private static readonly string[] Greetings = \x7b " _ _
      ⟨.code, ['\x7d']⟩ :=
    .fixed (by rfl) (by decide)
  have listed : Spells ⟨.code, ['\x7d']⟩ (Source.literalList npc.greetings) _
      (npc.greetings.flatMap fun text => [text]) ⟨.code, ['\x7d']⟩ :=
    .commaList fun text _ => .literal text
  have line : IsLine ("private static readonly string[] Greetings = \x7b " ++
      Source.literalList npc.greetings ++ " \x7d;") _ _ [] :=
    ((front.append listed).append (.fixed (by rfl) (by decide))).isLine
  rw [List.nil_append, List.append_nil, List.flatMap_singleton'] at line
  exact ⟨_, _, .onLine line (declaredName?_fixed (by decide) (by decide) _ _)⟩

theorem exists_printsMember_randomGreeting :
    ∃ code declaration, PrintsMember randomGreeting code declaration [] [] := by
  have empty : Prints (Source.block "if (Greetings.Length == 0)" [.line "return string.Empty;"])
      _ _ [] [] :=
    .block (.fixed (by decide)) (.ofLine (.fixed (by decide)))
  exact ⟨_, _, .withBody (.fixed (by decide)) (declaredName?_ofList (by decide))
    (empty.append (.ofLine (.fixed (by decide))))⟩

/-! ## Setting up -/

/-- A line that is left out prints nothing. -/
theorem exists_prints_lineIf
    (condition : Bool)
    {text code : String}
    (line : IsLine text code [] []) :
    ∃ code statements, Prints (lineIf condition text) code statements [] [] := by
  cases condition with
  | false => exact ⟨_, _, .nil⟩
  | true => exact ⟨_, _, .ofLine line⟩

/-- The prefab is described by names and numbers. -/
theorem exists_printsMember_configurePrefab :
    ∃ code declaration, PrintsMember (configurePrefab npc) code declaration [] [] := by
  have spawns (spawn : Blueprint.Location) :
      IsLine ("builder.WithSpawnPosition(" ++ Source.vectorLiteral spawn ++ ");") _ [] [] :=
    (((Begins.fixed (by rfl) (by decide)).append (.vector spawn)).append
      (.fixed (by rfl) (by decide))).isLine
  have regions (region : String) : IsLine ("builder.WithRegion(Region." ++
      Source.usableIdentifier region "Northtown" ++ ");") _ [] [] :=
    (((Begins.fixed (by rfl) (by decide)).append
      (.name (Source.hasIdentifierForm_usableIdentifier region (by decide)))).append
        (.fixed (by rfl) (by decide))).isLine
  have identity : Prints [.line "builder.WithIdentity(NpcId, NpcFirstName, NpcLastName);"] _ _
      [] [] :=
    .ofLine (.fixed (by decide))
  have spawned : Prints (npc.spawn.toList.map fun spawn => .line
      ("builder.WithSpawnPosition(" ++ Source.vectorLiteral spawn ++ ");")) _ _ [] [] :=
    .mapLine fun spawn _ => spawns spawn
  have located : Prints (npc.region.toList.map fun region => .line
      ("builder.WithRegion(Region." ++ Source.usableIdentifier region "Northtown" ++ ");")) _ _
      [] [] :=
    .mapLine fun region _ => regions region
  obtain ⟨_, _, customer⟩ := exists_prints_lineIf npc.isCustomer
    (.fixed (by decide) : IsLine "builder.EnsureCustomer();" _ [] [])
  obtain ⟨_, _, dealer⟩ := exists_prints_lineIf npc.isDealer
    (.fixed (by decide) : IsLine "builder.EnsureDealer();" _ [] [])
  exact ⟨_, _, .withBody (.fixed (by decide)) (declaredName?_ofList (by decide))
    ((((identity.append spawned).append located).append customer).append dealer)⟩

theorem exists_printsMember_created :
    ∃ code declaration, PrintsMember (created npc) code declaration [] [] := by
  have base : Prints [.line "base.OnCreated();"] _ _ [] [] := .ofLine (.fixed (by decide))
  have reports : IsLine "MelonLogger.Msg(\"NPC ready: \" + NpcId);" _ [] [] :=
    (Begins.front (.quoted (by rfl) (by rfl) (by decide)) (by decide)).isLine
  obtain ⟨_, _, unlocked⟩ := exists_prints_lineIf npc.unlockedByDefault
    (.fixed (by decide) : IsLine
      "Relationship.Unlock(NPCRelationship.UnlockType.DirectApproach, false);" _ [] [])
  exact ⟨_, _, .withBody (.fixed (by decide)) (declaredName?_ofList (by decide))
    ((base.append unlocked).append (.ofLine reports))⟩

/-- The method that finds the character names its class. -/
theorem exists_printsMember_find (form : HasIdentifierForm className) :
    ∃ code declaration, PrintsMember (find className) code declaration [] [] := by
  have line : IsLine ("public static " ++ className ++ "? Find() => NPC.All.OfType<" ++ className ++
      ">().FirstOrDefault();") _ [] [] :=
    (((((Begins.fixed (by rfl) (by decide)).append (.name form)).append
      (.fixed (by rfl) (by decide))).append (.name form)).append
        (.fixed (by rfl) (by decide))).isLine
  have findForm : HasIdentifierForm "Find" := Source.hasIdentifierForm_ofList (by decide)
  have named : declaredName? ("public static " ++ className ++ "? Find() => NPC.All.OfType<" ++
      className ++ ">().FirstOrDefault();") = some "Find" :=
    declaredName?_of_toList_eq findForm ("public static ".toList ++ className.toList ++ ['?'])
      ('(' :: (") => NPC.All.OfType<".toList ++ className.toList ++ ">().FirstOrDefault();".toList))
      (by simp) (by rw [List.all_append, List.all_append, Source.all_not_endsName form]; rfl)
      (by simp) rfl
  exact ⟨_, ⟨[], _, []⟩, {
    toPrints := .remark (Source.isRemark_ofList (by decide)) (Source.isOneLine_ofList (by decide))
      (.ofLine line)
    named := named
    silent := List.forall_mem_nil _ }⟩

/-! ## All members -/

/-- The texts of a character that stand in literals or comments of its class. -/
def shownTexts : List String :=
  [npc.npcId, npc.firstName, npc.lastName] ++ npc.greetings

/-- The members of a character's class show its texts, and state its identifier. -/
theorem printMembers_memberGroups (form : HasIdentifierForm className) :
    PrintMembers (memberGroups npc className).flatten (shownTexts npc)
      [(.npcConstant, npc.npcId)] := by
  obtain ⟨_, _, greetings⟩ := exists_printsMember_greetingTable npc
  obtain ⟨_, _, prefab⟩ := exists_printsMember_configurePrefab npc
  obtain ⟨_, _, sets⟩ := exists_printsMember_created npc
  obtain ⟨_, _, greets⟩ := exists_printsMember_randomGreeting
  obtain ⟨_, _, finds⟩ := exists_printsMember_find form
  have methods := PrintMembers.cons prefab (.cons sets (.cons greets (.single finds)))
  have whole := (printMembers_identityMembers npc).append (.cons greetings methods)
  simp only [List.append_nil] at whole
  exact whole

/-! ## Files -/

/-- The namespaces that a character's class uses are dotted names. -/
theorem isDottedName_of_mem_usings : ∀ name ∈ usings npc, IsDottedName name := by
  unfold usings
  cases npc.region.isSome <;> decide

/-- The class of a character is declared under its name. -/
theorem isLine_declaration (form : HasIdentifierForm className) :
    IsLine ("public class " ++ className ++ " : NPC") ("public class " ++ className ++ " : NPC")
      [] [] := by
  have front : Begins "public class " _ _ _ := .fixed (by rfl) (by decide)
  exact ((front.append (.name form)).append (.fixed (by rfl) (by decide))).isLine

/-- A character's namespace is a dotted name below a dotted root. -/
theorem isDottedName_classSpace
    {root : String}
    (dotted : IsDottedName root) :
    IsDottedName (classSpace npc root) :=
  (Source.isDottedName_usableNamespace npc.space dotted).below (by decide)

/-- The display name consists of texts that the class shows anyway. -/
theorem passes_displayName
    {c : Char}
    (isBreak : c ∈ lineBreaks)
    (passes : Passes c (displayName npc)) :
    Passes c npc.firstName ∨ Passes c npc.lastName := by
  obtain ⟨unicode, occurs⟩ := passes
  have occursUntrimmed : Occurs c (npc.firstName ++ " " ++ npc.lastName) :=
    Text.mem_of_mem_trim occurs
  simp (disch := decide) only [Text.occurs_append, Text.not_occurs_fixed isBreak, or_false]
    at occursUntrimmed
  exact occursUntrimmed.imp (And.intro unicode) (And.intro unicode)

section

variable {root : String} (form : HasIdentifierForm className) (dotted : IsDottedName root)

include form dotted

/-- The class file of a character is neat. -/
theorem neat_fileSteps : Neat (fileSteps npc className root) :=
  (printMembers_memberGroups npc form).neat_classSteps (isLine_declaration form) _ _ _
    (Source.isOneLine_ofList (by decide)) (isDottedName_of_mem_usings npc)
    (isDottedName_classSpace npc dotted)

/-- A character's class file shows the line ends in its texts that have no escape. -/
theorem shows_fileSteps
    {c : Char}
    (isBreak : c ∈ lineBreaks) :
    Shows c (fileSteps npc className root) ↔ ∃ text ∈ shownTexts npc, Passes c text := by
  have inTexts : Passes c npc.npcId ∨ Passes c (displayName npc) →
      ∃ text ∈ shownTexts npc, Passes c text := by
    rintro (id | name)
    · exact ⟨npc.npcId, by simp [shownTexts], id⟩
    · rcases passes_displayName npc isBreak name with first | last
      · exact ⟨npc.firstName, by simp [shownTexts], first⟩
      · exact ⟨npc.lastName, by simp [shownTexts], last⟩
  have noLines : Text.lines "" = [] := by decide
  rw [fileSteps, (printMembers_memberGroups npc form).shows_classSteps (isLine_declaration form)
    _ _ _ isBreak (Source.isOneLine_ofList (by decide)) (isDottedName_of_mem_usings npc)
    (isDottedName_classSpace npc dotted).isOneLine, noLines]
  constructor
  · rintro (id | (name | ⟨line, member, _⟩) | texts)
    · exact inTexts (.inl id)
    · exact inTexts (.inr name)
    · cases member
    · exact texts
  · exact fun texts => .inr (.inr texts)

/-- The source of a character's class holds the declared identifier as the only value of its
identifying constant. -/
theorem values_npcConstant :
    LineMark.npcConstant.values (classFile npc className root).source = [npc.npcId] := by
  have noLineFeed : ¬ Shows '\n' (fileSteps npc className root) := by
    rw [shows_fileSteps npc form dotted (by decide)]
    rintro ⟨text, _, unicode, _⟩
    exact absurd unicode (by decide)
  exact (printMembers_memberGroups npc form).values_classSteps (isLine_declaration form) _ _ _
    (by decide) noLineFeed

end

end Npc
end QuestMod
