import QuestMod.Build.Constants
import QuestMod.Build.EntryPoint
import QuestMod.Proofs.Source.ClassFile

/-!
# Project-level source files are neat

The file of constants and the entry point are sequences of token trees when the root is
a dotted name and every class has an identifier as its name in a dotted namespace.
-/

namespace QuestMod
namespace Build

open Source (HasIdentifierForm IsCode IsDottedName IsWord Neat Step)
open Source (isCode_ofList isWord_ofList)

/-- The class has an identifier as its name and lies in a dotted namespace. -/
structure ClassEntry.IsWellFormed (ref : ClassEntry) : Prop where
  className : HasIdentifierForm ref.className
  space : IsDottedName ref.space

/-! ## Constants -/

/-- A constant is neat, whatever its value is. -/
theorem neat_constantLine
    {name value : String}
    (word : IsWord name)
    {steps : List Step}
    (neat : Neat steps) :
    Neat (constantLine name value :: steps) := by
  refine .line (fun closers => ?_) neat
  simp (disch := decide) [word.isCode]

theorem neat_idTable
    {name : String}
    (word : IsWord name)
    (refs : List ClassEntry)
    {steps : List Step}
    (neat : Neat steps) :
    Neat (idTable name refs :: steps) := by
  refine .line (fun closers => ?_) neat
  simp (disch := decide) [word.isCode]

/-- The file of constants is neat. -/
theorem neat_constantsSteps
    {input : Input}
    (dotted : IsDottedName input.root) :
    Neat (constantsSteps input) := by
  have named : IsCode ("namespace " ++ input.root) :=
    ((isWord_ofList (by decide)).append dotted.isWord).isCode
  refine (Source.Neat.ofRemarks (Source.areRemarks_headerComment (by decide))).append
    (.blank (.block named ?_))
  refine .block (isCode_ofList (by decide)) ?_
  refine neat_constantLine (isWord_ofList (by decide)) ?_
  refine neat_constantLine (isWord_ofList (by decide)) ?_
  refine neat_constantLine (isWord_ofList (by decide)) ?_
  refine neat_constantLine (isWord_ofList (by decide)) ?_
  refine neat_constantLine (isWord_ofList (by decide)) (.blank ?_)
  refine neat_idTable (isWord_ofList (by decide)) input.quests ?_
  exact neat_idTable (isWord_ofList (by decide)) input.npcs .nil

/-! ## The entry point -/

/-- The namespaces of the entry point are words. -/
theorem isWord_of_mem_entryPointUsings (input : Input) :
    ∀ name ∈ entryPointUsings input, IsWord name := by
  rw [entryPointUsings, List.forall_mem_cons]
  refine ⟨isWord_ofList (by decide), ?_⟩
  split
  · exact List.forall_mem_nil _
  · exact List.forall_mem_singleton.2 (isWord_ofList (by decide))

theorem neat_modAttributes
    {root : String}
    (dotted : IsDottedName root) :
    Neat (modAttributes root) := by
  have code := dotted.isWord.isCode
  refine .line (fun closers => ?_) (.line (fun closers => ?_) .nil)
  · simp (disch := decide) [code]
  · simp (disch := decide) [code]

/-- The full name of a well-formed class is code. -/
theorem ClassEntry.IsWellFormed.isCode_fullName
    {ref : ClassEntry}
    (wellFormed : ref.IsWellFormed) :
    IsCode ref.fullName := by
  intro closers
  simp (disch := decide) [fullName, wellFormed.className.isWord.isCode,
    wellFormed.space.isWord.isCode]

/-- The registration of one quest is neat. -/
theorem neat_registrationSteps
    (number : Nat)
    {quest : ClassEntry}
    (wellFormed : quest.IsWellFormed) :
    Neat (registrationSteps number quest) := by
  have type := wellFormed.isCode_fullName
  refine (Neat.append (.comment (.line (fun closers => ?_) .nil))
    (.block (fun closers => ?_) (.line (fun closers => ?_) .nil))).append ?_
  · simp (disch := decide) [type]
  · simp (disch := decide)
  · simp (disch := decide) [type]
  · split
    · exact .comment .nil
    · exact .nil

/-- The lines that register quests are neat. -/
theorem neat_registrations
    {quests : List ClassEntry}
    (wellFormed : ∀ quest ∈ quests, quest.IsWellFormed) :
    Neat (registrations quests) := by
  unfold registrations
  split
  · exact .comment .nil
  · refine .flatMap fun (quest, index) member => .append ?_ ?_
    · split
      · exact .nil
      · exact .blank .nil
    · exact neat_registrationSteps (index + 1)
        (wellFormed quest (List.fst_mem_of_mem_zipIdx member))

theorem neat_npcComments (npcs : List ClassEntry) : Neat (npcs.map npcComment) := by
  induction npcs with
  | nil => exact .nil
  | cons npc rest ih => exact .comment ih

/-- The entry point is neat. -/
theorem neat_entryPointSteps
    {input : Input}
    (dotted : IsDottedName input.root)
    (wellFormed : ∀ quest ∈ input.quests, quest.IsWellFormed) :
    Neat (entryPointSteps input) := by
  have named : IsCode ("namespace " ++ input.root) :=
    ((isWord_ofList (by decide)).append dotted.isWord).isCode
  have initialized : Neat (Source.block "public override void OnInitializeMelon()"
      [.line ("MelonLogger.Msg(Constants.ModName + \" \" + Constants.ModVersion + " ++
        "\" loaded\");")]) := by
    refine .block (isCode_ofList (by decide)) (.line (fun closers => ?_) .nil)
    simp (disch := decide)
  have loaded : Neat (Source.block
      "public override void OnSceneWasInitialized(int buildIndex, string sceneName)"
      (Source.block "if (sceneName != \"Main\" || _registered)" [.line "return;"] ++
        [.line "_registered = true;", .line "RegisterQuests();"])) := by
    refine .block (isCode_ofList (by decide)) (.append ?_ ?_)
    · refine .block (isCode_ofList (by decide)) ?_
      exact .line (isCode_ofList (by decide)) .nil
    · exact .line (isCode_ofList (by decide)) (.line (isCode_ofList (by decide)) .nil)
  have registering : Neat (Source.block "private static void RegisterQuests()"
      (registrations input.quests ++ input.npcs.map npcComment)) :=
    .block (isCode_ofList (by decide)) <|
      (neat_registrations wellFormed).append (neat_npcComments input.npcs)
  have fields : Neat [.line "private bool _registered;", .blank] :=
    .line (isCode_ofList (by decide)) (.blank .nil)
  have header : Neat (Source.headerComment "" ++ Source.usingSteps (entryPointUsings input)) :=
    (Source.Neat.ofRemarks (Source.areRemarks_headerComment (by decide))).append
      (Source.neat_usingSteps (isWord_of_mem_entryPointUsings input))
  refine (header.append (.blank (neat_modAttributes dotted))).append (.blank ?_)
  refine .block named (.block (isCode_ofList (by decide)) ?_)
  exact ((fields.append initialized).append (.blank loaded)).append (.blank registering)

end Build
end QuestMod
