import QuestMod.Build.Descriptor
import QuestMod.Proofs.Text.Markup

/-!
# Tags of the build descriptor

Line by line, the tags of a build descriptor are known whatever texts it is made from: user
text stands in elements and attribute values only, and no tag begins or ends in it.
-/

namespace QuestMod
namespace Build

open Text (Cuts IsInert IsUnmarked Tag isInert_markup tagsOf)

/-! ## Lines of a document -/

/-- Each line behind the first one brings the line end in front of it. -/
theorem joinLines_cons (first : String) (rest : List String) :
    joinLines (first :: rest) =
      first ++ (String.join (rest.map fun line => "\n" ++ line) ++ "\n") := by
  have joined : ∀ lines : List String, "\n" ++ joinLines lines =
      String.join (lines.map fun line => "\n" ++ line) ++ "\n" := by
    intro lines
    induction lines with
    | nil => rfl
    | cons line others ih =>
        rw [joinLines, List.map_cons, String.join_cons, String.append_assoc, ← joinLines, ih,
          List.map_cons, String.join_cons, String.append_assoc, String.append_assoc]
  rw [joinLines, List.map_cons, String.join_cons, ← joinLines, String.append_assoc, joined]

/-- Whatever follows the lines, the given tags are cut off them. -/
def LinesCut (lines : List String) (tags : List Tag) : Prop :=
  Cuts (String.join (lines.map fun line => "\n" ++ line)) tags

namespace LinesCut

variable {lines others : List String} {tags otherTags : List Tag}

theorem nil : LinesCut [] [] :=
  Cuts.nil

/-- Lines one behind the other have the tags one behind the other. -/
theorem append
    (linesCut : LinesCut lines tags)
    (othersCut : LinesCut others otherTags) :
    LinesCut (lines ++ others) (tags ++ otherTags) := by
  rw [LinesCut, List.map_append, String.join_append]
  exact Cuts.append linesCut othersCut

/-- One line has the tags that are cut out of it. -/
theorem single
    {line : String}
    (cuts : Cuts ("\n" ++ line) tags) :
    LinesCut [line] tags := by
  rw [LinesCut, List.map_singleton, String.join_cons, String.join_nil, String.append_empty]
  exact cuts

theorem flatMap
    {α : Type}
    {linesOf : α → List String}
    {tagsFor : α → List Tag}
    (items : List α)
    (cut : ∀ item ∈ items, LinesCut (linesOf item) (tagsFor item)) :
    LinesCut (items.flatMap linesOf) (items.flatMap tagsFor) :=
  Text.related_flatMap nil append cut

end LinesCut

/-! ## Tags of the descriptor -/

/-- The tags of a property. -/
def Property.tags (property : Property) : List Tag :=
  [⟨"\n    ", property.name⟩, ⟨Text.markup property.value, "/" ++ property.name⟩]

/-- The tags of a reference. -/
def referenceTags (reference : String × String) : List Tag :=
  [⟨"\n    ", "Reference Include=\"" ++ reference.1 ++ "\""⟩,
    ⟨"\n      ", "HintPath"⟩, ⟨reference.2, "/HintPath"⟩,
    ⟨"\n      ", "Private"⟩, ⟨"False", "/Private"⟩,
    ⟨"\n    ", "/Reference"⟩]

/-- The tag of an embedded resource. -/
def Embedding.tag (resource : Embedding) : Tag :=
  ⟨"\n    ", "EmbeddedResource Include=\"" ++ Text.markup resource.includePath ++
    "\" LogicalName=\"" ++ Text.markup resource.logicalName ++ "\" /"⟩

/-- The tags of an item group. -/
def groupTags (tags : List Tag) : List Tag :=
  ⟨"\n\n  ", "ItemGroup"⟩ :: tags ++ [⟨"\n  ", "/ItemGroup"⟩]

/-- The tag of the comment on a custom directory of reference assemblies. -/
def customReferenceTags (settings : Settings) : List Tag :=
  if settings.customReferences.isSome then
    [⟨"\n  ", "!-- Reference assemblies come from a custom path. --"⟩]
  else []

/-- The tags of the embedded resources. -/
def resourceTags (resources : List Embedding) : List Tag :=
  if resources.isEmpty then [] else groupTags (resources.map Embedding.tag)

/-- The tags of the build descriptor. -/
def descriptorTags (input : Input) : List Tag :=
  ⟨"", "Project Sdk=\"Microsoft.NET.Sdk\""⟩ ::
    ([⟨"\n  ", "!-- Generated by questforge " ++ Source.generatorVersion ++ ". --"⟩,
      ⟨"\n  ", "PropertyGroup"⟩] ++ (properties input).flatMap Property.tags ++
      [⟨"\n  ", "/PropertyGroup"⟩] ++ customReferenceTags input.settings ++
      groupTags (references.flatMap referenceTags) ++ resourceTags input.resources ++
      [⟨"\n", "/Project"⟩])

theorem isInert_indentation : IsInert "\n    ".toList :=
  IsUnmarked.isInert (by decide)

theorem isInert_deepIndentation : IsInert "\n      ".toList :=
  IsUnmarked.isInert (by decide)

theorem isInert_notCopied : IsInert "False".toList :=
  IsUnmarked.isInert (by decide)

/-- The line of a property has an opening and a closing tag. -/
theorem linesCut_property
    {property : Property}
    (named : IsInert property.name.toList) :
    LinesCut [property.line] property.tags := by
  have valued := isInert_markup property.value
  unfold Property.line Property.tags
  generalize Text.markup property.value = written at *
  exact .single (.pair (by simp [String.toList_append]) isInert_indentation named.noClosing valued
    (by simp [String.toList_append, named.noClosing]))

theorem linesCut_properties
    {properties : List Property}
    (named : ∀ property ∈ properties, IsInert property.name.toList) :
    LinesCut (properties.map Property.line) (properties.flatMap Property.tags) := by
  rw [List.map_eq_flatMap]
  exact .flatMap properties fun property member => linesCut_property (named property member)

/-- The lines of a reference have the tags of its element and of its hint. -/
theorem linesCut_reference
    {reference : String × String}
    (name : IsInert reference.1.toList)
    (hint : IsInert reference.2.toList) :
    LinesCut (referenceLines reference) (referenceTags reference) := by
  have opening : LinesCut ["    <Reference Include=\"" ++ reference.1 ++ "\">"]
      [⟨"\n    ", "Reference Include=\"" ++ reference.1 ++ "\""⟩] :=
    .single (.tag (by simp [String.toList_append]) (by simp) (by simp)
      (by simp [String.toList_append, name.noClosing]))
  have hinted : LinesCut ["      <HintPath>" ++ reference.2 ++ "</HintPath>"]
      [⟨"\n      ", "HintPath"⟩, ⟨reference.2, "/HintPath"⟩] :=
    .single (.pair (by simp [String.toList_append]) isInert_deepIndentation (by simp) hint
      (by simp))
  have copied : LinesCut ["      <Private>False</Private>"]
      [⟨"\n      ", "Private"⟩, ⟨"False", "/Private"⟩] :=
    .single (.pair (by simp) isInert_deepIndentation (by simp) isInert_notCopied (by simp))
  have closing : LinesCut ["    </Reference>"] [⟨"\n    ", "/Reference"⟩] :=
    .single (.tag (by simp) (by simp) (by simp) (by simp))
  exact opening.append (hinted.append (copied.append closing))

/-- The line of a resource is one tag. -/
theorem linesCut_embedding (resource : Embedding) :
    LinesCut [resource.line] [resource.tag] := by
  have included := isInert_markup resource.includePath
  have named := isInert_markup resource.logicalName
  unfold Embedding.line Embedding.tag
  generalize Text.markup resource.includePath = includeText at *
  generalize Text.markup resource.logicalName = nameText at *
  exact .single (.tag (by simp [String.toList_append]) (by simp) (by simp)
    (by simp [String.toList_append, included.noClosing, named.noClosing]))

theorem LinesCut.itemGroup
    {lines : List String}
    {tags : List Tag}
    (cut : LinesCut lines tags) :
    LinesCut (itemGroup lines) (groupTags tags) := by
  have opening : LinesCut ["", "  <ItemGroup>"] [⟨"\n\n  ", "ItemGroup"⟩] :=
    Cuts.tag (by simp [String.join_cons]) (by simp) (by simp) (by simp)
  have closing : LinesCut ["  </ItemGroup>"] [⟨"\n  ", "/ItemGroup"⟩] :=
    .single (.tag (by simp) (by simp) (by simp) (by simp))
  exact (opening.append cut).append closing

theorem linesCut_customReferenceComment (settings : Settings) :
    LinesCut (customReferenceComment settings) (customReferenceTags settings) := by
  unfold customReferenceComment customReferenceTags
  split
  · exact .single (.tag (by simp) (by simp) (by simp) (by simp))
  · exact .nil

/-- The lines of the group of resources have its tags. -/
theorem linesCut_resourceGroup (resources : List Embedding) :
    LinesCut (resourceGroup resources) (resourceTags resources) := by
  unfold resourceGroup resourceTags
  split
  · exact .nil
  · refine .itemGroup ?_
    rw [List.map_eq_flatMap, List.map_eq_flatMap]
    exact .flatMap resources fun resource _ => linesCut_embedding resource

/-- The names that a property of the build may have. -/
def propertyNames : List String :=
  ["TargetFramework", "LangVersion", "Nullable", "RootNamespace", "AssemblyName", "Version",
    "Authors", "GameDir", "GameReferences"]

theorem name_mem_propertyNames
    {input : Input}
    {property : Property}
    (member : property ∈ properties input) :
    property.name ∈ propertyNames := by
  simp only [properties, authorProperties, List.mem_append, List.mem_cons, List.not_mem_nil,
    or_false] at member
  rcases member with ((rfl | rfl | rfl | rfl | rfl | rfl) | author) | (rfl | rfl)
  case inl.inr =>
    split at author
    · cases author
    · rw [List.mem_singleton.1 author]
      simp [propertyNames]
  all_goals simp [propertyNames]

/-- The name begins an element, and there are no marks in it. -/
def IsElementName (name : String) : Prop :=
  IsUnmarked name.toList ∧ (Tag.mk "\n    " name).opens = true

instance (name : String) : Decidable (IsElementName name) :=
  inferInstanceAs (Decidable (_ ∧ _))

/-- Properties have names of elements. -/
theorem isElementName_of_mem_properties
    {input : Input}
    {property : Property}
    (member : property ∈ properties input) :
    IsElementName property.name := by
  have named : ∀ name ∈ propertyNames, IsElementName name := by
    simp [propertyNames, IsElementName, IsUnmarked, Tag.opens]
  exact named property.name (name_mem_propertyNames member)

theorem isUnmarked_of_mem_references
    {reference : String × String}
    (member : reference ∈ references) :
    IsUnmarked reference.1.toList ∧ IsUnmarked reference.2.toList := by
  have unmarked : ∀ reference ∈ references,
      IsUnmarked reference.1.toList ∧ IsUnmarked reference.2.toList := by
    simp [references, IsUnmarked]
  exact unmarked reference member

/-- The tags of the descriptor are known, whatever texts it is made from. -/
theorem tagsOf_descriptor (input : Input) :
    tagsOf (descriptor input).contents = descriptorTags input := by
  have first : Cuts "<Project Sdk=\"Microsoft.NET.Sdk\">"
      [⟨"", "Project Sdk=\"Microsoft.NET.Sdk\""⟩] :=
    .tag (by simp) (by simp) (by simp) (by simp)
  have generator : LinesCut
      ["  <!-- Generated by questforge " ++ Source.generatorVersion ++ ". -->"]
      [⟨"\n  ", "!-- Generated by questforge " ++ Source.generatorVersion ++ ". --"⟩] :=
    .single (.tag (by simp [Source.generatorVersion]) (by simp) (by simp)
      (by simp [Source.generatorVersion]))
  have opening : LinesCut ["  <PropertyGroup>"] [⟨"\n  ", "PropertyGroup"⟩] :=
    .single (.tag (by simp) (by simp) (by simp) (by simp))
  have closing : LinesCut ["  </PropertyGroup>"] [⟨"\n  ", "/PropertyGroup"⟩] :=
    .single (.tag (by simp) (by simp) (by simp) (by simp))
  have last : LinesCut ["</Project>"] [⟨"\n", "/Project"⟩] :=
    .single (.tag (by simp) (by simp) (by simp) (by simp))
  have named : LinesCut ((properties input).map Property.line)
      ((properties input).flatMap Property.tags) :=
    linesCut_properties fun property member =>
      (isElementName_of_mem_properties member).1.isInert
  have referenced : LinesCut (references.flatMap referenceLines)
      (references.flatMap referenceTags) :=
    .flatMap references fun reference member =>
      linesCut_reference (isUnmarked_of_mem_references member).1.isInert
        (isUnmarked_of_mem_references member).2.isInert
  have rest := ((((((generator.append opening).append named).append closing).append
    (linesCut_customReferenceComment input.settings)).append referenced.itemGroup).append
    (linesCut_resourceGroup input.resources)).append last
  have headed : descriptorLines input =
      "<Project Sdk=\"Microsoft.NET.Sdk\">" ::
        (["  <!-- Generated by questforge " ++ Source.generatorVersion ++ ". -->"] ++
          ["  <PropertyGroup>"] ++ (properties input).map Property.line ++
          ["  </PropertyGroup>"] ++ customReferenceComment input.settings ++
          itemGroup (references.flatMap referenceLines) ++ resourceGroup input.resources ++
          ["</Project>"]) :=
    rfl
  rw [descriptor, headed, joinLines_cons, first, rest, Text.tagsOf_of_not_mem (by simp),
    List.append_nil]
  rfl

end Build
end QuestMod
