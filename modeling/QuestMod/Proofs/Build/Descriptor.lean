import QuestMod.Proofs.Build.DescriptorTags

/-!
# Reading the build descriptor

From the tags of a build descriptor a reader gets back each property of the build and each
embedded resource. The texts that the descriptor is made from are inert in it: they change
neither its tags nor the labels of its attributes.
-/

namespace QuestMod
namespace Build

open Text (HoldsElements IsInert IsUnmarked Tag elements isInert_markup tagsOf)

/-! ## Elements of the descriptor -/

/-- The elements of a property: its name, and its value as it is written. -/
def Property.element (property : Property) : String × String :=
  (property.name, Text.markup property.value)

/-- The elements of a reference that hold nothing but text. -/
def referenceElements (reference : String × String) : List (String × String) :=
  [("HintPath", reference.2), ("Private", "False")]

theorem holdsElements_properties
    {properties : List Property}
    (named : ∀ property ∈ properties, IsElementName property.name) :
    HoldsElements (properties.flatMap Property.tags) (properties.map Property.element) := by
  rw [List.map_eq_flatMap]
  exact .flatMap properties fun property member => .element (named property member).2 rfl

theorem holdsElements_reference (reference : String × String) :
    HoldsElements (referenceTags reference) (referenceElements reference) := by
  have holdsOthers : "HintPath" ≠ "/" ++ ("Reference Include=\"" ++ reference.1 ++ "\"") := by
    rw [Ne, ← String.toList_inj]
    simp [String.toList_append]
  have hint : HoldsElements [⟨"\n      ", "HintPath"⟩, ⟨reference.2, "/HintPath"⟩]
      [("HintPath", reference.2)] :=
    .element (by decide) (by simp)
  have copied : HoldsElements [⟨"\n      ", "Private"⟩, ⟨"False", "/Private"⟩]
      [("Private", "False")] :=
    .element (by decide) (by simp)
  exact .outer holdsOthers (hint.append (copied.append (.complete (by decide))))

theorem opens_tag_embedding (resource : Embedding) : resource.tag.opens = false := by
  unfold Embedding.tag
  generalize Text.markup resource.includePath = includeText
  generalize Text.markup resource.logicalName = nameText
  simp only [Tag.opens, String.toList_append, List.getLast?_append]
  simp

/-- The group is not empty, so its closing tag does not follow the opening one at once. -/
theorem holdsElements_groupTags
    {tag : Tag}
    {tags : List Tag}
    {found : List (String × String)}
    (other : tag.content ≠ "/ItemGroup")
    (held : HoldsElements (tag :: tags) found) :
    HoldsElements (groupTags (tag :: tags)) found := by
  have closing : HoldsElements [⟨"\n  ", "/ItemGroup"⟩] [] := .complete (by decide)
  have held := held.append closing
  rw [List.append_nil] at held
  exact .outer other held

theorem holdsElements_resourceTags (resources : List Embedding) :
    HoldsElements (resourceTags resources) [] := by
  cases resources with
  | nil => exact .nil
  | cons resource others =>
      have other : resource.tag.content ≠ "/ItemGroup" := by
        rw [Ne, ← String.toList_inj, Embedding.tag]
        simp [String.toList_append]
      have held : HoldsElements ((resource :: others).flatMap fun item => [item.tag])
          ((resource :: others).flatMap fun _ => []) :=
        .flatMap _ fun item _ => .complete (opens_tag_embedding item)
      rw [← List.map_eq_flatMap, List.flatMap_eq_nil_iff.2 fun _ _ => rfl] at held
      exact holdsElements_groupTags other held

/-- The elements of the descriptor that hold nothing but text. -/
theorem elements_descriptorTags (input : Input) :
    elements (descriptorTags input) =
      (properties input).map Property.element ++ references.flatMap referenceElements := by
  have generator : HoldsElements
      [⟨"\n  ", "!-- Generated by questforge " ++ Source.generatorVersion ++ ". --"⟩] [] :=
    .complete (by decide)
  have named : HoldsElements (⟨"\n  ", "PropertyGroup"⟩ :: (properties input).flatMap Property.tags)
      ((properties input).map Property.element) :=
    .outer (by simp) (holdsElements_properties fun _ => isElementName_of_mem_properties)
  have closing : HoldsElements [⟨"\n  ", "/PropertyGroup"⟩] [] := .complete (by decide)
  have custom : HoldsElements (customReferenceTags input.settings) [] := by
    unfold customReferenceTags
    split
    · exact .complete (by decide)
    · exact .nil
  have referenced : HoldsElements (groupTags (references.flatMap referenceTags))
      (references.flatMap referenceElements) :=
    holdsElements_groupTags (by decide)
      (.flatMap references fun reference _ => holdsElements_reference reference)
  have last : HoldsElements [⟨"\n", "/Project"⟩] [] := .complete (by decide)
  have inside := generator.append (named.append (closing.append (custom.append
    (referenced.append ((holdsElements_resourceTags input.resources).append last)))))
  have holdsOthers : (Tag.mk "\n  "
      ("!-- Generated by questforge " ++ Source.generatorVersion ++ ". --")).content ≠
        "/" ++ (Tag.mk "" "Project Sdk=\"Microsoft.NET.Sdk\"").content := by
    rw [Ne, ← String.toList_inj]
    simp [String.toList_append]
  simp only [List.cons_append, List.nil_append, List.append_nil] at inside
  rw [← (HoldsElements.outer holdsOthers inside).elements_eq, descriptorTags]
  simp only [List.cons_append, List.nil_append, List.append_assoc]

/-- A reader finds the values of the properties with a name. -/
theorem valuesOf_descriptor
    {name : String}
    (noHint : name ≠ "HintPath")
    (noCopy : name ≠ "Private")
    (input : Input) :
    Text.valuesOf name (descriptor input).contents =
      ((properties input).filter fun property => property.name == name).map Property.value := by
  have elsewhere : (references.flatMap referenceElements).filter
      (fun element => element.1 == name) = [] := by
    simp [List.filter_flatMap, referenceElements, noHint.symm, noCopy.symm]
  rw [Text.valuesOf, tagsOf_descriptor, elements_descriptorTags, List.filter_append, elsewhere,
    List.append_nil, List.filter_map, List.map_map]
  refine List.map_congr_left fun property _ => ?_
  exact Text.valueOf_markup property.value

/-! ## Resources of the descriptor -/

/-- The resource that a tag embeds. -/
def resourceOf? (tag : Tag) : Option Embedding :=
  match tag.attributes with
  | [first, second] =>
      if first.1 == "EmbeddedResource Include=" && second.1 == " LogicalName=" then
        some ⟨Text.valueOf first.2, Text.valueOf second.2⟩
      else none
  | _ => none

/-- The resources that a document embeds, in order. -/
def embeddingsOf (document : String) : List Embedding :=
  (tagsOf document).filterMap resourceOf?

/-- The quotes of a resource's tag are those around its values, whatever the values are. -/
theorem splitAt_embedding (resource : Embedding) :
    Text.splitAt '"' resource.tag.content.toList =
      ["EmbeddedResource Include=".toList, (Text.markup resource.includePath).toList,
        " LogicalName=".toList, (Text.markup resource.logicalName).toList, " /".toList] := by
  have included := isInert_markup resource.includePath
  have named := isInert_markup resource.logicalName
  unfold Embedding.tag
  generalize Text.markup resource.includePath = includeText at *
  generalize Text.markup resource.logicalName = nameText at *
  have spelled : ("EmbeddedResource Include=\"" ++ includeText ++ "\" LogicalName=\"" ++ nameText ++
      "\" /").toList =
      "EmbeddedResource Include=".toList ++ '"' :: (includeText.toList ++ '"' ::
        (" LogicalName=".toList ++ '"' :: (nameText.toList ++ '"' :: " /".toList))) := by
    simp [String.toList_append]
  rw [spelled, Text.splitAt_quoted (by simp) included.noQuote,
    Text.splitAt_quoted (by simp) named.noQuote, Text.splitAt_of_not_mem (by simp)]

theorem attributes_embedding (resource : Embedding) :
    resource.tag.attributes =
      [("EmbeddedResource Include=", Text.markup resource.includePath),
        (" LogicalName=", Text.markup resource.logicalName)] := by
  rw [Tag.attributes, splitAt_embedding]
  simp only [Text.attributesOf, String.ofList_toList]

theorem resourceOf?_embedding (resource : Embedding) :
    resourceOf? resource.tag = some resource := by
  rw [resourceOf?, attributes_embedding]
  simp [Text.valueOf_markup]

/-- The tags of a property have no attributes. -/
theorem attributes_of_mem_tags
    {property : Property}
    (named : IsElementName property.name)
    {tag : Tag}
    (member : tag ∈ property.tags) :
    tag.attributes = [] := by
  have unquoted : '"' ∉ property.name.toList := named.1 '"' (by decide)
  simp only [Property.tags, List.mem_cons, List.not_mem_nil, or_false] at member
  rcases member with rfl | rfl
  · exact Tag.attributes_of_not_mem unquoted
  · exact Tag.attributes_of_not_mem (by simp [String.toList_append, unquoted])

/-- A reference has its name for an attribute, and nothing else. -/
theorem attributes_of_mem_referenceTags
    {reference : String × String}
    (unmarked : IsUnmarked reference.1.toList)
    {tag : Tag}
    (member : tag ∈ referenceTags reference) :
    tag.attributes = [] ∨ tag.attributes = [("Reference Include=", reference.1)] := by
  have spelled : ("Reference Include=\"" ++ reference.1 ++ "\"").toList =
      "Reference Include=".toList ++ '"' :: (reference.1.toList ++ '"' :: []) := by
    simp [String.toList_append]
  simp only [referenceTags, List.mem_cons, List.not_mem_nil, or_false] at member
  rcases member with rfl | rfl | rfl | rfl | rfl | rfl
  case inl =>
    right
    rw [Tag.attributes, spelled, Text.splitAt_quoted (by simp) (unmarked '"' (by decide)),
      Text.attributesOf, String.ofList_toList, String.ofList_toList]
    rfl
  all_goals exact .inl (Tag.attributes_of_not_mem (by simp))

theorem filterMap_resourceOf?_references :
    (references.flatMap referenceTags).filterMap resourceOf? = [] := by
  refine List.filterMap_eq_nil_iff.2 fun tag member => ?_
  obtain ⟨reference, inReferences, inTags⟩ := List.mem_flatMap.1 member
  rcases attributes_of_mem_referenceTags (isUnmarked_of_mem_references inReferences).1 inTags with
    none | one
  · rw [resourceOf?, none]
  · rw [resourceOf?, one]

theorem filterMap_resourceOf?_properties
    {properties : List Property}
    (named : ∀ property ∈ properties, IsElementName property.name) :
    (properties.flatMap Property.tags).filterMap resourceOf? = [] := by
  refine List.filterMap_eq_nil_iff.2 fun tag member => ?_
  obtain ⟨property, inProperties, inTags⟩ := List.mem_flatMap.1 member
  rw [resourceOf?, attributes_of_mem_tags (named property inProperties) inTags]

theorem filterMap_resourceOf?_groupTags (tags : List Tag) :
    (groupTags tags).filterMap resourceOf? = tags.filterMap resourceOf? := by
  have opening : resourceOf? ⟨"\n\n  ", "ItemGroup"⟩ = none := by decide
  have closing : resourceOf? ⟨"\n  ", "/ItemGroup"⟩ = none := by decide
  simp only [groupTags, List.filterMap_append, List.filterMap_cons, opening, closing,
    List.filterMap_nil, List.append_nil]

theorem filterMap_resourceOf?_resourceTags (resources : List Embedding) :
    (resourceTags resources).filterMap resourceOf? = resources := by
  have embedded : (resources.map Embedding.tag).filterMap resourceOf? = resources := by
    induction resources with
    | nil => rfl
    | cons resource others ih =>
        rw [List.map_cons, List.filterMap_cons_some (resourceOf?_embedding resource), ih]
  unfold resourceTags
  split
  case isTrue empty => exact (List.isEmpty_iff.1 empty).symm
  case isFalse => rw [filterMap_resourceOf?_groupTags, embedded]

/-- A reader finds the resources. -/
theorem embeddingsOf_descriptor (input : Input) :
    embeddingsOf (descriptor input).contents = input.resources := by
  have first : resourceOf? ⟨"", "Project Sdk=\"Microsoft.NET.Sdk\""⟩ = none := by decide
  have generator : resourceOf?
      ⟨"\n  ", "!-- Generated by questforge " ++ Source.generatorVersion ++ ". --"⟩ = none := by
    decide
  have opening : resourceOf? ⟨"\n  ", "PropertyGroup"⟩ = none := by decide
  have named : ((properties input).flatMap Property.tags).filterMap resourceOf? = [] :=
    filterMap_resourceOf?_properties fun _ => isElementName_of_mem_properties
  have closing : resourceOf? ⟨"\n  ", "/PropertyGroup"⟩ = none := by decide
  have custom : (customReferenceTags input.settings).filterMap resourceOf? = [] := by
    unfold customReferenceTags
    split <;> decide
  have referenced : (groupTags (references.flatMap referenceTags)).filterMap resourceOf? = [] := by
    rw [filterMap_resourceOf?_groupTags, filterMap_resourceOf?_references]
  have last : resourceOf? ⟨"\n", "/Project"⟩ = none := by decide
  rw [embeddingsOf, tagsOf_descriptor, descriptorTags]
  simp only [List.filterMap_cons, List.filterMap_append, first, generator, opening, named, closing,
    custom, referenced, last, filterMap_resourceOf?_resourceTags, List.filterMap_nil,
    List.append_nil, List.nil_append]

/-! ## Written texts -/

/-- Neither the text in front of a tag nor the values in it add markup. -/
structure AddsNoMarkup (tag : Tag) : Prop where
  front : IsInert tag.front.toList
  values : ∀ labelled ∈ tag.attributes, IsInert labelled.2.toList

/-- There is no mark in the text in front of a tag and in the values in it. -/
def IsFixed (tag : Tag) : Prop :=
  IsUnmarked tag.front.toList ∧ ∀ labelled ∈ tag.attributes, IsUnmarked labelled.2.toList

instance (tag : Tag) : Decidable (IsFixed tag) :=
  decidable_of_iff (IsUnmarked tag.front.toList ∧
    tag.attributes.all fun labelled => decide (IsUnmarked labelled.2.toList)) (by simp [IsFixed])

theorem IsFixed.addsNoMarkup
    {tag : Tag}
    (fixed : IsFixed tag) :
    AddsNoMarkup tag where
  front := fixed.1.isInert
  values labelled member := (fixed.2 labelled member).isInert

theorem addsNoMarkup_of_mem_tags
    {property : Property}
    (named : IsElementName property.name)
    {tag : Tag}
    (member : tag ∈ property.tags) :
    AddsNoMarkup tag := by
  refine ⟨?_, by simp [attributes_of_mem_tags named member]⟩
  simp only [Property.tags, List.mem_cons, List.not_mem_nil, or_false] at member
  rcases member with rfl | rfl
  · exact isInert_indentation
  · exact isInert_markup property.value

theorem addsNoMarkup_of_mem_referenceTags
    {reference : String × String}
    (named : IsUnmarked reference.1.toList)
    (hint : IsUnmarked reference.2.toList)
    {tag : Tag}
    (member : tag ∈ referenceTags reference) :
    AddsNoMarkup tag := by
  refine ⟨?_, ?_⟩
  · simp only [referenceTags, List.mem_cons, List.not_mem_nil, or_false] at member
    rcases member with rfl | rfl | rfl | rfl | rfl | rfl
    · exact isInert_indentation
    · exact isInert_deepIndentation
    · exact hint.isInert
    · exact isInert_deepIndentation
    · exact isInert_notCopied
    · exact isInert_indentation
  · rcases attributes_of_mem_referenceTags named member with none | one
    · simp [none]
    · simp [one, named.isInert]

theorem addsNoMarkup_embedding (resource : Embedding) : AddsNoMarkup resource.tag where
  front := isInert_indentation
  values labelled member := by
    simp only [attributes_embedding, List.mem_cons, List.not_mem_nil, or_false] at member
    rcases member with rfl | rfl
    · exact isInert_markup resource.includePath
    · exact isInert_markup resource.logicalName

theorem addsNoMarkup_of_mem_groupTags
    {tags : List Tag}
    (inside : ∀ tag ∈ tags, AddsNoMarkup tag)
    {tag : Tag}
    (member : tag ∈ groupTags tags) :
    AddsNoMarkup tag := by
  simp only [groupTags, List.mem_append, List.mem_cons, List.not_mem_nil, or_false] at member
  rcases member with (rfl | member) | rfl
  · exact IsFixed.addsNoMarkup (by decide)
  · exact inside tag member
  · exact IsFixed.addsNoMarkup (by decide)

theorem addsNoMarkup_of_mem_descriptorTags
    {input : Input}
    {tag : Tag}
    (member : tag ∈ descriptorTags input) :
    AddsNoMarkup tag := by
  simp only [descriptorTags, List.mem_append, List.mem_cons, List.not_mem_nil, or_false] at member
  rcases member with rfl | (((((((rfl | rfl) | inProperties) | rfl) | custom) | referenced) |
    embedded) | rfl)
  case inr.inl.inl.inl.inl.inl.inr =>
    obtain ⟨property, isProperty, inTags⟩ := List.mem_flatMap.1 inProperties
    exact addsNoMarkup_of_mem_tags (isElementName_of_mem_properties isProperty) inTags
  case inr.inl.inl.inl.inr =>
    unfold customReferenceTags at custom
    split at custom
    · rw [List.mem_singleton.1 custom]
      exact IsFixed.addsNoMarkup (by decide)
    · cases custom
  case inr.inl.inl.inr =>
    refine addsNoMarkup_of_mem_groupTags (fun tag member => ?_) referenced
    obtain ⟨reference, inReferences, inTags⟩ := List.mem_flatMap.1 member
    have unmarked := isUnmarked_of_mem_references inReferences
    exact addsNoMarkup_of_mem_referenceTags unmarked.1 unmarked.2 inTags
  case inr.inl.inr =>
    unfold resourceTags at embedded
    split at embedded
    · cases embedded
    · refine addsNoMarkup_of_mem_groupTags (fun tag member => ?_) embedded
      obtain ⟨resource, _, rfl⟩ := List.mem_map.1 member
      exact addsNoMarkup_embedding resource
  all_goals exact IsFixed.addsNoMarkup (by decide)

/-! ## Markup of the descriptor -/

/-- Descriptors of the inputs have the same tags: both or none name an author and a custom
directory of reference assemblies, and there are as many resources. -/
structure SameShape (first second : Input) : Prop where
  author : Text.isBlankText first.project.author = Text.isBlankText second.project.author
  references : first.settings.customReferences.isSome = second.settings.customReferences.isSome
  resources : first.resources.length = second.resources.length

theorem map_name_properties
    {first second : Input}
    (same : SameShape first second) :
    (properties first).map Property.name = (properties second).map Property.name := by
  have author : (authorProperties first.project.author).map Property.name =
      (authorProperties second.project.author).map Property.name := by
    unfold authorProperties
    rw [same.author]
    split <;> rfl
  simp only [properties, List.map_append, List.map_cons, List.map_nil, author]

/-- The markup of the properties is made from their names. -/
theorem map_labels_properties (properties : List Property) :
    (properties.flatMap Property.tags).map Tag.labels =
      (properties.map Property.name).flatMap fun name =>
        [(Tag.mk "" name).labels, (Tag.mk "" ("/" ++ name)).labels] := by
  rw [List.map_flatMap, List.flatMap_map]
  rfl

theorem labels_embedding (resource : Embedding) :
    resource.tag.labels = ["EmbeddedResource Include=", " LogicalName=", " /"] := by
  rw [Tag.labels, splitAt_embedding]
  simp only [Text.labelsOf, List.map_singleton, String.ofList_toList]

theorem map_labels_resourceTags
    {first second : List Embedding}
    (same : first.length = second.length) :
    (resourceTags first).map Tag.labels = (resourceTags second).map Tag.labels := by
  have labels (resources : List Embedding) : (resources.map Embedding.tag).map Tag.labels =
      List.replicate resources.length ["EmbeddedResource Include=", " LogicalName=", " /"] := by
    induction resources with
    | nil => rfl
    | cons resource others ih =>
        rw [List.map_cons, List.map_cons, labels_embedding, ih, List.length_cons,
          List.replicate_succ]
  have empty : first.isEmpty = second.isEmpty := by
    rw [Bool.eq_iff_iff, List.isEmpty_iff_length_eq_zero, List.isEmpty_iff_length_eq_zero, same]
  unfold resourceTags
  rw [empty]
  split
  · rfl
  · simp only [groupTags, List.map_append, List.map_cons, labels, same]

/-- The texts that a descriptor is made from have no part in its markup. -/
theorem skeleton_descriptor
    {first second : Input}
    (same : SameShape first second) :
    Text.skeleton (descriptor first).contents = Text.skeleton (descriptor second).contents := by
  have custom : customReferenceTags first.settings = customReferenceTags second.settings := by
    unfold customReferenceTags
    rw [same.references]
  rw [Text.skeleton, Text.skeleton, tagsOf_descriptor, tagsOf_descriptor, descriptorTags,
    descriptorTags]
  simp only [List.map_append, List.map_cons, List.map_nil, map_labels_properties,
    map_name_properties same, custom, map_labels_resourceTags same.resources]

/-- A reader of the document gets back what the descriptor is made from. -/
structure Describes (document : String) (input : Input) : Prop where
  targetFramework : Text.valuesOf "TargetFramework" document = [input.settings.targetFramework]
  languageVersion : Text.valuesOf "LangVersion" document = [input.settings.languageVersion]
  rootNamespace : Text.valuesOf "RootNamespace" document = [input.root]
  assemblyName : Text.valuesOf "AssemblyName" document = [input.root]
  version : Text.valuesOf "Version" document = [input.project.version]
  author : Text.valuesOf "Authors" document =
    if Text.isBlankText input.project.author then [] else [input.project.author]
  gameDirectory : Text.valuesOf "GameDir" document = [input.settings.gameDirectory.text]
  referenceDirectory :
    Text.valuesOf "GameReferences" document = [input.settings.referenceDirectory.text]
  resources : embeddingsOf document = input.resources

theorem describes_descriptor (input : Input) :
    Describes (descriptor input).contents input := by
  have found {name : String} (noHint : name ≠ "HintPath") (noCopy : name ≠ "Private") :=
    valuesOf_descriptor noHint noCopy input
  constructor
  case resources => exact embeddingsOf_descriptor input
  all_goals
    rw [found (by decide) (by decide), properties, authorProperties]
    split <;> simp [*]

/-- Whatever texts a build descriptor is made from, a reader that cuts it at its tags and
replaces entities gets back its properties and resources, and the texts add no markup: as
written each of them is inert, and the markup is that of any other input of the same shape. -/
theorem descriptor_describes_its_input (input : Input) :
    Describes (descriptor input).contents input ∧
      (∀ written ∈ Text.writtenTexts (descriptor input).contents, IsInert written.toList) ∧
      ∀ other, SameShape input other →
        Text.skeleton (descriptor other).contents = Text.skeleton (descriptor input).contents := by
  refine ⟨describes_descriptor input, fun written member => ?_,
    fun _ same => (skeleton_descriptor same).symm⟩
  rw [Text.writtenTexts, tagsOf_descriptor] at member
  simp only [List.mem_flatMap, List.mem_cons, List.mem_map] at member
  obtain ⟨tag, inTags, front | ⟨labelled, isLabelled, value⟩⟩ := member
  · rw [front]
    exact (addsNoMarkup_of_mem_descriptorTags inTags).front
  · rw [← value]
    exact (addsNoMarkup_of_mem_descriptorTags inTags).values labelled isLabelled

/-- A project whose texts spell markup. -/
def markupProject : Blueprint.Project where
  name := "Mod"
  author := "</Authors><Authors a=\"&amp;\">"
  version := "<!-- &lt; -->"

/-- A descriptor for texts that spell markup. -/
def markupInput : Input where
  project := markupProject
  settings := { gameDirectory := ⟨"/games/\"S\" & <I>"⟩ }
  root := "Mod"
  resources := [⟨"a\" LogicalName=\"b", "'&quot;'"⟩]

/-- The texts are read back as they are, and the markup is that of plain texts. -/
theorem descriptor_describes_markupInput :
    Text.valuesOf "Authors" (descriptor markupInput).contents =
        ["</Authors><Authors a=\"&amp;\">"] ∧
      embeddingsOf (descriptor markupInput).contents =
        [⟨"a\" LogicalName=\"b", "'&quot;'"⟩] ∧
      Text.skeleton (descriptor { markupInput with
          project := { markupProject with author := "Ada", version := "1.0.0" }
          resources := [⟨"icon.png", "Mod.icon.png"⟩] }).contents =
        Text.skeleton (descriptor markupInput).contents := by
  obtain ⟨described, _, sameMarkup⟩ := descriptor_describes_its_input markupInput
  exact ⟨described.author, described.resources, sameMarkup _ ⟨by decide, rfl, rfl⟩⟩

end Build
end QuestMod
