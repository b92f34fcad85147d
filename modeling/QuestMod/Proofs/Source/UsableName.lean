import QuestMod.Proofs.Source.Identifier

/-!
# Names that source can use

Every text is made into a name that source can use, given that its fallback is one, and the
same holds of dotted names. A name that can be used is left as it is, so making a name usable
once more changes nothing, whatever the fallback of the second time is.
-/

namespace QuestMod
namespace Source

/-- The name is an identifier, spelled out, and no keyword. -/
structure IsUsable (name : String) : Prop where
  spelled : ∃ first rest, name.toList = first :: rest ∧
    (Text.startsIdentifier first = true ∨ first = '_') ∧
      ∀ c ∈ rest, Text.continuesIdentifier c = true
  unreserved : name ∉ reservedWords

/-- The name consists of usable ones, at least one of them, with dots between neighbours. -/
def IsUsableSpace (name : String) : Prop :=
  ∃ segments, segments ≠ [] ∧ (∀ segment ∈ segments, IsUsable segment) ∧
    name = ".".intercalate segments

/-! ## Single names -/

theorem isIdentifierForm_iff (characters : List Char) :
    isIdentifierForm characters = true ↔
      ∃ first rest, characters = first :: rest ∧
        (Text.startsIdentifier first = true ∨ first = '_') ∧
          ∀ c ∈ rest, Text.continuesIdentifier c = true := by
  cases characters with
  | nil =>
      constructor
      · intro form
        cases form
      · rintro ⟨first, rest, absent, _⟩
        cases absent
  | cons first rest =>
      rw [isIdentifierForm, Bool.and_eq_true, List.all_eq_true, opensIdentifier,
        Bool.or_eq_true, beq_iff_eq]
      constructor
      · rintro ⟨opens, continued⟩
        exact ⟨first, rest, rfl, opens, continued⟩
      · rintro ⟨_, _, same, opens, continued⟩
        cases same
        exact ⟨opens, continued⟩

theorem isIdentifier_iff (name : String) : isIdentifier name = true ↔ IsUsable name := by
  rw [isIdentifier, Bool.and_eq_true, isIdentifierForm_iff, Bool.not_eq_true', isReservedWord,
    ← Bool.not_eq_true, List.contains_iff_mem]
  exact ⟨fun both => ⟨both.1, both.2⟩, fun usable => ⟨usable.spelled, usable.unreserved⟩⟩

instance (name : String) : Decidable (IsUsable name) :=
  decidable_of_iff _ (isIdentifier_iff name)

theorem IsUsable.usableIdentifier
    {fallback : String}
    (usable : IsUsable fallback)
    (candidate : String) :
    IsUsable (usableIdentifier candidate fallback) :=
  (isIdentifier_iff _).1 <| isIdentifier_usableIdentifier candidate <|
    (isIdentifier_iff fallback).2 usable

/-- A usable name is used as it is. -/
theorem IsUsable.usableIdentifier_eq
    {name : String}
    (usable : IsUsable name)
    (fallback : String) :
    Source.usableIdentifier name fallback = name :=
  usableIdentifier_of_isIdentifier ((isIdentifier_iff name).2 usable) fallback

/-! ## Dotted names -/

/-- Usable names are the segments of the dotted name that they make. -/
theorem namespaceSegments_intercalate
    {segments : List String}
    (nonempty : segments ≠ [])
    (usable : ∀ segment ∈ segments, IsUsable segment) :
    namespaceSegments (".".intercalate segments) = segments := by
  have forms : ∀ segment ∈ segments, HasIdentifierForm segment := fun segment member =>
    hasIdentifierForm_of_isIdentifier ((isIdentifier_iff segment).2 (usable segment member))
  have kept : ∀ segment ∈ segments,
      Source.usableIdentifier (String.ofList segment.toList) "" = segment := by
    intro segment member
    rw [String.ofList_toList, (usable segment member).usableIdentifier_eq]
  have shown : ∀ segment ∈ segments, (!segment.isEmpty) = true := by
    intro segment member
    obtain ⟨first, rest, spelled, _⟩ := (usable segment member).spelled
    rw [Bool.not_eq_true', ← Bool.not_eq_true, String.isEmpty_iff]
    rintro rfl
    cases spelled
  rw [namespaceSegments, splitAt_dot_intercalate nonempty forms, List.map_map,
    List.filter_eq_self.2]
  · exact (List.map_congr_left kept).trans (List.map_id' segments)
  · intro segment member
    obtain ⟨same, inSegments, rfl⟩ := List.mem_map.1 member
    rw [Function.comp_apply, kept same inSegments]
    exact shown same inSegments

/-- A dotted name of usable names is used as it is. -/
theorem IsUsableSpace.usableNamespace_eq
    {name : String}
    (usable : IsUsableSpace name)
    (fallback : String) :
    Source.usableNamespace name fallback = name := by
  obtain ⟨segments, nonempty, segmentsUsable, rfl⟩ := usable
  rw [Source.usableNamespace, namespaceSegments_intercalate nonempty segmentsUsable]
  split
  · exact absurd rfl nonempty
  · rfl

theorem IsUsableSpace.usableNamespace
    {fallback : String}
    (usable : IsUsableSpace fallback)
    (candidate : String) :
    IsUsableSpace (usableNamespace candidate fallback) := by
  unfold Source.usableNamespace
  split
  · exact usable
  · rename_i nonempty
    exact ⟨namespaceSegments candidate, nonempty, fun segment member =>
      (isIdentifier_iff segment).1 (isIdentifier_of_mem_namespaceSegments member), rfl⟩

/-! ## Making names usable -/

/-- With a usable fallback every text becomes a usable name, and every text becomes a dotted
name of usable ones. Usable names, those made from texts among them, stay as they are whatever
the fallback is. -/
theorem usable_names_are_made_once
    (text fallback other : String) :
    (IsUsable fallback →
        IsUsable (usableIdentifier text fallback) ∧
          usableIdentifier (usableIdentifier text fallback) other =
            usableIdentifier text fallback) ∧
      (IsUsable text → usableIdentifier text other = text) ∧
      (IsUsableSpace fallback →
        IsUsableSpace (usableNamespace text fallback) ∧
          usableNamespace (usableNamespace text fallback) other =
            usableNamespace text fallback) ∧
      (IsUsableSpace text → usableNamespace text other = text) := by
  refine ⟨fun usable => ?_, fun usable => usable.usableIdentifier_eq other, fun usable => ?_,
    fun usable => usable.usableNamespace_eq other⟩
  · have made := usable.usableIdentifier text
    exact ⟨made, made.usableIdentifier_eq other⟩
  · have made := usable.usableNamespace text
    exact ⟨made, made.usableNamespace_eq other⟩

/-- A title that begins with a digit and a namespace with an empty segment and a keyword are
made usable once, and their fallbacks stay as they are. -/
theorem usable_names_of_title_and_space :
    IsUsable "Quest" ∧ IsUsableSpace "Mod" ∧
      usableIdentifier "2nd class!" "Quest" = "_2nd_class_" ∧
      usableIdentifier "_2nd_class_" "" = "_2nd_class_" ∧
      usableIdentifier "Quest" "" = "Quest" ∧
      usableNamespace "My Mod..class" "Mod" = "My_Mod._class" ∧
      usableNamespace "My_Mod._class" "" = "My_Mod._class" ∧
      usableNamespace "Mod" "" = "Mod" := by
  have quest : IsUsable "Quest" := by decide
  have space : IsUsableSpace "Mod" :=
    ⟨["Mod"], List.cons_ne_nil _ _, List.forall_mem_singleton.2 (by decide), rfl⟩
  have title : usableIdentifier "2nd class!" "Quest" = "_2nd_class_" := by decide
  have dotted : usableNamespace "My Mod..class" "Mod" = "My_Mod._class" := by decide
  have once := ((usable_names_are_made_once "2nd class!" "Quest" "").1 quest).2
  have dottedOnce := ((usable_names_are_made_once "My Mod..class" "Mod" "").2.2.1 space).2
  rw [title] at once
  rw [dotted] at dottedOnce
  exact ⟨quest, space, title, once, (usable_names_are_made_once "Quest" "" "").2.1 quest, dotted,
    dottedOnce, (usable_names_are_made_once "Mod" "" "").2.2.2 space⟩

end Source
end QuestMod
