import QuestMod.Proofs.Text.Escape

/-!
# Reading markup

A reader cuts a markup document at its tags. Directly between the two tags of an element
stands the text of the element, and in quotes inside of a tag stand the values of its
attributes. Escaped text is inert: it holds no character that begins or ends a tag or a value,
and each ampersand in it begins a predefined entity. Replacing the entities gives back the
text that was escaped.
-/

namespace QuestMod
namespace Text

/-! ## Entities -/

/-- The predefined entities: what follows the ampersand, and the character it stands for. -/
def entities : List (List Char × Char) :=
  [(['a', 'm', 'p', ';'], '&'), (['l', 't', ';'], '<'), (['g', 't', ';'], '>'),
    (['q', 'u', 'o', 't', ';'], '"'), (['a', 'p', 'o', 's', ';'], '\'')]

/-- The text adds no markup: no tag and no value begins or ends in it, and every ampersand
begins a predefined entity. -/
structure IsInert (characters : List Char) : Prop where
  noOpening : '<' ∉ characters
  noClosing : '>' ∉ characters
  noQuote : '"' ∉ characters
  entities : ∀ rest, '&' :: rest <:+ characters → ∃ entity ∈ entities, entity.1 <+: rest

/-- No character of the text has a meaning in markup. -/
def IsUnmarked (characters : List Char) : Prop :=
  ∀ c ∈ ['&', '<', '>', '"'], c ∉ characters

instance (characters : List Char) : Decidable (IsUnmarked characters) :=
  decidable_of_iff (['&', '<', '>', '"'].all fun c => !characters.contains c)
    (by simp [IsUnmarked])

/-- What an ampersand and the text behind it stand for, up to the next ampersand. -/
def behindAmpersand (piece : List Char) : List Char :=
  match entities.find? fun entity => entity.1.isPrefixOf piece with
  | some entity => entity.2 :: piece.drop entity.1.length
  | none => '&' :: piece

/-- The text with each predefined entity replaced by its character. -/
def unescape (characters : List Char) : List Char :=
  match splitAt '&' characters with
  | [] => []
  | front :: pieces => front ++ pieces.flatMap behindAmpersand

theorem behindAmpersand_entity_append
    {entity : List Char × Char}
    (predefined : entity ∈ entities)
    (rest : List Char) :
    behindAmpersand (entity.1 ++ rest) = entity.2 :: rest := by
  simp only [entities, List.mem_cons, List.not_mem_nil, or_false] at predefined
  rcases predefined with rfl | rfl | rfl | rfl | rfl <;> rfl

/-- An entity holds no further mark. -/
theorem isUnmarked_entity
    {entity : List Char × Char}
    (predefined : entity ∈ entities) :
    IsUnmarked entity.1 := by
  have unmarked : ∀ entity ∈ entities, IsUnmarked entity.1 := by
    simp [entities, IsUnmarked]
  exact unmarked entity predefined

/-- An entity is read as its character. -/
theorem unescape_entity_append
    {entity : List Char × Char}
    (predefined : entity ∈ entities)
    (rest : List Char) :
    unescape ('&' :: (entity.1 ++ rest)) = entity.2 :: unescape rest := by
  obtain ⟨piece, pieces, splits⟩ := List.exists_cons_of_ne_nil (splitAt_ne_nil '&' rest)
  have absent := isUnmarked_entity predefined '&' (by decide)
  rw [unescape, splitAt_separator_cons, splitAt_append_of_not_mem absent splits, unescape, splits]
  simp [behindAmpersand_entity_append predefined]

theorem unescape_cons_of_ne
    {c : Char}
    (plain : c ≠ '&')
    (rest : List Char) :
    unescape (c :: rest) = c :: unescape rest := by
  obtain ⟨piece, pieces, splits⟩ := List.exists_cons_of_ne_nil (splitAt_ne_nil '&' rest)
  rw [unescape, splitAt_cons_of_ne plain splits, unescape, splits]
  rfl

/-! ## Escaped text -/

/-- A character is written as itself or as the entity that stands for it. -/
theorem markupCharacter_cases (c : Char) :
    markupCharacter c = [c] ∧ IsUnmarked [c] ∨
      ∃ entity ∈ entities, markupCharacter c = '&' :: entity.1 ∧ entity.2 = c := by
  unfold markupCharacter
  split
  · exact .inr ⟨(['a', 'm', 'p', ';'], '&'), by decide, by simp, rfl⟩
  · exact .inr ⟨(['l', 't', ';'], '<'), by decide, by simp, rfl⟩
  · exact .inr ⟨(['g', 't', ';'], '>'), by decide, by simp, rfl⟩
  · exact .inr ⟨(['q', 'u', 'o', 't', ';'], '"'), by decide, by simp, rfl⟩
  · exact .inr ⟨(['a', 'p', 'o', 's', ';'], '\''), by decide, by simp, rfl⟩
  · refine .inl ⟨rfl, ?_⟩
    simp_all [IsUnmarked, eq_comm]

/-- Escaped text is read back as it was. -/
theorem unescape_markup (text : String) : unescape (markup text).toList = text.toList := by
  rw [markup, String.toList_ofList]
  induction text.toList with
  | nil => rfl
  | cons c rest ih =>
      rw [List.flatMap_cons]
      rcases markupCharacter_cases c with ⟨same, plain⟩ | ⟨entity, predefined, written, stands⟩
      · have noAmpersand : c ≠ '&' := by
          rintro rfl
          exact plain '&' (by decide) List.mem_cons_self
        rw [same, List.singleton_append, unescape_cons_of_ne noAmpersand, ih]
      · rw [written, List.cons_append, unescape_entity_append predefined, stands, ih]

theorem IsInert.nil : IsInert [] where
  noOpening := List.not_mem_nil
  noClosing := List.not_mem_nil
  noQuote := List.not_mem_nil
  entities _ behind := absurd (behind.subset List.mem_cons_self) List.not_mem_nil

/-- Text without marks in front of inert text is inert. -/
theorem IsInert.append
    {front rest : List Char}
    (unmarked : IsUnmarked front)
    (inert : IsInert rest) :
    IsInert (front ++ rest) where
  noOpening := by
    rw [List.mem_append, not_or]
    exact ⟨unmarked '<' (by decide), inert.noOpening⟩
  noClosing := by
    rw [List.mem_append, not_or]
    exact ⟨unmarked '>' (by decide), inert.noClosing⟩
  noQuote := by
    rw [List.mem_append, not_or]
    exact ⟨unmarked '"' (by decide), inert.noQuote⟩
  entities after behind := by
    have noAmpersand := unmarked '&' (by decide)
    clear unmarked
    induction front with
    | nil => exact inert.entities after behind
    | cons c front ih =>
        rw [List.mem_cons, not_or] at noAmpersand
        rcases List.suffix_cons_iff.1 behind with whole | inside
        · exact absurd (List.cons.inj whole).1 noAmpersand.1
        · exact ih inside noAmpersand.2

theorem IsUnmarked.isInert
    {characters : List Char}
    (unmarked : IsUnmarked characters) :
    IsInert characters := by
  rw [← List.append_nil characters]
  exact IsInert.nil.append unmarked

/-- A predefined entity in front of inert text is inert. -/
theorem IsInert.entity_append
    {entity : List Char × Char}
    (predefined : entity ∈ Text.entities)
    {rest : List Char}
    (inert : IsInert rest) :
    IsInert ('&' :: (entity.1 ++ rest)) := by
  have behindMark := inert.append (isUnmarked_entity predefined)
  refine ⟨?_, ?_, ?_, fun after behind => ?_⟩
  · simpa using behindMark.noOpening
  · simpa using behindMark.noClosing
  · simpa using behindMark.noQuote
  · rcases List.suffix_cons_iff.1 behind with whole | inside
    · rw [(List.cons.inj whole).2]
      exact ⟨entity, predefined, List.prefix_append _ _⟩
    · exact behindMark.entities after inside

/-- Escaped text is inert. -/
theorem isInert_markup (text : String) : IsInert (markup text).toList := by
  rw [markup, String.toList_ofList]
  induction text.toList with
  | nil => exact .nil
  | cons c rest ih =>
      rw [List.flatMap_cons]
      rcases markupCharacter_cases c with ⟨same, plain⟩ | ⟨entity, predefined, written, _⟩
      · rw [same]
        exact ih.append plain
      · rw [written]
        exact ih.entity_append predefined

/-! ## Tags -/

/-- A tag, with the text between the tag before it and itself. -/
structure Tag where
  front : String
  /-- What stands between the angle brackets. -/
  content : String
  deriving DecidableEq

/-- The tag of a piece of a document that ends where a tag does. -/
def tagOf (piece : List Char) : Tag :=
  ⟨String.ofList (piece.takeWhile (· != '<')), String.ofList (piece.dropWhile (· != '<')).tail⟩

/-- The tags of a document, in order. -/
def tagsOf (document : String) : List Tag :=
  (splitAt '>' document.toList).dropLast.map tagOf

/-- Whatever follows the text, the given tags are cut off it. -/
def Cuts (text : String) (tags : List Tag) : Prop :=
  ∀ rest, tagsOf (text ++ rest) = tags ++ tagsOf rest

namespace Cuts

variable {first second : String} {firstTags secondTags : List Tag}

theorem nil : Cuts "" [] :=
  fun rest => congrArg tagsOf (String.empty_append (s := rest))

theorem append
    (firstCuts : Cuts first firstTags)
    (secondCuts : Cuts second secondTags) :
    Cuts (first ++ second) (firstTags ++ secondTags) := by
  intro rest
  rw [String.append_assoc, firstCuts, secondCuts, List.append_assoc]

/-- A text that ends with its only tag. -/
theorem tag
    {text front content : String}
    (spelled : text.toList = front.toList ++ '<' :: (content.toList ++ ['>']))
    (noOpening : '<' ∉ front.toList)
    (noClosing : '>' ∉ front.toList)
    (inside : '>' ∉ content.toList) :
    Cuts text [⟨front, content⟩] := by
  intro rest
  have absent : '>' ∉ front.toList ++ '<' :: content.toList := by
    simp [noClosing, inside]
  have cut : tagOf (front.toList ++ '<' :: content.toList) = ⟨front, content⟩ := by
    have front_ne : ∀ c ∈ front.toList, (c != '<') = true := by
      intro c member
      rw [bne_iff_ne]
      rintro rfl
      exact noOpening member
    rw [tagOf, List.takeWhile_append_of_pos front_ne, List.dropWhile_append_of_pos front_ne]
    simp
  have whole : (text ++ rest).toList =
      (front.toList ++ '<' :: content.toList) ++ '>' :: rest.toList := by
    rw [String.toList_append, spelled]
    simp
  rw [tagsOf, whole, splitAt_append_separator, splitAt_of_not_mem absent,
    List.dropLast_append_of_ne_nil (splitAt_ne_nil '>' rest.toList), List.map_append,
    List.map_singleton, cut]
  rfl

/-- Two tags, and the text between them. -/
theorem pair
    {text front content between closing : String}
    (spelled : text.toList = front.toList ++ '<' :: (content.toList ++
      '>' :: (between.toList ++ '<' :: (closing.toList ++ ['>']))))
    (frontInert : IsInert front.toList)
    (inside : '>' ∉ content.toList)
    (betweenInert : IsInert between.toList)
    (insideClosing : '>' ∉ closing.toList) :
    Cuts text [⟨front, content⟩, ⟨between, closing⟩] := by
  have whole : text =
      (front ++ "<" ++ content ++ ">") ++ (between ++ "<" ++ closing ++ ">") := by
    rw [← String.toList_inj, spelled]
    simp [String.toList_append]
  have first : Cuts (front ++ "<" ++ content ++ ">") [⟨front, content⟩] :=
    .tag (by simp [String.toList_append]) frontInert.noOpening frontInert.noClosing inside
  have second : Cuts (between ++ "<" ++ closing ++ ">") [⟨between, closing⟩] :=
    .tag (by simp [String.toList_append]) betweenInert.noOpening betweenInert.noClosing
      insideClosing
  rw [whole]
  exact first.append second

end Cuts

/-- Text without a tag behind the last one adds none. -/
theorem tagsOf_of_not_mem
    {text : String}
    (absent : '>' ∉ text.toList) :
    tagsOf text = [] := by
  rw [tagsOf, splitAt_of_not_mem absent]
  rfl

/-! ## Elements and attributes -/

/-- The tag begins an element: it neither closes one nor is complete in itself, as comments and
empty elements are. -/
def Tag.opens (tag : Tag) : Bool :=
  tag.content.toList.head? != some '/' && tag.content.toList.head? != some '!' &&
    tag.content.toList.getLast? != some '/'

/-- Name and text of the elements that hold nothing but text. -/
def elements : List Tag → List (String × String)
  | opening :: closing :: rest =>
      if opening.opens && closing.content == "/" ++ opening.content then
        (opening.content, closing.front) :: elements (closing :: rest)
      else elements (closing :: rest)
  | _ => []

/-- Quoted values of a tag, each with the text in front of its quotes. -/
def attributesOf : List (List Char) → List (String × String)
  | label :: value :: rest => (String.ofList label, String.ofList value) :: attributesOf rest
  | _ => []

/-- A tag without its quoted values. -/
def labelsOf : List (List Char) → List String
  | label :: _ :: rest => String.ofList label :: labelsOf rest
  | rest => rest.map String.ofList

namespace Tag

/-- The values of the tag's attributes, each with what stands in front of its quotes. -/
def attributes (tag : Tag) : List (String × String) :=
  attributesOf (splitAt '"' tag.content.toList)

/-- The tag without the values of its attributes. -/
def labels (tag : Tag) : List String :=
  labelsOf (splitAt '"' tag.content.toList)

end Tag

/-- The markup of a document: its tags without the values in them. -/
def skeleton (document : String) : List (List String) :=
  (tagsOf document).map Tag.labels

/-- The texts between the tags of a document and the values of attributes, as they are
written. -/
def writtenTexts (document : String) : List String :=
  (tagsOf document).flatMap fun tag => tag.front :: tag.attributes.map (·.2)

/-- What a written text stands for. -/
def valueOf (written : String) : String :=
  String.ofList (unescape written.toList)

/-- What the elements with the name hold. -/
def valuesOf (name document : String) : List String :=
  ((elements (tagsOf document)).filter fun element => element.1 == name).map fun element =>
    valueOf element.2

theorem valueOf_markup (text : String) : valueOf (markup text) = text := by
  rw [valueOf, unescape_markup, String.ofList_toList]

theorem Tag.opens_of_closing
    {closing : Tag}
    {name : String}
    (closes : closing.content = "/" ++ name) :
    closing.opens = false := by
  simp [opens, closes, String.toList_append]

/-- Whatever follows the tags, the given elements are read off them. -/
def HoldsElements (tags : List Tag) (found : List (String × String)) : Prop :=
  ∀ rest, elements (tags ++ rest) = found ++ elements rest

namespace HoldsElements

variable {tags otherTags : List Tag} {found otherFound : List (String × String)}

theorem elements_eq
    (held : HoldsElements tags found) :
    elements tags = found := by
  have none : elements [] = [] := rfl
  have whole := held []
  rwa [none, List.append_nil, List.append_nil] at whole

theorem nil : HoldsElements [] [] :=
  fun _ => rfl

theorem append
    (held : HoldsElements tags found)
    (otherHeld : HoldsElements otherTags otherFound) :
    HoldsElements (tags ++ otherTags) (found ++ otherFound) := by
  intro rest
  rw [List.append_assoc, held, otherHeld, List.append_assoc]

theorem flatMap
    {α : Type}
    {tagsFor : α → List Tag}
    {foundIn : α → List (String × String)}
    (items : List α)
    (held : ∀ item ∈ items, HoldsElements (tagsFor item) (foundIn item)) :
    HoldsElements (items.flatMap tagsFor) (items.flatMap foundIn) :=
  related_flatMap nil append held

/-- A tag that begins no element adds none. -/
theorem complete
    {tag : Tag}
    (noElement : tag.opens = false) :
    HoldsElements [tag] [] := by
  intro rest
  cases rest with
  | nil => rfl
  | cons next rest => simp [elements, noElement]

/-- An opening tag and its closing tag are an element with the text between them. -/
theorem element
    {opening closing : Tag}
    (opens : opening.opens = true)
    (closes : closing.content = "/" ++ opening.content) :
    HoldsElements [opening, closing] [(opening.content, closing.front)] := by
  intro rest
  have closed := complete (Tag.opens_of_closing closes) rest
  simp only [List.cons_append, List.nil_append] at closed ⊢
  rw [elements, closed]
  simp [opens, closes]

/-- A tag whose own closing tag does not follow at once holds other elements. -/
theorem outer
    {tag next : Tag}
    (other : next.content ≠ "/" ++ tag.content)
    (held : HoldsElements (next :: tags) found) :
    HoldsElements (tag :: next :: tags) found := by
  intro rest
  rw [← held rest]
  simp [elements, other]

end HoldsElements

/-- A quoted value is cut off together with the label in front of it. -/
theorem splitAt_quoted
    {label value : List Char}
    (labelPlain : '"' ∉ label)
    (valuePlain : '"' ∉ value)
    (rest : List Char) :
    splitAt '"' (label ++ '"' :: (value ++ '"' :: rest)) = label :: value :: splitAt '"' rest := by
  rw [splitAt_append_separator, splitAt_append_separator, splitAt_of_not_mem labelPlain,
    splitAt_of_not_mem valuePlain]
  rfl

/-- A tag without quotes has no attributes. -/
theorem Tag.attributes_of_not_mem
    {tag : Tag}
    (absent : '"' ∉ tag.content.toList) :
    tag.attributes = [] := by
  rw [attributes, splitAt_of_not_mem absent]
  rfl

end Text
end QuestMod
