import QuestMod.Text.Blank

/-!
# Cutting texts at separators

Cutting a list at a separator and joining the pieces with the separator are inverse to each
other. A line is part of such a piece, so no line holds a line feed.
What is built part by part, such as lines and the code in them, stays related when the parts
are put together.
-/

namespace QuestMod
namespace Text

variable {α : Type} [DecidableEq α] {separator : α}

theorem splitAt_ne_nil (separator : α) (list : List α) :
    splitAt separator list ≠ [] := by
  cases list with
  | nil => simp [splitAt]
  | cons c rest =>
      unfold splitAt
      split
      · simp
      · split <;> simp

@[simp] theorem splitAt_separator_cons (rest : List α) :
    splitAt separator (separator :: rest) = [] :: splitAt separator rest := by
  simp [splitAt]

/-- A character that is no separator joins the first piece. -/
theorem splitAt_cons_of_ne
    {c : α}
    (different : c ≠ separator)
    {rest piece : List α}
    {pieces : List (List α)}
    (splits : splitAt separator rest = piece :: pieces) :
    splitAt separator (c :: rest) = (c :: piece) :: pieces := by
  simp [splitAt, different, splits]

/-- The pieces around a separator are those in front of it and those behind it. -/
theorem splitAt_append_separator (first second : List α) :
    splitAt separator (first ++ separator :: second) =
      splitAt separator first ++ splitAt separator second := by
  induction first with
  | nil => simp [splitAt]
  | cons c rest ih =>
      by_cases same : c = separator
      · subst same
        simp only [List.cons_append, splitAt_separator_cons, ih]
      · obtain ⟨piece, pieces, splits⟩ := List.exists_cons_of_ne_nil
          (splitAt_ne_nil separator rest)
        rw [splits, List.cons_append] at ih
        rw [List.cons_append, splitAt_cons_of_ne same ih, splitAt_cons_of_ne same splits,
          List.cons_append]

/-- A list without the separator is its only piece. -/
theorem splitAt_of_not_mem
    {piece : List α}
    (absent : separator ∉ piece) :
    splitAt separator piece = [piece] := by
  induction piece with
  | nil => rfl
  | cons c rest ih =>
      simp only [List.mem_cons, not_or] at absent
      exact splitAt_cons_of_ne (Ne.symm absent.1) (ih absent.2)

/-- Characters in front of the first separator join the first piece. -/
theorem splitAt_append_of_not_mem
    {front : List α}
    (absent : separator ∉ front)
    {rest piece : List α}
    {pieces : List (List α)}
    (splits : splitAt separator rest = piece :: pieces) :
    splitAt separator (front ++ rest) = (front ++ piece) :: pieces := by
  induction front with
  | nil => exact splits
  | cons c front ih =>
      simp only [List.mem_cons, not_or] at absent
      exact splitAt_cons_of_ne (Ne.symm absent.1) (ih absent.2)

/-- No piece holds the separator. -/
theorem not_mem_of_mem_splitAt
    {list piece : List α}
    (member : piece ∈ splitAt separator list) :
    separator ∉ piece := by
  induction list generalizing piece with
  | nil =>
      simp only [splitAt, List.mem_singleton] at member
      simp [member]
  | cons c rest ih =>
      by_cases same : c = separator
      · subst same
        rw [splitAt_separator_cons, List.mem_cons] at member
        rcases member with rfl | member
        · simp
        · exact ih member
      · obtain ⟨first, pieces, splits⟩ := List.exists_cons_of_ne_nil
          (splitAt_ne_nil separator rest)
        rw [splitAt_cons_of_ne same splits, List.mem_cons] at member
        rw [splits] at ih
        rcases member with rfl | member
        · simp [Ne.symm same, ih List.mem_cons_self]
        · exact ih (List.mem_cons_of_mem _ member)

/-- The list of a piece are list of the list. -/
theorem subset_of_mem_splitAt
    {list piece : List α}
    (member : piece ∈ splitAt separator list) :
    piece ⊆ list := by
  induction list generalizing piece with
  | nil =>
      rw [List.mem_singleton.1 member]
      exact List.Subset.refl _
  | cons c rest ih =>
      by_cases same : c = separator
      · subst same
        rw [splitAt_separator_cons, List.mem_cons] at member
        rcases member with rfl | inRest
        · exact List.nil_subset _
        · exact List.subset_cons_of_subset c (ih inRest)
      · obtain ⟨first, pieces, splits⟩ := List.exists_cons_of_ne_nil
          (splitAt_ne_nil separator rest)
        rw [splitAt_cons_of_ne same splits, List.mem_cons] at member
        rw [splits] at ih
        rcases member with rfl | inPieces
        · exact List.cons_subset_cons c (ih List.mem_cons_self)
        · exact List.subset_cons_of_subset c (ih (List.mem_cons_of_mem _ inPieces))

/-- Every character but the separators lies in a piece. -/
theorem exists_piece_of_mem
    {list : List α}
    {c : α}
    (member : c ∈ list)
    (different : c ≠ separator) :
    ∃ piece ∈ splitAt separator list, c ∈ piece := by
  induction list with
  | nil => cases member
  | cons d rest ih =>
      obtain ⟨first, pieces, splits⟩ := List.exists_cons_of_ne_nil
        (splitAt_ne_nil separator rest)
      by_cases same : d = separator
      · subst same
        rw [splitAt_separator_cons]
        obtain ⟨piece, inPieces, inside⟩ := ih ((List.mem_cons.1 member).resolve_left different)
        exact ⟨piece, List.mem_cons_of_mem _ inPieces, inside⟩
      · rw [splitAt_cons_of_ne same splits]
        rcases List.mem_cons.1 member with rfl | inRest
        · exact ⟨_, List.mem_cons_self, List.mem_cons_self⟩
        · obtain ⟨piece, inPieces, inside⟩ := ih inRest
          rw [splits] at inPieces
          rcases List.mem_cons.1 inPieces with rfl | inOthers
          · exact ⟨_, List.mem_cons_self, List.mem_cons_of_mem _ inside⟩
          · exact ⟨piece, List.mem_cons_of_mem _ inOthers, inside⟩

/-- Cutting undoes joining. -/
theorem splitAt_intercalate
    {pieces : List (List α)}
    (nonempty : pieces ≠ [])
    (absent : ∀ piece ∈ pieces, separator ∉ piece) :
    splitAt separator ([separator].intercalate pieces) = pieces := by
  induction pieces with
  | nil => exact absurd rfl nonempty
  | cons piece rest ih =>
      have alone := splitAt_of_not_mem (absent piece List.mem_cons_self)
      cases rest with
      | nil => simpa [List.intercalate] using alone
      | cons next others =>
          have later := ih (by simp) fun other member =>
            absent other (List.mem_cons_of_mem _ member)
          rw [List.intercalate_cons_cons, List.append_assoc, List.singleton_append,
            splitAt_append_separator, alone, later, List.singleton_append]

/-- Joining undoes cutting. -/
theorem intercalate_splitAt (list : List α) :
    [separator].intercalate (splitAt separator list) = list := by
  induction list with
  | nil => rfl
  | cons c rest ih =>
      obtain ⟨piece, pieces, splits⟩ := List.exists_cons_of_ne_nil
        (splitAt_ne_nil separator rest)
      rw [splits] at ih
      by_cases same : c = separator
      · subst same
        rw [splitAt_separator_cons, splits, List.intercalate_cons_cons, ih]
        rfl
      · rw [splitAt_cons_of_ne same splits, ← ih]
        cases pieces <;> simp [List.intercalate]

/-! ## The last separator -/

omit [DecidableEq α] in
/-- Joining with one more piece adds a separator and the piece. -/
theorem intercalate_concat
    {pieces : List (List α)}
    (nonempty : pieces ≠ [])
    (last : List α) :
    [separator].intercalate (pieces ++ [last]) =
      [separator].intercalate pieces ++ separator :: last := by
  induction pieces with
  | nil => exact absurd rfl nonempty
  | cons piece rest ih =>
      cases rest with
      | nil => simp
      | cons next others =>
          have later := ih (by simp)
          rw [List.cons_append] at later
          simp only [List.cons_append, List.intercalate_cons_cons, later, List.append_assoc]

/-- What stands around the last separator makes up the list. -/
theorem eq_of_splitLast
    {list front back : List α}
    (splits : splitLast separator list = some (front, back)) :
    list = front ++ separator :: back ∧ separator ∉ back := by
  unfold splitLast at splits
  split at splits
  · rename_i last piece pieces reversed
    obtain ⟨rfl, rfl⟩ := Prod.mk.inj (Option.some.inj splits)
    have ordered : splitAt separator list = (piece :: pieces).reverse ++ [last] := by
      rw [← List.reverse_cons, ← reversed, List.reverse_reverse]
    constructor
    · rw [← intercalate_concat (by simp), ← ordered, intercalate_splitAt]
    · have inPieces : last ∈ splitAt separator list := by simp [ordered]
      exact not_mem_of_mem_splitAt inPieces
  · cases splits

/-- A list with a separator in front of its end is cut at that separator. -/
theorem splitLast_append
    {back : List α}
    (absent : separator ∉ back)
    (front : List α) :
    splitLast separator (front ++ separator :: back) = some (front, back) := by
  unfold splitLast
  rw [splitAt_append_separator, splitAt_of_not_mem absent, List.reverse_append,
    List.reverse_singleton, List.singleton_append]
  obtain ⟨piece, others, reversed⟩ := List.exists_cons_of_ne_nil
    (List.reverse_ne_nil_iff.2 (splitAt_ne_nil separator front))
  rw [reversed]
  dsimp only
  rw [← reversed, List.reverse_reverse, intercalate_splitAt]

/-- A list without the separator is not cut. -/
theorem splitLast_of_not_mem
    {list : List α}
    (absent : separator ∉ list) :
    splitLast separator list = none := by
  rw [splitLast, splitAt_of_not_mem absent]
  rfl

/-! ## The last dot -/

theorem toList_dotted (stem extension : String) :
    (stem ++ "." ++ extension).toList = stem.toList ++ '.' :: extension.toList := by
  have dot : ".".toList = ['.'] := rfl
  rw [String.toList_append, String.toList_append, dot, List.append_assoc, List.singleton_append]

/-- What stands around the last dot makes up the text. -/
theorem eq_of_splitLastDot
    {text stem extension : String}
    (splits : splitLastDot text = some (stem, extension)) :
    text = stem ++ "." ++ extension ∧ '.' ∉ extension.toList := by
  obtain ⟨parts, cut, equal⟩ := Option.map_eq_some_iff.1 splits
  obtain ⟨rfl, rfl⟩ := Prod.mk.inj equal
  obtain ⟨whole, absent⟩ := eq_of_splitLast cut
  rw [← String.toList_inj, toList_dotted, String.toList_ofList, String.toList_ofList]
  exact ⟨whole, absent⟩

/-- A text with a dot in front of its end is cut at that dot. -/
theorem splitLastDot_append
    {extension : String}
    (absent : '.' ∉ extension.toList)
    (stem : String) :
    splitLastDot (stem ++ "." ++ extension) = some (stem, extension) := by
  rw [splitLastDot, toList_dotted, splitLast_append absent, Option.map_some]
  simp only [String.ofList_toList]

/-- A text without a dot is not cut. -/
theorem splitLastDot_of_not_mem
    {text : String}
    (absent : '.' ∉ text.toList) :
    splitLastDot text = none := by
  rw [splitLastDot, splitLast_of_not_mem absent]
  rfl

/-! ## Lines -/

/-- A line is a piece between line feeds, up to the carriage return at its end. -/
theorem exists_piece_of_mem_lines
    {text line : String}
    (member : line ∈ lines text) :
    ∃ piece ∈ splitAt '\n' text.toList, line.toList ⊆ piece := by
  obtain ⟨characters, inList, rfl⟩ := List.mem_map.1 member
  rw [String.toList_ofList]
  have closed (inPieces : characters ∈ (splitAt '\n' text.toList).dropLast.map dropReturn) :
      ∃ piece ∈ splitAt '\n' text.toList, characters ⊆ piece := by
    obtain ⟨whole, inSplit, rfl⟩ := List.mem_map.1 inPieces
    refine ⟨whole, List.dropLast_subset _ inSplit, ?_⟩
    unfold dropReturn
    split
    · exact List.dropLast_subset _
    · exact List.Subset.refl _
  unfold lineList at inList
  dsimp only at inList
  split at inList
  · exact closed inList
  · rename_i rest _ last
    rcases List.mem_append.1 inList with inClosed | inLast
    · exact closed inClosed
    · rw [List.mem_singleton.1 inLast]
      exact ⟨rest, List.mem_of_getLast? last, List.Subset.refl _⟩
  · exact closed inList

/-- No line holds a line feed. -/
theorem newline_not_mem_of_mem_lines
    {text line : String}
    (member : line ∈ lines text) :
    '\n' ∉ line.toList := by
  obtain ⟨piece, inSplit, part⟩ := exists_piece_of_mem_lines member
  exact fun inside => not_mem_of_mem_splitAt inSplit (part inside)

/-- The characters of a line are characters of the text. -/
theorem mem_of_mem_line
    {text line : String}
    (member : line ∈ lines text)
    {c : Char}
    (inside : c ∈ line.toList) :
    c ∈ text.toList := by
  obtain ⟨piece, inSplit, part⟩ := exists_piece_of_mem_lines member
  exact subset_of_mem_splitAt inSplit (part inside)

theorem dropReturn_of_not_mem
    {line : List Char}
    (absent : '\r' ∉ line) :
    dropReturn line = line := by
  unfold dropReturn
  split
  · rename_i last
    exact absurd (List.mem_of_getLast? last) absent
  · rfl

/-- The lines of a text that begins with a whole line. -/
theorem lineList_append_newline
    {line : List Char}
    (oneLine : '\n' ∉ line)
    (noReturn : '\r' ∉ line)
    (rest : List Char) :
    lineList (line ++ '\n' :: rest) = line :: lineList rest := by
  rcases List.eq_nil_or_concat (splitAt '\n' rest) with none | ⟨pieces, last, splits⟩
  · exact absurd none (splitAt_ne_nil '\n' rest)
  · unfold lineList
    rw [splitAt_append_separator, splitAt_of_not_mem oneLine, splits]
    simp only [List.singleton_append, List.concat_eq_append, ← List.cons_append,
      List.dropLast_concat, List.getLast?_concat, List.map_cons, dropReturn_of_not_mem noReturn]
    cases last <;> rfl

/-! ## Flattened lists -/

/-- A relation that holds of the empty lists, and of lists put together from related ones,
holds of the flattened lists of related items. -/
theorem related_flatMap
    {α β γ : Type}
    {related : List β → List γ → Prop}
    (nil : related [] [])
    (append : ∀ {front otherFront back otherBack}, related front otherFront →
      related back otherBack → related (front ++ back) (otherFront ++ otherBack))
    {items : List α}
    {listOf : α → List β}
    {otherOf : α → List γ}
    (each : ∀ item ∈ items, related (listOf item) (otherOf item)) :
    related (items.flatMap listOf) (items.flatMap otherOf) := by
  induction items with
  | nil => exact nil
  | cons item rest ih =>
      obtain ⟨first, others⟩ := List.forall_mem_cons.1 each
      rw [List.flatMap_cons, List.flatMap_cons]
      exact append first (ih others)

end Text
end QuestMod
