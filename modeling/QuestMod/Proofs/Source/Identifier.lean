import QuestMod.Source.Identifier
import QuestMod.Source.NameSet
import QuestMod.Proofs.Text.Split

/-!
# Identifiers and dotted names

What is made of a text is an identifier again, whether it is used as it is, behind an
underscore or with a number, and a namespace is a dotted sequence of identifiers.
-/

namespace QuestMod
namespace Source

/-- The name has the form of an identifier. It may be a keyword. -/
def HasIdentifierForm (name : String) : Prop :=
  isIdentifierForm name.toList = true

instance (name : String) : Decidable (HasIdentifierForm name) :=
  inferInstanceAs (Decidable (_ = true))

/-- The name is a sequence of identifiers with dots between neighbours. -/
def IsDottedName (name : String) : Prop :=
  ∀ segment ∈ Text.splitAt '.' name.toList, isIdentifierForm segment = true

instance (name : String) : Decidable (IsDottedName name) :=
  inferInstanceAs (Decidable (∀ _ ∈ _, _))

theorem hasIdentifierForm_ofList
    {characters : List Char}
    (form : isIdentifierForm characters = true) :
    HasIdentifierForm (String.ofList characters) := by
  rwa [HasIdentifierForm, String.toList_ofList]

/-! ## Characters of identifiers -/

theorem continuesIdentifier_of_opensIdentifier
    {c : Char}
    (opens : opensIdentifier c = true) :
    Text.continuesIdentifier c = true := by
  simp only [opensIdentifier, Bool.or_eq_true, beq_iff_eq] at opens
  rcases opens with starts | rfl
  · exact Text.continuesIdentifier_of_startsIdentifier starts
  · decide

theorem continuesIdentifier_of_isDigit
    {c : Char}
    (digit : c.isDigit = true) :
    Text.continuesIdentifier c = true := by
  have small : c.toNat < 0x80 := by
    simp only [Char.isDigit, Bool.and_eq_true, decide_eq_true_eq] at digit
    have upper : c.val.toNat ≤ '9'.val.toNat := UInt32.le_iff_toNat_le.1 digit.2
    have nine : '9'.val.toNat = 57 := rfl
    rw [Char.toNat]
    omega
  simp [Text.continuesIdentifier, small, digit]

/-- Every character of an identifier may stand behind its front. -/
theorem continuesIdentifier_of_mem
    {characters : List Char}
    (form : isIdentifierForm characters = true)
    {c : Char}
    (member : c ∈ characters) :
    Text.continuesIdentifier c = true := by
  cases characters with
  | nil => cases member
  | cons first rest =>
      simp only [isIdentifierForm, Bool.and_eq_true, List.all_eq_true] at form
      rcases List.mem_cons.1 member with rfl | inRest
      · exact continuesIdentifier_of_opensIdentifier form.1
      · exact form.2 c inRest

/-- Identifier characters behind an identifier make an identifier. -/
theorem isIdentifierForm_append
    {first second : List Char}
    (form : isIdentifierForm first = true)
    (continued : ∀ c ∈ second, Text.continuesIdentifier c = true) :
    isIdentifierForm (first ++ second) = true := by
  cases first with
  | nil => cases form
  | cons c rest =>
      simp only [isIdentifierForm, List.cons_append, Bool.and_eq_true, List.all_eq_true,
        List.mem_append] at form ⊢
      refine ⟨form.1, ?_⟩
      rintro d (inRest | inSecond)
      · exact form.2 d inRest
      · exact continued d inSecond

theorem continuesIdentifier_continuation (c : Char) :
    Text.continuesIdentifier (continuation c) = true := by
  unfold continuation
  split
  · assumption
  · decide

/-! ## Usable identifiers -/

/-- The identifier form of a text is empty or an identifier. -/
theorem isIdentifierForm_identifierForm (characters : List Char) :
    identifierForm characters = [] ∨
      isIdentifierForm (identifierForm characters) = true := by
  have continued (rest : List Char) :
      (rest.map continuation).all Text.continuesIdentifier = true := by
    simp [continuesIdentifier_continuation]
  induction characters with
  | nil => exact .inl rfl
  | cons c rest ih =>
      unfold identifierForm
      split
      · rename_i opens
        exact .inr (by simp only [isIdentifierForm, opens, continued, Bool.and_self])
      · split
        · rename_i digit
          refine .inr ?_
          simp only [isIdentifierForm, List.all_cons, continued, Bool.and_true,
            continuesIdentifier_of_isDigit digit]
          decide
        · exact ih

theorem HasIdentifierForm.underscore
    {name : String}
    (form : HasIdentifierForm name) :
    HasIdentifierForm ("_" ++ name) := by
  have continued : ∀ c ∈ name.toList, Text.continuesIdentifier c = true :=
    fun c member => continuesIdentifier_of_mem form member
  rw [HasIdentifierForm, String.toList_append]
  exact isIdentifierForm_append (by decide) continued

/-- Keywords hold small letters only. -/
theorem isReservedWord_eq_false_of_mem
    {word : String}
    {c : Char}
    (member : c ∈ word.toList)
    (foreign : c.isLower = false) :
    isReservedWord word = false := by
  have small : reservedWords.all (fun reserved => reserved.toList.all Char.isLower) = true := by
    decide +kernel
  rw [Bool.eq_false_iff]
  intro reserved
  have letters := List.all_eq_true.1 small word (List.contains_iff_mem.1 reserved)
  rw [List.all_eq_true.1 letters c member] at foreign
  cases foreign

/-- A usable identifier is the fallback, or made of the text and no keyword. -/
theorem usableIdentifier_eq_or_isIdentifier (candidate fallback : String) :
    usableIdentifier candidate fallback = fallback ∨
      isIdentifier (usableIdentifier candidate fallback) = true := by
  unfold usableIdentifier
  split
  · exact .inl rfl
  · have formed := isIdentifierForm_identifierForm candidate.toList
    split
    · exact .inl rfl
    · rename_i nonempty
      have form : HasIdentifierForm (String.ofList (identifierForm candidate.toList)) :=
        hasIdentifierForm_ofList (formed.resolve_left nonempty)
      refine .inr ?_
      rw [isIdentifier, Bool.and_eq_true, Bool.not_eq_true']
      dsimp only
      split
      · exact ⟨form.underscore, isReservedWord_eq_false_of_mem (c := '_') (by simp) rfl⟩
      · rename_i free
        exact ⟨form, Bool.eq_false_iff.2 free⟩

theorem hasIdentifierForm_of_isIdentifier
    {name : String}
    (usable : isIdentifier name = true) :
    HasIdentifierForm name :=
  (Bool.and_eq_true_iff.1 usable).1

/-- A usable identifier with an identifier as its fallback is an identifier. -/
theorem hasIdentifierForm_usableIdentifier
    (candidate : String)
    {fallback : String}
    (form : HasIdentifierForm fallback) :
    HasIdentifierForm (usableIdentifier candidate fallback) := by
  rcases usableIdentifier_eq_or_isIdentifier candidate fallback with equal | usable
  · rw [equal]
    exact form
  · exact hasIdentifierForm_of_isIdentifier usable

/-- A usable identifier is an identifier and no keyword. -/
theorem isIdentifier_usableIdentifier
    (candidate : String)
    {fallback : String}
    (usable : isIdentifier fallback = true) :
    isIdentifier (usableIdentifier candidate fallback) = true := by
  rcases usableIdentifier_eq_or_isIdentifier candidate fallback with equal | made
  · rw [equal]
    exact usable
  · exact made

/-! ## Numbered names -/

theorem continuesIdentifier_of_mem_toString
    {number : Nat}
    {c : Char}
    (member : c ∈ (toString number).toList) :
    Text.continuesIdentifier c = true := by
  rw [Nat.toString_eq_repr, Nat.toList_repr] at member
  exact continuesIdentifier_of_isDigit
    (Nat.isDigit_of_mem_toDigits (by decide) (by decide) member)

/-- An identifier with a number behind it is an identifier. -/
theorem HasIdentifierForm.appendNumber
    {name : String}
    (form : HasIdentifierForm name)
    (number : Nat) :
    HasIdentifierForm (name ++ toString number) := by
  rw [HasIdentifierForm, String.toList_append]
  exact isIdentifierForm_append form fun _ => continuesIdentifier_of_mem_toString

theorem HasIdentifierForm.append
    {first second : String}
    (form : HasIdentifierForm first)
    (continued : HasIdentifierForm second) :
    HasIdentifierForm (first ++ second) := by
  rw [HasIdentifierForm, String.toList_append]
  exact isIdentifierForm_append form fun _ => continuesIdentifier_of_mem continued

theorem hasIdentifierForm_numbered
    {base : String}
    (form : HasIdentifierForm base)
    (number : Nat) :
    HasIdentifierForm (numbered base number) := by
  cases number with
  | zero => exact form
  | succ number =>
      have marked : HasIdentifierForm (base ++ "_") := form.append (by decide)
      exact marked.appendNumber (number + 1)

theorem firstFree_eq_numbered (taken : String → Bool) (bound : Nat) (base : String) :
    ∃ number, firstFree taken bound base = numbered base number := by
  unfold firstFree
  split
  · exact ⟨_, rfl⟩
  · exact ⟨_, rfl⟩

/-- The base of a unique name is an identifier when the wanted name is one. -/
theorem hasIdentifierForm_baseName
    {wanted : String}
    (form : HasIdentifierForm wanted)
    (hint : Nat) :
    HasIdentifierForm (baseName wanted hint) := by
  unfold baseName
  split
  · exact HasIdentifierForm.appendNumber (by decide) hint
  · exact form

/-- A unique name for an identifier is an identifier. -/
theorem hasIdentifierForm_chooseName
    {wanted : String}
    (form : HasIdentifierForm wanted)
    (used : NameSet)
    (hint : Nat) :
    HasIdentifierForm (chooseName wanted used hint).1 := by
  obtain ⟨number, chosen⟩ :=
    firstFree_eq_numbered used.contains used.size (baseName wanted hint)
  simp only [chooseName, chosen]
  exact hasIdentifierForm_numbered (hasIdentifierForm_baseName form hint) number

/-- A unique name for an identifier is an identifier, also when case is ignored. -/
theorem hasIdentifierForm_chooseNameIgnoringCase
    {wanted : String}
    (form : HasIdentifierForm wanted)
    (used : NameSet)
    (hint : Nat) :
    HasIdentifierForm (chooseNameIgnoringCase wanted used hint).1 := by
  obtain ⟨number, chosen⟩ :=
    firstFree_eq_numbered (fun name => used.contains (Text.foldCase name)) used.size
      (baseName wanted hint)
  simp only [chooseNameIgnoringCase, chosen]
  exact hasIdentifierForm_numbered (hasIdentifierForm_baseName form hint) number

/-! ## Identifiers that stay as they are -/

/-- The blank characters. -/
def blankCharacters : List Char :=
  [0x9, 0xA, 0xB, 0xC, 0xD, 0x20, 0x85, 0xA0, 0x1680, 0x2000, 0x2001, 0x2002, 0x2003, 0x2004,
    0x2005, 0x2006, 0x2007, 0x2008, 0x2009, 0x200A, 0x2028, 0x2029, 0x202F, 0x205F,
    0x3000].map Char.ofNat

theorem mem_blankCharacters_of_isBlank
    {c : Char}
    (blank : Text.isBlank c = true) :
    c ∈ blankCharacters := by
  rw [← Char.ofNat_toNat c]
  refine List.mem_map_of_mem ?_
  simp only [Text.isBlank, Bool.or_eq_true, Bool.and_eq_true, decide_eq_true_eq, beq_iff_eq]
    at blank
  simp only [List.mem_cons, List.not_mem_nil, or_false]
  omega

/-- Identifiers hold no blank character. -/
theorem isBlank_eq_false_of_continuesIdentifier
    {c : Char}
    (continued : Text.continuesIdentifier c = true) :
    Text.isBlank c = false := by
  have apart : blankCharacters.all (fun blank => !Text.continuesIdentifier blank) = true := by
    decide +kernel
  rw [Bool.eq_false_iff]
  intro blank
  have other := List.all_eq_true.1 apart c (mem_blankCharacters_of_isBlank blank)
  rw [continued] at other
  cases other

theorem isBlankText_eq_false
    {name : String}
    (form : HasIdentifierForm name) :
    Text.isBlankText name = false := by
  rw [HasIdentifierForm] at form
  rw [Text.isBlankText]
  cases characters : name.toList with
  | nil =>
      rw [characters] at form
      cases form
  | cons c rest =>
      have continued := continuesIdentifier_of_mem form (c := c) (by simp [characters])
      rw [List.all_cons, isBlank_eq_false_of_continuesIdentifier continued]
      rfl

/-- The identifier form of an identifier is the identifier itself. -/
theorem identifierForm_of_isIdentifierForm
    {characters : List Char}
    (form : isIdentifierForm characters = true) :
    identifierForm characters = characters := by
  cases characters with
  | nil => cases form
  | cons c rest =>
      simp only [isIdentifierForm, Bool.and_eq_true, List.all_eq_true] at form
      have kept : ∀ d ∈ rest, continuation d = d := fun d member => if_pos (form.2 d member)
      rw [identifierForm, if_pos form.1, List.map_congr_left kept, List.map_id']

/-- An identifier that is no keyword is used as it is. -/
theorem usableIdentifier_of_isIdentifier
    {name : String}
    (usable : isIdentifier name = true)
    (fallback : String) :
    usableIdentifier name fallback = name := by
  rw [isIdentifier, Bool.and_eq_true, Bool.not_eq_true'] at usable
  obtain ⟨form, free⟩ := usable
  have notBlank := isBlankText_eq_false form
  rw [usableIdentifier, notBlank, if_neg Bool.false_ne_true,
    identifierForm_of_isIdentifierForm form]
  split
  · rename_i empty
    rw [empty] at form
    cases form
  · dsimp only
    rw [String.ofList_toList, free, if_neg Bool.false_ne_true]

/-! ## Names that are no keywords -/

/-- An identifier with a number behind it is no keyword. -/
theorem isIdentifier_appendNumber
    {name : String}
    (form : HasIdentifierForm name)
    (number : Nat) :
    isIdentifier (name ++ toString number) = true := by
  have nonempty : Nat.toDigits 10 number ≠ [] := Nat.toDigits_ne_nil
  obtain ⟨c, inNumber⟩ := List.exists_mem_of_ne_nil _ nonempty
  have digit : c.isDigit = true := Nat.isDigit_of_mem_toDigits (by decide) (by decide) inNumber
  have inside : c ∈ (name ++ toString number).toList := by
    rw [String.toList_append, Nat.toString_eq_repr, Nat.toList_repr]
    exact List.mem_append_right _ inNumber
  have foreign : c.isLower = false := by
    simp only [Char.isDigit, Bool.and_eq_true, decide_eq_true_eq] at digit
    have above : ¬ 'a'.val ≤ c.val := fun lower =>
      absurd (UInt32.le_trans lower digit.2) (by decide)
    exact Bool.and_eq_false_imp.2 fun lower => absurd (of_decide_eq_true lower) above
  rw [isIdentifier, isReservedWord_eq_false_of_mem inside foreign, Bool.and_eq_true]
  exact ⟨form.appendNumber number, rfl⟩

/-- A number behind an underscore keeps a name an identifier that is no keyword. -/
theorem isIdentifier_underscoreNumber
    {name : String}
    (usable : isIdentifier name = true)
    (number : Nat) :
    isIdentifier (name ++ "_" ++ toString number) = true := by
  exact isIdentifier_appendNumber
    ((hasIdentifierForm_of_isIdentifier usable).append (by decide)) number

theorem isIdentifier_numbered
    {base : String}
    (usable : isIdentifier base = true)
    (number : Nat) :
    isIdentifier (numbered base number) = true := by
  cases number with
  | zero => exact usable
  | succ number => exact isIdentifier_underscoreNumber usable (number + 1)

/-- A name that can be used is wanted as it is. -/
theorem baseName_of_isIdentifier
    {wanted : String}
    (usable : isIdentifier wanted = true)
    (hint : Nat) :
    baseName wanted hint = wanted := by
  rw [baseName, if_neg]
  intro empty
  obtain rfl := String.isEmpty_iff.1 empty
  cases usable

/-- A unique name for an identifier is an identifier and no keyword. -/
theorem isIdentifier_chooseName
    {wanted : String}
    (usable : isIdentifier wanted = true)
    (used : NameSet)
    (hint : Nat) :
    isIdentifier (chooseName wanted used hint).1 = true := by
  obtain ⟨number, chosen⟩ := firstFree_eq_numbered used.contains used.size wanted
  simp only [chooseName, baseName_of_isIdentifier usable, chosen]
  exact isIdentifier_numbered usable number

/-- A unique name for an identifier is an identifier and no keyword, also when case is
ignored. -/
theorem isIdentifier_chooseNameIgnoringCase
    {wanted : String}
    (usable : isIdentifier wanted = true)
    (used : NameSet)
    (hint : Nat) :
    isIdentifier (chooseNameIgnoringCase wanted used hint).1 = true := by
  obtain ⟨number, chosen⟩ :=
    firstFree_eq_numbered (fun name => used.contains (Text.foldCase name)) used.size wanted
  simp only [chooseNameIgnoringCase, baseName_of_isIdentifier usable, chosen]
  exact isIdentifier_numbered usable number

/-! ## Dotted names -/

theorem dot_not_mem_of_identifierForm
    {characters : List Char}
    (form : isIdentifierForm characters = true) :
    '.' ∉ characters := by
  intro member
  have continued := continuesIdentifier_of_mem form member
  revert continued
  decide

/-- An identifier is a dotted name. -/
theorem HasIdentifierForm.isDottedName
    {name : String}
    (form : HasIdentifierForm name) :
    IsDottedName name := by
  intro segment member
  rw [Text.splitAt_of_not_mem (dot_not_mem_of_identifierForm form)] at member
  rw [List.mem_singleton.1 member]
  exact form

/-- Identifiers with dots between neighbours are cut at the dots. -/
theorem splitAt_dot_intercalate
    {segments : List String}
    (nonempty : segments ≠ [])
    (forms : ∀ segment ∈ segments, HasIdentifierForm segment) :
    Text.splitAt '.' (".".intercalate segments).toList = segments.map String.toList := by
  have absent : ∀ piece ∈ segments.map String.toList, '.' ∉ piece := by
    intro piece member
    obtain ⟨segment, inSegments, rfl⟩ := List.mem_map.1 member
    exact dot_not_mem_of_identifierForm (forms segment inSegments)
  have joined : (".".intercalate segments).toList =
      ['.'].intercalate (segments.map String.toList) := String.toList_intercalate
  rw [joined, Text.splitAt_intercalate (by simpa using nonempty) absent]

/-- Identifiers with dots between neighbours make a dotted name. -/
theorem isDottedName_intercalate
    {segments : List String}
    (nonempty : segments ≠ [])
    (forms : ∀ segment ∈ segments, HasIdentifierForm segment) :
    IsDottedName (".".intercalate segments) := by
  rw [IsDottedName, splitAt_dot_intercalate nonempty forms]
  intro piece member
  obtain ⟨segment, inSegments, rfl⟩ := List.mem_map.1 member
  exact forms segment inSegments

/-- A dotted name with one more identifier behind a dot is a dotted name. -/
theorem IsDottedName.below
    {name : String}
    {segment : List Char}
    (dotted : IsDottedName name)
    (form : isIdentifierForm segment = true) :
    IsDottedName (name ++ String.ofList ('.' :: segment)) := by
  intro piece member
  rw [String.toList_append, String.toList_ofList, Text.splitAt_append_separator,
    Text.splitAt_of_not_mem (dot_not_mem_of_identifierForm form)] at member
  rcases List.mem_append.1 member with inName | inSegment
  · exact dotted piece inName
  · rw [List.mem_singleton.1 inSegment]
    exact form

/-- Segments of a namespace are identifiers that are no keywords. -/
theorem isIdentifier_of_mem_namespaceSegments
    {candidate segment : String}
    (member : segment ∈ namespaceSegments candidate) :
    isIdentifier segment = true := by
  obtain ⟨inSegments, nonempty⟩ := List.mem_filter.1 member
  obtain ⟨piece, _, rfl⟩ := List.mem_map.1 inSegments
  rcases usableIdentifier_eq_or_isIdentifier (String.ofList piece) "" with empty | usable
  · rw [empty] at nonempty
    cases nonempty
  · exact usable

/-- A usable namespace is a dotted name when its fallback is one. -/
theorem isDottedName_usableNamespace
    (candidate : String)
    {fallback : String}
    (dotted : IsDottedName fallback) :
    IsDottedName (usableNamespace candidate fallback) := by
  unfold usableNamespace
  split
  · exact dotted
  · rename_i nonempty
    exact isDottedName_intercalate nonempty fun _ member =>
      hasIdentifierForm_of_isIdentifier (isIdentifier_of_mem_namespaceSegments member)

/-- A dotted name holds dots and characters of identifiers. -/
theorem IsDottedName.mem
    {name : String}
    (dotted : IsDottedName name)
    {c : Char}
    (member : c ∈ name.toList) :
    c = '.' ∨ Text.continuesIdentifier c = true := by
  by_cases dot : c = '.'
  · exact .inl dot
  · obtain ⟨segment, inName, inside⟩ := Text.exists_piece_of_mem member dot
    exact .inr (continuesIdentifier_of_mem (dotted segment inName) inside)

end Source
end QuestMod
