import QuestMod.Proofs.Source.Outline

/-!
# Declarations in outlines

A member of a class is a statement on the outermost level of the class body, with the block
behind it. Its name is the last word in front of a parenthesis, an equality sign or a
semicolon. As long as no two members have one name, a reader who goes for a name finds the
statement and the block of its member.
-/

namespace QuestMod
namespace Source

/-! ## Finding a statement -/

/-- The outline from the first wanted statement of its outermost level. -/
def foundFrom (wanted : String → Bool) (statements : List Statement) : List Statement :=
  statements.dropWhile fun statement => !(statement.depth == 0 && wanted statement.text)

/-- The first wanted statement of the outermost level. -/
def headOf? (wanted : String → Bool) (statements : List Statement) : Option String :=
  (foundFrom wanted statements).head?.map Statement.text

/-- The block behind the first wanted statement of the outermost level. -/
def blockOf (wanted : String → Bool) (statements : List Statement) : List Statement :=
  ((foundFrom wanted statements).tail.takeWhile (·.depth != 0)).map Statement.fromInside

/-- The outline is empty or begins on its outermost level. -/
def BeginsFlush (statements : List Statement) : Prop :=
  ∀ statement ∈ statements.head?, statement.depth = 0

theorem beginsFlush_nil : BeginsFlush [] := by
  intro statement first
  cases first

section

variable {wanted : String → Bool} {front behind : List Statement} {text : String}
  (absent : ∀ statement ∈ front, statement.depth = 0 → wanted statement.text = false)
  (isWanted : wanted text = true)
  (body : List Statement)

include absent isWanted

theorem foundFrom_append_cons (rest : List Statement) :
    foundFrom wanted (front ++ ⟨0, text⟩ :: rest) = ⟨0, text⟩ :: rest := by
  have passed : ∀ statement ∈ front,
      (!(statement.depth == 0 && wanted statement.text)) = true := by
    intro statement member
    rw [Bool.not_eq_true', Bool.and_eq_false_iff, beq_eq_false_iff_ne]
    by_cases outermost : statement.depth = 0
    · exact .inr (absent statement member outermost)
    · exact .inl outermost
  rw [foundFrom, List.dropWhile_append_of_pos passed,
    List.dropWhile_cons_of_neg (by simp [isWanted])]

theorem headOf?_append_cons (rest : List Statement) :
    headOf? wanted (front ++ ⟨0, text⟩ :: rest) = some text := by
  rw [headOf?, foundFrom_append_cons absent isWanted]
  rfl

/-- The block behind a statement ends where its level goes on. -/
theorem blockOf_append_cons (flush : BeginsFlush behind) :
    blockOf wanted (front ++ ⟨0, text⟩ :: (body.map (Statement.inside 1) ++ behind)) = body := by
  have deeper : ∀ statement ∈ body.map (Statement.inside 1), (statement.depth != 0) = true := by
    intro statement member
    obtain ⟨inner, _, rfl⟩ := List.mem_map.1 member
    exact bne_iff_ne.2 inner.depth_inside_one_ne_zero
  have ended : behind.takeWhile (·.depth != 0) = [] := by
    cases behind with
    | nil => rfl
    | cons statement rest =>
        have outermost : statement.depth = 0 := flush statement rfl
        exact List.takeWhile_cons_of_neg (by simp [outermost])
  have same : Statement.fromInside ∘ Statement.inside 1 = id :=
    funext Statement.fromInside_inside_one
  rw [blockOf, foundFrom_append_cons absent isWanted, List.tail_cons,
    List.takeWhile_append_of_pos deeper, ended, List.append_nil, List.map_map, same, List.map_id]

end

/-! ## Names -/

/-- The character stands behind a declared name. -/
def endsName (c : Char) : Bool :=
  c == '(' || c == '=' || c == ';'

/-- The name that a statement of a class body declares. An attribute declares none. -/
def declaredName? (text : String) : Option String :=
  if text.toList.head? = some '[' then none
  else
    some <| String.ofList
      ((((text.toList.takeWhile fun c => !endsName c).reverse.dropWhile (· == ' ')).takeWhile
        (· != ' ')).reverse)

/-- The statement declares the name. -/
def declares (name text : String) : Bool :=
  declaredName? text == some name

/-- The names declared on the outermost level, in their order. -/
def namesDeclared (statements : List Statement) : List String :=
  statements.filterMap fun statement =>
    if statement.depth = 0 then declaredName? statement.text else none

theorem namesDeclared_append (first second : List Statement) :
    namesDeclared (first ++ second) = namesDeclared first ++ namesDeclared second :=
  List.filterMap_append

theorem namesDeclared_inside (statements : List Statement) :
    namesDeclared (statements.map (Statement.inside 1)) = [] := by
  rw [namesDeclared, List.filterMap_map, List.filterMap_eq_nil_iff]
  intro statement _
  exact if_neg statement.depth_inside_one_ne_zero

/-- Nothing of an identifier ends a name or parts words. -/
theorem endsName_of_continues
    {c : Char}
    (continues : Text.continuesIdentifier c = true) :
    endsName c = false ∧ c ≠ ' ' := by
  constructor
  · rw [Bool.eq_false_iff]
    intro ends
    simp only [endsName, Bool.or_eq_true, beq_iff_eq] at ends
    rcases ends with (rfl | rfl) | rfl <;> exact absurd continues (by decide)
  · rintro rfl
    exact absurd continues (by decide)

theorem all_not_endsName
    {name : String}
    (form : HasIdentifierForm name) :
    (name.toList.all fun c => !endsName c) = true := by
  refine List.all_eq_true.2 fun c member => ?_
  rw [(endsName_of_continues (continuesIdentifier_of_mem form member)).1]
  rfl

/-- A statement declares the identifier behind its last space, when nothing in front of the
identifier ends a name and the next thing behind it does. -/
theorem declaredName?_of_toList_eq
    {text name : String}
    (form : HasIdentifierForm name)
    (front tail : List Char)
    (spelled : text.toList = front ++ ' ' :: (name.toList ++ tail))
    (plain : front.all (fun c => !endsName c) = true)
    (noAttribute : front.head? ≠ some '[')
    (ended : ((tail.takeWhile fun c => !endsName c).all (· == ' ')) = true) :
    declaredName? text = some name := by
  have named : ∀ c ∈ ' ' :: name.toList, (!endsName c) = true :=
    List.forall_mem_cons.2 ⟨by decide, List.all_eq_true.1 (all_not_endsName form)⟩
  have opens : text.toList.head? ≠ some '[' := by
    rw [spelled]
    cases front with
    | nil => exact fun same => absurd (Option.some.inj same) (by decide)
    | cons c rest => exact noAttribute
  have read : text.toList.takeWhile (fun c => !endsName c) =
      front ++ ' ' :: (name.toList ++ tail.takeWhile fun c => !endsName c) := by
    rw [spelled, List.takeWhile_append_of_pos (List.all_eq_true.1 plain), ← List.cons_append,
      List.takeWhile_append_of_pos named, List.cons_append]
  have blanks : ∀ c ∈ (tail.takeWhile fun c => !endsName c).reverse, (c == ' ') = true :=
    fun c member => List.all_eq_true.1 ended c (List.mem_reverse.1 member)
  have letters : ∀ c ∈ name.toList.reverse, (c != ' ') = true := fun c member =>
    bne_iff_ne.2 (endsName_of_continues
      (continuesIdentifier_of_mem form (List.mem_reverse.1 member))).2
  have stripped : (name.toList.reverse ++ ' ' :: front.reverse).dropWhile (· == ' ') =
      name.toList.reverse ++ ' ' :: front.reverse := by
    cases spelledBack : name.toList.reverse with
    | nil =>
        rw [List.reverse_eq_nil_iff] at spelledBack
        rw [HasIdentifierForm, spelledBack] at form
        cases form
    | cons c rest =>
        have letter := letters c (spelledBack ▸ List.mem_cons_self)
        exact List.dropWhile_cons_of_neg (by simpa using letter)
  have reversed : (front ++ ' ' :: (name.toList ++ tail.takeWhile fun c => !endsName c)).reverse =
      (tail.takeWhile fun c => !endsName c).reverse ++
        (name.toList.reverse ++ ' ' :: front.reverse) := by
    simp
  rw [declaredName?, if_neg opens, read, reversed, List.dropWhile_append_of_pos blanks, stripped,
    List.takeWhile_append_of_pos letters, List.takeWhile_cons_of_neg (by decide), List.append_nil,
    List.reverse_reverse, String.ofList_toList]

/-- The name that a statement with these characters declares. -/
def declaredIn? (characters : List Char) : Option (List Char) :=
  if characters.head? = some '[' then none
  else
    some ((((characters.takeWhile fun c => !endsName c).reverse.dropWhile (· == ' ')).takeWhile
      (· != ' ')).reverse)

theorem declaredName?_eq (text : String) :
    declaredName? text = (declaredIn? text.toList).map String.ofList := by
  unfold declaredName? declaredIn?
  split <;> rfl

/-- A fixed statement declares what its characters do. -/
theorem declaredName?_ofList
    {characters name : List Char}
    (named : declaredIn? characters = some name) :
    declaredName? (String.ofList characters) = some (String.ofList name) := by
  rw [declaredName?_eq, String.toList_ofList, named, Option.map_some]

/-- What stands behind the end of a name makes no difference. -/
theorem declaredName?_append
    {characters name : List Char}
    (named : declaredIn? characters = some name)
    (ended : characters.any endsName = true)
    (rest : String) :
    declaredName? (String.ofList characters ++ rest) = some (String.ofList name) := by
  have read : (characters ++ rest.toList).takeWhile (fun c => !endsName c) =
      characters.takeWhile fun c => !endsName c := by
    clear named
    induction characters with
    | nil => cases ended
    | cons c others ih =>
        rw [List.cons_append, List.takeWhile_cons, List.takeWhile_cons]
        cases ends : endsName c with
        | true => rfl
        | false =>
            rw [List.any_cons, ends, Bool.false_or] at ended
            rw [ih ended]
  have opens : (characters ++ rest.toList).head? = characters.head? := by
    cases characters with
    | nil => cases ended
    | cons c others => rfl
  rw [declaredIn?] at named
  rw [declaredName?_eq, String.toList_append, String.toList_ofList, declaredIn?, read, opens, named,
    Option.map_some]

theorem declaredName?_fixed
    {characters name : List Char}
    (named : declaredIn? characters = some name)
    (ended : characters.any endsName = true)
    (first second : String) :
    declaredName? (String.ofList characters ++ first ++ second) = some (String.ofList name) := by
  rw [String.append_assoc]
  exact declaredName?_append named ended _

/-! ## Declarations of members -/

/-- What a class body shows of one member: its attributes, the statement that declares it and
the block of the statement. -/
structure Declaration where
  attributes : List String
  head : String
  body : List Statement

/-- The declaration as a part of the outline of the class body. -/
def Declaration.outline (declaration : Declaration) : List Statement :=
  declaration.attributes.map (Statement.mk 0) ++
    ⟨0, declaration.head⟩ :: declaration.body.map (Statement.inside 1)

/-- The member writes the declaration, under its own name. -/
structure Writes (member : Member) (declaration : Declaration) : Prop where
  outlines : Outlines member.steps declaration.outline
  named : declaredName? declaration.head = some member.name
  silent : ∀ text ∈ declaration.attributes, declaredName? text = none

/-- Every member writes a declaration. -/
def AreDeclared (members : List Member) : Prop :=
  ∀ member ∈ members, ∃ declaration, Writes member declaration

namespace Writes

variable {member : Member} {declaration : Declaration} (writes : Writes member declaration)

include writes

theorem namesDeclared_outline : namesDeclared declaration.outline = [member.name] := by
  have attributes : namesDeclared (declaration.attributes.map (Statement.mk 0)) = [] := by
    rw [namesDeclared, List.filterMap_map, List.filterMap_eq_nil_iff]
    intro text inAttributes
    rw [Function.comp_apply, if_pos rfl, writes.silent text inAttributes]
  have head (rest : List Statement) :
      namesDeclared (⟨0, declaration.head⟩ :: rest) = member.name :: namesDeclared rest :=
    List.filterMap_cons_some ((if_pos rfl).trans writes.named)
  rw [Declaration.outline, namesDeclared_append, attributes, head, namesDeclared_inside]
  rfl

omit writes in
theorem beginsFlush_append (rest : List Statement) :
    BeginsFlush (declaration.outline ++ rest) := by
  intro statement first
  rw [Declaration.outline] at first
  cases attributes : declaration.attributes with
  | nil =>
      rw [attributes] at first
      cases first
      rfl
  | cons text others =>
      rw [attributes] at first
      cases first
      rfl

/-- A statement of the attributes is not taken for the member. -/
theorem declares_eq_false
    {statement : Statement}
    (inAttributes : statement ∈ declaration.attributes.map (Statement.mk 0))
    (name : String) :
    declares name statement.text = false := by
  obtain ⟨text, present, rfl⟩ := List.mem_map.1 inAttributes
  refine beq_eq_false_iff_ne.2 fun same => ?_
  cases (writes.silent text present).symm.trans same

end Writes

/-! ## Class bodies -/

section

variable {members : List Member}

/-- Declared members have an outline, which declares their names. -/
theorem exists_outline_of_areDeclared (declared : AreDeclared members) :
    ∃ statements, Outlines (groupSteps members) statements ∧
      namesDeclared statements = members.map Member.name ∧ BeginsFlush statements := by
  induction members with
  | nil => exact ⟨[], .nil, rfl, beginsFlush_nil⟩
  | cons member others ih =>
      obtain ⟨⟨declaration, writes⟩, later⟩ := List.forall_mem_cons.1 declared
      obtain ⟨statements, outlines, names, _⟩ := ih later
      refine ⟨declaration.outline ++ statements, writes.outlines.append outlines, ?_,
        Writes.beginsFlush_append statements⟩
      rw [namesDeclared_append, writes.namesDeclared_outline, names]
      rfl

theorem declaredNames_eq_map (groups : List (List Member)) :
    declaredNames groups = groups.flatten.map Member.name :=
  (List.map_flatten).symm

/-- Blank lines between groups make no difference. -/
theorem codeTexts_bodySteps (groups : List (List Member)) :
    codeTexts (bodySteps groups) = codeTexts (groupSteps groups.flatten) := by
  have joined (first second : List Member) :
      groupSteps (first ++ second) = groupSteps first ++ groupSteps second :=
    List.flatMap_append
  fun_induction bodySteps groups with
  | case1 => rfl
  | case2 group => rw [List.flatten_singleton]
  | case3 group groups _ ih =>
      rw [codeTexts_append, List.flatten_cons, joined, codeTexts_append, ← ih]
      rfl

theorem Outlines.ofGroups
    {groups : List (List Member)}
    {statements : List Statement}
    (outlines : Outlines (groupSteps groups.flatten) statements) :
    Outlines (bodySteps groups) statements := by
  intro depth rest
  rw [codeTexts_bodySteps]
  exact outlines depth rest

variable (declared : AreDeclared members) (distinct : (members.map Member.name).Nodup)
  {member : Member} (present : member ∈ members) {declaration : Declaration}
  (writes : Writes member declaration) {statements : List Statement}
  (outlines : Outlines (groupSteps members) statements)

include declared distinct present writes outlines

/-- The outline of a class body holds the declaration of each member behind those of other
names. -/
theorem exists_outline_around :
    ∃ front behind, statements = front ++
        ⟨0, declaration.head⟩ :: (declaration.body.map (Statement.inside 1) ++ behind) ∧
      (∀ statement ∈ front, statement.depth = 0 →
        declares member.name statement.text = false) ∧
      BeginsFlush behind := by
  obtain ⟨earlier, later, rfl⟩ := List.append_of_mem present
  obtain ⟨inFront, others⟩ := List.forall_mem_append.1 declared
  obtain ⟨front, frontOutlines, frontNames, _⟩ := exists_outline_of_areDeclared inFront
  obtain ⟨behind, behindOutlines, _, flush⟩ :=
    exists_outline_of_areDeclared (List.forall_mem_cons.1 others).2
  have whole : Outlines (groupSteps (earlier ++ member :: later))
      (front ++ (declaration.outline ++ behind)) := by
    rw [groupSteps, List.flatMap_append, List.flatMap_cons]
    exact frontOutlines.append (writes.outlines.append behindOutlines)
  refine ⟨front ++ declaration.attributes.map (Statement.mk 0), behind, ?_, ?_, flush⟩
  · rw [outlines.unique whole, Declaration.outline]
    simp
  · intro statement inFront outermost
    rcases List.mem_append.1 inFront with isEarlier | isAttribute
    · refine beq_eq_false_iff_ne.2 fun same => ?_
      have named : member.name ∈ namesDeclared front :=
        List.mem_filterMap.2 ⟨statement, isEarlier, (if_pos outermost).trans same⟩
      rw [frontNames] at named
      rw [List.map_append, List.map_cons, List.nodup_append] at distinct
      exact distinct.2.2 _ named _ List.mem_cons_self rfl
    · exact writes.declares_eq_false isAttribute member.name

/-- Who goes for the name of a member finds its declaration. -/
theorem headOf?_declares : headOf? (declares member.name) statements = some declaration.head := by
  obtain ⟨front, behind, rfl, absent, _⟩ :=
    exists_outline_around declared distinct present writes outlines
  exact headOf?_append_cons absent (beq_iff_eq.2 writes.named) _

/-- Who goes for the name of a member finds its block. -/
theorem blockOf_declares : blockOf (declares member.name) statements = declaration.body := by
  obtain ⟨front, behind, rfl, absent, flush⟩ :=
    exists_outline_around declared distinct present writes outlines
  exact blockOf_append_cons absent (beq_iff_eq.2 writes.named) declaration.body flush

end

/-! ## Class files -/

/-- The text begins with the words. -/
def beginsWith (words text : String) : Bool :=
  words.toList.isPrefixOf text.toList

theorem beginsWith_append (words rest : String) : beginsWith words (words ++ rest) = true := by
  rw [beginsWith, String.toList_append]
  exact List.isPrefixOf_iff_prefix.2 (List.prefix_append _ _)

/-- The outline of the class in a source: what stands in the block of the first class in the
block of the first namespace. -/
def classBody (source : String) : List Statement :=
  blockOf (beginsWith "public class ") (blockOf (beginsWith "namespace ") (outline source))

theorem outlines_usingSteps (names : List String) :
    Outlines (usingSteps names)
      ((usedNamespaces names).sorted.map fun space => ⟨0, "using " ++ space ++ ";"⟩) :=
  .mapLine fun space _ => ((IsStatement.fixed (by decide)).append space).append ";"

/-- The outline of the class in a class file is that of the class body. -/
theorem classBody_classSteps
    {header documentation body : List Step}
    {usings : List String}
    {space className heritage : String}
    (headerRemarks : AreRemarks header)
    (documentationRemarks : AreRemarks documentation)
    {statements : List Statement}
    (outlines : Outlines body statements)
    (absent : ¬ Shows '\n' (classSteps header usings space documentation
      ("public class " ++ className ++ heritage) body)) :
    classBody (render (classSteps header usings space documentation
      ("public class " ++ className ++ heritage) body)) = statements := by
  have isClass : IsStatement ("public class " ++ className ++ heritage) :=
    ((IsStatement.fixed (by decide)).append className).append heritage
  have isSpace : IsStatement ("namespace " ++ space) := (IsStatement.fixed (by decide)).append space
  have nested : Outlines (documentation ++ block ("public class " ++ className ++ heritage) body)
      (⟨0, "public class " ++ className ++ heritage⟩ :: statements.map (Statement.inside 1)) :=
    (Outlines.ofRemarks documentationRemarks).append (.block isClass outlines)
  have file := ((Outlines.ofRemarks headerRemarks).append (outlines_usingSteps usings)).append
    (.blank (.block isSpace nested))
  have whole := Outlines.outline_render file absent
  have noSpace : ∀ statement ∈ (usedNamespaces usings).sorted.map fun space =>
        (⟨0, "using " ++ space ++ ";"⟩ : Statement),
      statement.depth = 0 → beginsWith "namespace " statement.text = false := by
    intro statement member _
    obtain ⟨space, _, rfl⟩ := List.mem_map.1 member
    rw [beginsWith, String.toList_append, String.toList_append]
    rfl
  have classFound :
      beginsWith "public class " ("public class " ++ className ++ heritage) = true := by
    rw [String.append_assoc]
    exact beginsWith_append _ _
  have inSpace := blockOf_append_cons noSpace (beginsWith_append "namespace " space)
    (⟨0, "public class " ++ className ++ heritage⟩ :: statements.map (Statement.inside 1))
    beginsFlush_nil
  have inClass := blockOf_append_cons (List.forall_mem_nil _) classFound statements beginsFlush_nil
  rw [List.append_nil] at inSpace inClass
  rw [classBody, classSteps, whole]
  exact (congrArg (blockOf _) inSpace).trans inClass

end Source
end QuestMod
