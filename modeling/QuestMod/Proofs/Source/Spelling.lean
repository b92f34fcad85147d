import QuestMod.Proofs.Source.Outline

/-!
# What lines read as

A line is put together from fixed texts, names, numbers and literals. Of each piece it is said
once where it takes a scan, what its code is and which texts it shows in its literals. What is
known about pieces goes over to the line that they make, and a line also has a beginning, by
which a reader knows statements and the lines that state identifiers.
-/

namespace QuestMod
namespace Source

open Text (IsOneLine Occurs Passes lineBreaks)

/-! ## Pieces -/

theorem behind_of_step
    {state next : ScanState}
    {c : Char}
    (steps : state.step c = some next) :
    state.mode.behind c = next.mode := by
  obtain ⟨mode, closers⟩ := state
  cases mode with
  | code =>
      rw [ScanState.step_code] at steps
      unfold codeStep at steps
      by_cases quote : c = '"'
      · subst quote
        cases steps
        rfl
      by_cases slash : c = '/'
      · subst slash
        cases steps
        rfl
      have stays : ScanMode.code.behind c = .code := by
        rw [ScanMode.behind, if_neg quote, if_neg slash]
      rw [stays]
      split at steps
      case h_3 =>
        split at steps
        · obtain ⟨_, same⟩ := Option.ite_none_right_eq_some.1 steps
          rw [← Option.some.inj same]
        · cases steps
      case h_4 marked => exact absurd (eq_quote_of_quote marked) quote
      case h_5 marked => exact absurd (eq_slash_of_slash marked) slash
      all_goals cases steps
      all_goals rfl
  | slash =>
      obtain ⟨isSlash, same⟩ := Option.ite_none_right_eq_some.1 steps
      rw [← Option.some.inj same]
      exact if_pos isSlash
  | comment =>
      rw [← Option.some.inj steps]
      rfl
  | string =>
      simp only [ScanState.step] at steps
      rw [ScanMode.behind]
      split at steps
      · rename_i quote
        cases steps
        exact if_pos quote
      · rename_i noQuote
        rw [if_neg noQuote]
        split at steps
        · rename_i backslash
          cases steps
          exact if_pos backslash
        · rename_i noBackslash
          obtain ⟨_, same⟩ := Option.ite_none_left_eq_some.1 steps
          rw [if_neg noBackslash, ← Option.some.inj same]
  | escape =>
      rw [← Option.some.inj steps]
      rfl

/-- A reader of code is inside of the same thing as a scan. -/
theorem modeBehind_of_scan
    {before after : ScanState}
    {characters : List Char}
    (scans : scan before characters = some after) :
    modeBehind before.mode characters = after.mode := by
  induction characters generalizing before with
  | nil =>
      cases scans
      rfl
  | cons c rest ih =>
      obtain ⟨next, steps, later⟩ := Option.bind_eq_some_iff.1 scans
      rw [modeBehind_cons, behind_of_step steps]
      exact ih later

/-- The text takes a scan from one state to another. Its code is the second text, and of the
listed texts it shows the line ends that have no escape, and no other line ends. -/
structure Spells (before : ScanState) (text code : String) (texts : List String)
    (after : ScanState) : Prop where
  scans : scanText (some before) text = some after
  seen : bareFrom before.mode text.toList = code.toList
  occurs_iff : ∀ c ∈ lineBreaks, (Occurs c text ↔ ∃ shown ∈ texts, Passes c shown)

/-- The character is its own code, and ends no line. -/
def isPlain (c : Char) : Bool :=
  c != '"' && c != '/' && !lineBreaks.contains c

theorem isOneLine_of_all
    {characters : List Char}
    (oneLine : characters.all (fun c => !lineBreaks.contains c) = true) :
    ∀ c ∈ lineBreaks, (Occurs c (String.ofList characters) ↔ ∃ shown ∈ ([] : List String),
      Passes c shown) := by
  intro c isBreak
  simp [Text.not_occurs_fixed isBreak oneLine]

namespace Spells

variable {before middle after : ScanState} {opened : List Char}

theorem ends
    {text code : String}
    {texts : List String}
    (spells : Spells before text code texts after) :
    modeBehind before.mode text.toList = after.mode :=
  modeBehind_of_scan spells.scans

/-- Open brackets around a text that closes what it opens make no difference. -/
theorem inside
    {text code : String}
    {texts : List String}
    (spells : Spells ⟨.code, []⟩ text code texts ⟨.code, []⟩) :
    Spells ⟨.code, opened⟩ text code texts ⟨.code, opened⟩ where
  scans := scan_inside spells.scans opened
  seen := spells.seen
  occurs_iff := spells.occurs_iff

/-- Between two places in the code, the text is a piece of a line. -/
theorem reads
    {text code : String}
    {texts : List String}
    {closers : List Char}
    (spells : Spells ⟨.code, opened⟩ text code texts ⟨.code, closers⟩) :
    Reads text code where
  seen := spells.seen
  ends := spells.ends
  oneLine member := by
    obtain ⟨shown, _, unicode, _⟩ := (spells.occurs_iff '\n' (by decide)).1 member
    exact absurd unicode (by decide)

theorem append
    {first second firstCode secondCode : String}
    {firstTexts secondTexts : List String}
    (front : Spells before first firstCode firstTexts middle)
    (back : Spells middle second secondCode secondTexts after) :
    Spells before (first ++ second) (firstCode ++ secondCode) (firstTexts ++ secondTexts)
      after where
  scans := by
    rw [scanText_append, front.scans, back.scans]
  seen := by
    rw [String.toList_append, bareFrom_append, front.seen, front.ends, back.seen,
      String.toList_append]
  occurs_iff c isBreak := by
    rw [Text.occurs_append, front.occurs_iff c isBreak, back.occurs_iff c isBreak]
    simp only [List.mem_append, or_and_right, exists_or]

/-- A fixed text of one line. -/
theorem quoted
    {characters code : List Char}
    (scans : scan before characters = some after)
    (seen : bareFrom before.mode characters = code)
    (oneLine : characters.all (fun c => !lineBreaks.contains c) = true) :
    Spells before (String.ofList characters) (String.ofList code) [] after where
  scans := by
    rw [scanText_some, String.toList_ofList, scans]
  seen := by
    rw [String.toList_ofList, String.toList_ofList, seen]
  occurs_iff := isOneLine_of_all oneLine

/-- A fixed text without literals and comments is its own code. -/
theorem fixed
    {characters : List Char}
    (scans : scan ⟨.code, opened⟩ characters = some after)
    (plain : characters.all isPlain = true) :
    Spells ⟨.code, opened⟩ (String.ofList characters) (String.ofList characters) [] after := by
  have each : ∀ c ∈ characters, (c ≠ '"' ∧ c ≠ '/') ∧ c ∉ lineBreaks := by
    intro c member
    simpa [isPlain] using List.all_eq_true.1 plain c member
  refine quoted scans (read_plain fun c member => (each c member).1).1 ?_
  exact List.all_eq_true.2 fun c member => by simp [(each c member).2]

/-- A word of one line is its own code. -/
theorem word
    {text : String}
    (isWord : IsWord text)
    (oneLine : IsOneLine text) :
    Spells ⟨.code, opened⟩ text text [] ⟨.code, opened⟩ where
  scans := isWord.isCode opened
  seen := (Reads.word isWord oneLine).seen
  occurs_iff c isBreak := by simp [oneLine c isBreak]

theorem name
    {text : String}
    (form : HasIdentifierForm text) :
    Spells ⟨.code, opened⟩ text text [] ⟨.code, opened⟩ :=
  word form.isWord form.isOneLine

theorem number (number : Nat) :
    Spells ⟨.code, opened⟩ (toString number) (toString number) [] ⟨.code, opened⟩ :=
  word (isWord_toString_nat number) (isOneLine_repr number)

theorem vector (location : Blueprint.Location) :
    Spells ⟨.code, opened⟩ (vectorLiteral location) (vectorLiteral location) []
      ⟨.code, opened⟩ := by
  have single (value : Number.Single) {inner : List Char} :
      Spells ⟨.code, inner⟩ (singleLiteral value) (singleLiteral value) [] ⟨.code, inner⟩ :=
    word (isWord_singleLiteral value) (isOneLine_singleLiteral value)
  unfold vectorLiteral
  exact ((((((fixed (by rfl) (by decide)).append (single _)).append
    (fixed (by rfl) (by decide))).append (single _)).append
      (fixed (by rfl) (by decide))).append (single _)).append (fixed (by rfl) (by decide))

/-- The body of a literal shows its text, and is no code. -/
theorem body (text : String) :
    Spells ⟨.string, opened⟩ (Text.literal text) "" [text] ⟨.string, opened⟩ where
  scans := scanText_literal opened text
  seen := by
    rw [Text.literal, String.toList_ofList]
    exact (read_literalBody text.toList).1
  occurs_iff c isBreak := by simp [Text.occurs_literal isBreak]

/-- A literal is empty for a reader of code, and shows its text. -/
theorem literal (text : String) :
    Spells ⟨.code, opened⟩ (Text.stringLiteral text) "\"\"" [text] ⟨.code, opened⟩ := by
  have empty : "\"" ++ "" ++ "\"" = "\"\"" := by decide
  rw [← empty]
  exact ((quoted (by rfl) (by rfl) (by decide)).append (body text)).append
    (quoted (by rfl) (by rfl) (by decide))

/-- An identifier inside of a literal. -/
theorem quotedName
    {text : String}
    (form : HasIdentifierForm text) :
    Spells ⟨.string, opened⟩ text "" [] ⟨.string, opened⟩ where
  scans := form.scan_string opened
  seen := by
    have hidden : ∀ characters : List Char,
        (∀ c ∈ characters, Text.continuesIdentifier c = true) →
          bareFrom .string characters = [] := by
      intro characters
      induction characters with
      | nil => exact fun _ => rfl
      | cons c rest ih =>
          intro continues
          obtain ⟨first, later⟩ := List.forall_mem_cons.1 continues
          have notQuote : c ≠ '"' := by
            rintro rfl
            exact absurd first (by decide)
          have notBackslash : c ≠ '\\' := by
            rintro rfl
            exact absurd first (by decide)
          have stays : ScanMode.string.behind c = .string := by
            rw [ScanMode.behind, if_neg notQuote, if_neg notBackslash]
          have unseen : ScanMode.string.sees c = false := beq_eq_false_iff_ne.2 notQuote
          rw [bareFrom, unseen, stays, ih later]
          rfl
    exact hidden _ fun _ => continuesIdentifier_of_mem form
  occurs_iff c isBreak := by simp [form.isOneLine c isBreak]

/-- Pieces with commas between them. -/
theorem commaList
    {α : Type}
    {items : List α}
    {textOf codeOf : α → String}
    {textsOf : α → List String}
    (each : ∀ item ∈ items,
      Spells ⟨.code, opened⟩ (textOf item) (codeOf item) (textsOf item) ⟨.code, opened⟩) :
    Spells ⟨.code, opened⟩ (", ".intercalate (items.map textOf))
      (", ".intercalate (items.map codeOf)) (items.flatMap textsOf) ⟨.code, opened⟩ := by
  induction items with
  | nil => exact fixed rfl rfl
  | cons first rest ih =>
      obtain ⟨spells, others⟩ := List.forall_mem_cons.1 each
      cases rest with
      | nil => simpa using spells
      | cons second more =>
          have comma : Spells ⟨.code, opened⟩ ", " ", " [] ⟨.code, opened⟩ :=
            fixed (by rfl) (by decide)
          have listed := (spells.append comma).append (ih others)
          rw [List.append_nil] at listed
          rw [List.map_cons, List.map_cons, List.map_cons, List.map_cons,
            String.intercalate_cons_cons, String.intercalate_cons_cons, List.flatMap_cons]
          exact listed

/-- Texts that are their own code, with commas between them, are their own code. -/
theorem commas
    {items : List String}
    (each : ∀ item ∈ items, Spells ⟨.code, opened⟩ item item [] ⟨.code, opened⟩) :
    Spells ⟨.code, opened⟩ (", ".intercalate items) (", ".intercalate items) []
      ⟨.code, opened⟩ := by
  have listed : Spells ⟨.code, opened⟩ (", ".intercalate (items.map id))
      (", ".intercalate (items.map id)) (items.flatMap fun _ => []) ⟨.code, opened⟩ :=
    commaList each
  have nothing : (items.flatMap fun _ => ([] : List String)) = [] := by simp
  rwa [List.map_id, nothing] at listed

end Spells

/-! ## Beginnings of lines -/

/-- A fixed text begins like a statement and departs from the beginnings of marked lines. -/
def opensLine (characters : List Char) : Bool :=
  (characters.head?.any fun c => !([' ', '/', '\x7b', '\x7d'] : List Char).contains c) &&
    idFronts.all (departs · characters)

/-- A fixed text without literals and comments that begins a line. -/
def isFixedFront (characters : List Char) : Bool :=
  characters.all isPlain && opensLine characters

/-- The text is the beginning of a line. Whatever follows, the line holds a statement and has
none of the marks of identifiers. -/
structure Begins (text code : String) (texts : List String) (after : ScanState) : Prop
    extends Spells ⟨.code, []⟩ text code texts after where
  isStatement : IsStatement text
  unmarked : ∀ mark ∈ idMarks, ∀ rest, mark.value? (text ++ rest) = none

namespace Begins

variable {middle after : ScanState} {code : String} {texts : List String}

theorem front
    {characters : List Char}
    (spells : Spells ⟨.code, []⟩ (String.ofList characters) code texts after)
    (opens : opensLine characters = true) :
    Begins (String.ofList characters) code texts after := by
  rw [opensLine, Bool.and_eq_true] at opens
  obtain ⟨visible, apart⟩ := opens
  cases characters with
  | nil => cases visible
  | cons c rest =>
      have isVisible : c ∉ [' ', '/', '\x7b', '\x7d'] := by
        simpa using visible
      have flush : (c :: rest).head? ≠ some ' ' := by
        intro same
        rw [List.head?_cons, Option.some.injEq] at same
        exact isVisible (same ▸ List.mem_cons_self)
      exact ⟨spells, .fixed isVisible, fun mark marked => value?_fixed_append marked flush apart⟩

theorem fixed
    {characters : List Char}
    (scans : scan ⟨.code, []⟩ characters = some after)
    (isFront : isFixedFront characters = true) :
    Begins (String.ofList characters) (String.ofList characters) [] after := by
  rw [isFixedFront, Bool.and_eq_true] at isFront
  exact front (.fixed scans isFront.1) isFront.2

/-- A line that begins with a name is known by what stands behind the name. -/
theorem name
    {text : String}
    (form : HasIdentifierForm text)
    {tail : List Char}
    (spells : Spells ⟨.code, []⟩ (String.ofList tail) code texts after)
    (apart : idFronts.all (departsBehindWord · tail) = true) :
    Begins (text ++ String.ofList tail) (text ++ code) texts after where
  toSpells := (Spells.name form).append spells
  isStatement := (IsStatement.name form).append _
  unmarked mark marked rest := by
    rw [String.append_assoc]
    exact value?_name_append marked form apart rest

theorem append
    {first second firstCode secondCode : String}
    {firstTexts secondTexts : List String}
    (begins : Begins first firstCode firstTexts middle)
    (back : Spells middle second secondCode secondTexts after) :
    Begins (first ++ second) (firstCode ++ secondCode) (firstTexts ++ secondTexts) after where
  toSpells := begins.toSpells.append back
  isStatement := begins.isStatement.append second
  unmarked mark marked rest := by
    rw [String.append_assoc]
    exact begins.unmarked mark marked (second ++ rest)

end Begins

/-! ## Lines -/

/-- The values that belong to the mark. -/
def valuesOf (mark : LineMark) (ids : List (LineMark × String)) : List String :=
  (ids.filter fun id => id.1 = mark).map Prod.snd

@[simp] theorem valuesOf_nil (mark : LineMark) : valuesOf mark [] = [] := rfl

@[simp] theorem valuesOf_append (mark : LineMark) (first second : List (LineMark × String)) :
    valuesOf mark (first ++ second) = valuesOf mark first ++ valuesOf mark second := by
  rw [valuesOf, List.filter_append, List.map_append, valuesOf, valuesOf]

theorem valuesOf_singleton (mark own : LineMark) (value : String) :
    valuesOf mark [(own, value)] = (if mark = own then some value else none).toList := by
  by_cases same : mark = own
  · simp [valuesOf, same]
  · simp [valuesOf, same, Ne.symm same]

theorem valuesOf_cons
    (mark own : LineMark)
    (value : String)
    (ids : List (LineMark × String)) :
    valuesOf mark ((own, value) :: ids) =
      (if mark = own then some value else none).toList ++ valuesOf mark ids := by
  rw [← List.singleton_append, valuesOf_append, valuesOf_singleton]

/-- What a line reads as: it is a statement with this code, it shows these texts, and the
values that it states stand under these marks. -/
structure IsLine (text code : String) (texts : List String) (ids : List (LineMark × String)) :
    Prop extends Spells ⟨.code, []⟩ text code texts ⟨.code, []⟩ where
  isStatement : IsStatement text
  value?_eq : ∀ mark ∈ idMarks, (mark.value? text).toList = valuesOf mark ids

theorem Begins.isLine
    {text code : String}
    {texts : List String}
    (begins : Begins text code texts ⟨.code, []⟩) :
    IsLine text code texts [] where
  toSpells := begins.toSpells
  isStatement := begins.isStatement
  value?_eq mark marked := by
    have unmarked := begins.unmarked mark marked ""
    rw [String.append_empty] at unmarked
    rw [unmarked]
    rfl

/-- A fixed text that is a line by itself: it closes what it opens, holds no literal, and
begins like a statement without a mark. -/
def isFixedLine (characters : List Char) : Bool :=
  scan ⟨.code, []⟩ characters == some ⟨.code, []⟩ && isFixedFront characters

/-- Fixed texts that may stand on one line around the body of a literal. -/
def areAround (front back : List Char) : Bool :=
  opensLine front && (front ++ back).all fun c => !lineBreaks.contains c

namespace IsLine

theorem fixed
    {characters : List Char}
    (isFixed : isFixedLine characters = true) :
    IsLine (String.ofList characters) (String.ofList characters) [] [] := by
  rw [isFixedLine, Bool.and_eq_true, beq_iff_eq] at isFixed
  exact (Begins.fixed isFixed.1 isFixed.2).isLine

/-- A line of fixed text around the body of a literal. -/
theorem quoting
    {front back closers : List Char}
    {text : String}
    (scansFront : scan ⟨.code, []⟩ front = some ⟨.string, closers⟩)
    (scansBack : scan ⟨.string, closers⟩ back = some ⟨.code, []⟩)
    (around : areAround front back = true) :
    IsLine (String.ofList front ++ Text.literal text ++ String.ofList back)
      (String.ofList (bareFrom .code front) ++ "" ++ String.ofList (bareFrom .string back))
      [text] [] := by
  simp only [areAround, List.all_append, Bool.and_eq_true] at around
  obtain ⟨opens, frontLine, backLine⟩ := around
  exact (((Begins.front (.quoted scansFront rfl frontLine) opens).append (.body text)).append
    (.quoted scansBack rfl backLine)).isLine

section

variable {front frontCode back backCode : String} {closers : List Char}
  (spells : Spells ⟨.code, []⟩ front frontCode [] ⟨.code, closers⟩)
  (isStatement : IsStatement front) (noQuote : '"' ∉ front.toList) (value : String)
  (behind : Spells ⟨.code, closers⟩ back backCode [] ⟨.code, []⟩)

include spells isStatement noQuote behind

/-- The text in front of a literal decides what the line states. -/
theorem aroundLiteral
    {ids : List (LineMark × String)}
    (stated : ∀ mark ∈ idMarks,
      (if mark.front.toList <+: front.toList ∧ mark.opening.toList <:+ front.toList
        then some value else none).toList = valuesOf mark ids) :
    IsLine (front ++ Text.stringLiteral value ++ back) (frontCode ++ "\"\"" ++ backCode) [value]
      ids where
  toSpells := (spells.append (.literal value)).append behind
  isStatement := (isStatement.append _).append back
  value?_eq mark marked := by
    obtain ⟨c, rest, spelled, visible⟩ := isStatement
    have flush : front.toList.head? ≠ some ' ' := by
      intro same
      rw [spelled, List.head?_cons, Option.some.injEq] at same
      exact visible (same ▸ List.mem_cons_self)
    rw [LineMark.value?_of_literal flush noQuote, stated mark marked]

/-- A line that has a mark in front of its literal states the text of the literal. -/
theorem stating
    {own : LineMark}
    (owned : ∀ mark ∈ idMarks, mark.front.toList <+: front.toList ∧
      mark.opening.toList <:+ front.toList ↔ mark = own) :
    IsLine (front ++ Text.stringLiteral value ++ back) (frontCode ++ "\"\"" ++ backCode) [value]
      [(own, value)] := by
  refine aroundLiteral spells isStatement noQuote value behind fun mark marked => ?_
  rw [valuesOf_singleton]
  simp only [owned mark marked]

/-- A line that has no mark in front of its literal states nothing. -/
theorem markless
    (unmarked : ∀ mark ∈ idMarks, ¬ (mark.front.toList <+: front.toList ∧
      mark.opening.toList <:+ front.toList)) :
    IsLine (front ++ Text.stringLiteral value ++ back) (frontCode ++ "\"\"" ++ backCode) [value]
      [] := by
  refine aroundLiteral spells isStatement noQuote value behind fun mark marked => ?_
  rw [if_neg (unmarked mark marked)]
  rfl

end

/-- A line that shows no text is one line. -/
theorem isOneLine
    {text code : String}
    {ids : List (LineMark × String)}
    (line : IsLine text code [] ids) :
    IsOneLine text := by
  intro c isBreak occurs
  obtain ⟨_, nothing, _⟩ := (line.occurs_iff c isBreak).1 occurs
  cases nothing

variable {text code : String} {texts : List String} {ids : List (LineMark × String)}
  (line : IsLine text code texts ids)

include line

theorem isCode : IsCode text :=
  fun closers => scan_inside line.scans closers

theorem lineReads : LineReads text code where
  toReads := line.reads
  flush := by
    obtain ⟨c, rest, spelled, visible⟩ := line.isStatement
    simp only [List.mem_cons, not_or] at visible
    exact ⟨c, rest, spelled, visible.1, visible.2.1⟩

end IsLine

end Source
end QuestMod
