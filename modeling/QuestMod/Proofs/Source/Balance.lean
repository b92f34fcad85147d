import QuestMod.Proofs.Source.Remainder
import QuestMod.Proofs.Source.Scan

/-!
# Balanced text

A walk goes once over a text from left to right. It keeps what it is inside of and which
brackets are open, and looks at one character at a time: comments, directive lines and
literals are passed over, an opening bracket is pushed, and a closing bracket has to match
the last one pushed. A text is balanced when a walk gets through it and ends outside of
literals and block comments with no bracket open.

Reading tokens goes down into groups, takes the first kind of token that fits, and skips
white space and comments between tokens. Both accept the same texts as long as no
interpolated string begins: from any place, a walk fares as well as it does from the place
where reading tokens stops, and there it goes on only at a closing bracket.
-/

namespace QuestMod
namespace Source

/-! ## Walking over a text -/

/-- What a walk is inside of. -/
inductive Region
  | code
  /-- Behind a slash that may open a comment. -/
  | slash
  /-- Behind an at sign that may open a verbatim string. -/
  | atSign
  /-- In a line comment or a directive. -/
  | lineRest
  | blockComment
  /-- Behind a star in a block comment. -/
  | star
  | string
  /-- Behind a backslash in a string. -/
  | stringEscape
  | verbatim
  /-- Behind a quote that ends a verbatim string unless another quote follows. -/
  | verbatimQuote
  /-- Behind the opening quote of a character literal. -/
  | characterFront
  | character
  /-- Behind a backslash in a character literal. -/
  | characterEscape
  deriving DecidableEq

/-- Where a walk stands: what it is inside of, and the open brackets, last one first. -/
structure Position where
  region : Region
  opened : List Char
  deriving DecidableEq

/-- The position behind a closing bracket. -/
def closeBracket (c : Char) : List Char → Option Position
  | [] => none
  | opening :: outer => if closerOf? opening = some c then some ⟨.code, outer⟩ else none

/-- The position behind a character of code. -/
def codePosition (opened : List Char) (c : Char) : Option Position :=
  if c = '/' then some ⟨.slash, opened⟩
  else if c = '@' then some ⟨.atSign, opened⟩
  else if c = '#' then some ⟨.lineRest, opened⟩
  else if c = '"' then some ⟨.string, opened⟩
  else if c = '\'' then some ⟨.characterFront, opened⟩
  else if c = '{' ∨ c = '(' ∨ c = '[' then some ⟨.code, c :: opened⟩
  else if c = '}' ∨ c = ')' ∨ c = ']' then closeBracket c opened
  else some ⟨.code, opened⟩

/-- The position behind a character of a character literal. -/
def characterPosition (opened : List Char) (c : Char) : Option Position :=
  if c = '\\' then some ⟨.characterEscape, opened⟩
  else if c = '\n' then none
  else some ⟨.character, opened⟩

namespace Position

/-- The position behind a character, unless the character cannot stand there. -/
def step (position : Position) (c : Char) : Option Position :=
  let opened := position.opened
  match position.region with
  | .code => codePosition opened c
  | .slash =>
      if c = '/' then some ⟨.lineRest, opened⟩
      else if c = '*' then some ⟨.blockComment, opened⟩
      else codePosition opened c
  | .atSign => if c = '"' then some ⟨.verbatim, opened⟩ else codePosition opened c
  | .lineRest => some ⟨if c = '\n' then .code else .lineRest, opened⟩
  | .blockComment => some ⟨if c = '*' then .star else .blockComment, opened⟩
  | .star =>
      some ⟨if c = '/' then .code else if c = '*' then .star else .blockComment, opened⟩
  | .string =>
      if c = '"' then some ⟨.code, opened⟩
      else if c = '\\' then some ⟨.stringEscape, opened⟩
      else if c = '\n' then none
      else some ⟨.string, opened⟩
  | .stringEscape => some ⟨.string, opened⟩
  | .verbatim => some ⟨if c = '"' then .verbatimQuote else .verbatim, opened⟩
  | .verbatimQuote => if c = '"' then some ⟨.verbatim, opened⟩ else codePosition opened c
  | .characterFront => if c = '\'' then none else characterPosition opened c
  | .character => if c = '\'' then some ⟨.code, opened⟩ else characterPosition opened c
  | .characterEscape => some ⟨.character, opened⟩

/-- A walk may end in the region. -/
def mayEnd : Region → Bool
  | .code | .slash | .atSign | .lineRest | .verbatimQuote => true
  | _ => false

/-- A walk may end here. -/
def isEnd (position : Position) : Bool :=
  mayEnd position.region && position.opened.isEmpty

end Position

/-- The position behind a text. -/
def walk (position : Position) : List Char → Option Position
  | [] => some position
  | c :: rest => (position.step c).bind fun next => walk next rest

/-- A walk over the rest of a text gets to an end. -/
def walksToEnd (position : Position) (characters : List Char) : Bool :=
  (walk position characters).any Position.isEnd

/-- A walk gets through the text and leaves nothing open. -/
def IsBalanced (source : String) : Prop :=
  walksToEnd ⟨.code, []⟩ source.toList = true

instance (source : String) : Decidable (IsBalanced source) :=
  inferInstanceAs (Decidable (_ = true))

@[simp] theorem walksToEnd_nil (position : Position) :
    walksToEnd position [] = position.isEnd := rfl

theorem walksToEnd_cons (position : Position) (c : Char) (rest : List Char) :
    walksToEnd position (c :: rest) =
      (position.step c).any fun next => walksToEnd next rest := by
  rw [walksToEnd, walk]
  cases position.step c <;> rfl

/-! ## Parts of a walk -/

/-- A walk goes on from where it is. -/
theorem walk_append
    (position : Position)
    (first second : List Char) :
    walk position (first ++ second) =
      (walk position first).bind fun next => walk next second := by
  induction first generalizing position with
  | nil => rfl
  | cons c rest ih =>
      simp only [List.cons_append, walk, Option.bind_assoc]
      exact congrArg _ (funext ih)

/-- A walk in the region may end, and in front of the text it fares as one in code. -/
structure StandsForCode
    (region : Region)
    (rest : List Char) : Prop where
  mayEnd : Position.mayEnd region = true
  step_eq : ∀ c, rest.head? = some c → ∀ opened,
    (Position.mk region opened).step c = (Position.mk .code opened).step c

theorem standsForCode_code (rest : List Char) : StandsForCode .code rest :=
  ⟨rfl, fun _ _ _ => rfl⟩

theorem StandsForCode.walk_eq
    {region : Region}
    {rest : List Char}
    (stands : StandsForCode region rest)
    {c : Char}
    (front : rest.head? = some c)
    (opened more : List Char) :
    walk ⟨region, opened⟩ (c :: more) = walk ⟨.code, opened⟩ (c :: more) := by
  rw [walk, walk, stands.step_eq c front]

/-- From the position in front of a text, a walk gets to an end of the text and goes on there
as in code, with the inner brackets open. -/
def Reaches (start : Position) (characters inner rest : List Char) : Prop :=
  ∃ before region, characters = before ++ rest ∧ StandsForCode region rest ∧
    walk start before = some ⟨region, inner⟩

section

variable
  {start next : Position}
  {opened middle inner characters between rest : List Char}

theorem Reaches.ofRegion
    {region : Region}
    (stands : StandsForCode region rest)
    (opened : List Char) :
    Reaches ⟨region, opened⟩ rest opened rest :=
  ⟨[], region, rfl, stands, rfl⟩

theorem Reaches.refl (opened rest : List Char) : Reaches ⟨.code, opened⟩ rest opened rest :=
  .ofRegion (standsForCode_code rest) opened

theorem Reaches.cons
    {c : Char}
    (steps : start.step c = some next)
    (later : Reaches next characters inner rest) :
    Reaches start (c :: characters) inner rest := by
  obtain ⟨before, region, rfl, stands, walks⟩ := later
  exact ⟨c :: before, region, rfl, stands, by rw [walk, steps, Option.bind_some, walks]⟩

/-- From where a walk gets to, it ends as it does from its start. -/
theorem Reaches.walksToEnd_eq (reaches : Reaches start characters inner rest) :
    walksToEnd start characters = walksToEnd ⟨.code, inner⟩ rest := by
  obtain ⟨before, region, rfl, stands, walks⟩ := reaches
  rw [walksToEnd, walk_append, walks, Option.bind_some]
  cases rest with
  | nil =>
      show (Position.mayEnd region && inner.isEmpty) = _
      rw [stands.mayEnd]
      rfl
  | cons c more =>
      rw [stands.walk_eq rfl]
      rfl

theorem Reaches.suffix (reaches : Reaches start characters inner rest) : rest <:+ characters := by
  obtain ⟨before, region, rfl, _⟩ := reaches
  exact List.suffix_append before rest

/-- No interpolated string begins from where a walk gets to if none does from its start. -/
theorem Reaches.noHole
    (reaches : Reaches start characters inner rest)
    (absent : ¬ ['$', '"'] <:+: characters) :
    ¬ ['$', '"'] <:+: rest :=
  fun hole => absent (hole.trans reaches.suffix.isInfix)

theorem Reaches.trans
    (first : Reaches start characters middle between)
    (second : Reaches ⟨.code, middle⟩ between inner rest) :
    Reaches start characters inner rest := by
  obtain ⟨before, region, rfl, stands, walks⟩ := first
  obtain ⟨more, last, rfl, standsLast, walksOn⟩ := second
  refine ⟨before ++ more, ?_⟩
  cases more with
  | nil =>
      cases walksOn
      exact ⟨region, by simp, stands, by simpa using walks⟩
  | cons c more =>
      refine ⟨last, by simp, standsLast, ?_⟩
      rw [walk_append, walks, Option.bind_some, stands.walk_eq rfl, walksOn]

end

/-- What becomes of a walk over a part that is read: it gets behind the part, or the part does
not end and neither does the walk. -/
def Crosses (start : Position) (characters inner : List Char) : Option (List Char) → Prop
  | some rest => Reaches start characters inner rest
  | none => walksToEnd start characters = false

section

variable
  {start next : Position}
  {inner characters : List Char}
  {left : Option (List Char)}

theorem Crosses.cons
    {c : Char}
    (steps : start.step c = some next)
    (later : Crosses next characters inner left) :
    Crosses start (c :: characters) inner left := by
  cases left with
  | some rest => exact Reaches.cons steps later
  | none =>
      show walksToEnd start (c :: characters) = false
      rw [walksToEnd_cons, steps]
      exact later

theorem Crosses.walksToEnd_eq (crosses : Crosses start characters inner left) :
    walksToEnd start characters = left.any (walksToEnd ⟨.code, inner⟩) := by
  cases left with
  | some rest => exact Reaches.walksToEnd_eq crosses
  | none => exact crosses

end

/-! ## Comments, directives and literals -/

section

variable (opened : List Char) {characters rest : List Char}

/-- In the rest of a line a walk gets to the end of the line. -/
theorem reaches_lineRest (characters : List Char) :
    Reaches ⟨.lineRest, opened⟩ characters opened (spanLine characters).2 := by
  induction characters with
  | nil => exact .ofRegion ⟨rfl, by simp⟩ opened
  | cons c rest ih =>
      by_cases feed : c = '\n'
      · subst feed
        refine .ofRegion ⟨rfl, ?_⟩ opened
        rintro c front opened
        cases front
        rfl
      · have spans : (spanLine (c :: rest)).2 = (spanLine rest).2 := by simp [spanLine, feed]
        rw [spans]
        exact ih.cons (by simp [Position.step, feed])

/-- In a block comment a walk gets behind the end of the comment, also when it stands behind a
star. -/
theorem crosses_blockComment (characters : List Char) :
    Crosses ⟨.blockComment, opened⟩ characters opened (afterBlockComment? characters) ∧
      Crosses ⟨.star, opened⟩ characters opened (afterBlockComment? ('*' :: characters)) := by
  induction characters with
  | nil => exact ⟨rfl, rfl⟩
  | cons c tail ih =>
      obtain ⟨block, star⟩ := ih
      by_cases isStar : c = '*'
      · subst isStar
        exact ⟨star.cons rfl, star.cons rfl⟩
      · have skips : afterBlockComment? (c :: tail) = afterBlockComment? tail := by
          rw [afterBlockComment?]
          rintro after rfl
          exact absurd rfl isStar
        by_cases slash : c = '/'
        · subst slash
          refine ⟨?_, (Reaches.refl opened tail).cons rfl⟩
          rw [skips]
          exact block.cons rfl
        · have skipsStar : afterBlockComment? ('*' :: c :: tail) =
              afterBlockComment? (c :: tail) := by
            rw [afterBlockComment?]
            rintro after _ equal
            cases equal
            exact slash rfl
          rw [skipsStar, skips]
          exact ⟨block.cons (by simp [Position.step, isStar]),
            block.cons (by simp [Position.step, isStar, slash])⟩

/-- In a string a walk gets behind the closing quote. -/
theorem crosses_string (characters : List Char) :
    Crosses ⟨.string, opened⟩ characters opened ((stringBody? characters).map Prod.snd) := by
  fun_induction stringBody? characters with
  | case1 => rfl
  | case2 tail => exact (Reaches.refl opened tail).cons rfl
  | case3 c tail ih =>
      rw [Option.map_map]
      exact (ih.cons rfl).cons rfl
  | case4 => rfl
  | case5 tail => rfl
  | case6 c tail notQuote notEscape notLone notFeed ih =>
      have notBackslash := ne_backslash notEscape notLone
      rw [Option.map_map]
      refine ih.cons ?_
      simp [Position.step, notBackslash, show c ≠ '"' from notQuote, show c ≠ '\n' from notFeed]

/-- In a character literal a walk gets behind the closing quote. -/
theorem crosses_character (characters : List Char) :
    Crosses ⟨.character, opened⟩ characters opened ((characterBody? characters).map Prod.snd) := by
  fun_induction characterBody? characters with
  | case1 => rfl
  | case2 tail => exact (Reaches.refl opened tail).cons rfl
  | case3 c tail ih =>
      rw [Option.map_map]
      exact (ih.cons rfl).cons rfl
  | case4 => rfl
  | case5 tail => rfl
  | case6 c tail notQuote notEscape notLone notFeed ih =>
      have notBackslash := ne_backslash notEscape notLone
      rw [Option.map_map]
      refine ih.cons ?_
      simp [Position.step, characterPosition, notBackslash, show c ≠ '\'' from notQuote,
        show c ≠ '\n' from notFeed]

/-- Behind the opening quote of a character literal that is not empty, a walk gets behind the
closing one. -/
theorem crosses_characterFront
    (filled : characters.head? ≠ some '\'') :
    Crosses ⟨.characterFront, opened⟩ characters opened
      ((characterBody? characters).map Prod.snd) := by
  have crosses := crosses_character opened characters
  cases characters with
  | nil => exact crosses
  | cons c tail =>
      have notQuote : c ≠ '\'' := by simpa using filled
      have same : (Position.mk .characterFront opened).step c =
          (Position.mk .character opened).step c := by
        simp [Position.step, notQuote]
      cases reads : (characterBody? (c :: tail)).map Prod.snd with
      | none =>
          rw [reads] at crosses
          show walksToEnd _ _ = false
          rw [walksToEnd_cons, same, ← walksToEnd_cons]
          exact crosses
      | some rest =>
          rw [reads] at crosses
          obtain ⟨before, region, whole, stands, walks⟩ := crosses
          cases before with
          | nil =>
              cases walks
              cases stands.mayEnd
          | cons d before =>
              cases whole
              refine ⟨c :: before, region, rfl, stands, ?_⟩
              rw [walk, same]
              exact walks

/-- A quote of a verbatim string that no other quote follows closes the string. -/
theorem standsForCode_verbatimQuote
    (single : rest.head? ≠ some '"') :
    StandsForCode .verbatimQuote rest := by
  refine ⟨rfl, fun c front opened => ?_⟩
  have notQuote : c ≠ '"' := by
    rintro rfl
    exact single front
  simp [Position.step, notQuote]

/-- In a verbatim string a walk gets behind the closing quote. -/
theorem crosses_verbatim (characters : List Char) :
    Crosses ⟨.verbatim, opened⟩ characters opened ((verbatimBody? characters).map Prod.snd) := by
  fun_induction verbatimBody? characters with
  | case1 => rfl
  | case2 tail ih =>
      rw [Option.map_map]
      exact (ih.cons rfl).cons rfl
  | case3 tail single =>
      have closes : tail.head? ≠ some '"' := by
        intro quote
        obtain ⟨more, rfl⟩ := List.head?_eq_some_iff.1 quote
        exact single more rfl
      exact (Reaches.ofRegion (standsForCode_verbatimQuote closes) opened).cons rfl
  | case4 c tail notDouble notQuote ih =>
      rw [Option.map_map]
      refine ih.cons ?_
      simp [Position.step, show c ≠ '"' from notQuote]

/-! ## White space and runs -/

/-- A run of other characters ends in front of a mark, white space, a comment, a verbatim
string or an interpolated string. -/
theorem breaksAtom_cons_iff {c : Char} {rest : List Char} :
    breaksAtom (c :: rest) = true ↔
      isAtomBreak c = true ∨
        (c = '/' ∧ (rest.head? = some '/' ∨ rest.head? = some '*')) ∨
        ((c = '@' ∨ c = '$') ∧ rest.head? = some '"') := by
  unfold breaksAtom
  split
  case h_6 noLine noBlock noVerbatim noInterpolated equal =>
    cases equal
    constructor
    · exact .inl
    · rintro (breaks | ⟨rfl, line | block⟩ | ⟨rfl | rfl, quote⟩)
      · exact breaks
      · obtain ⟨tail, rfl⟩ := List.head?_eq_some_iff.1 line
        exact (noLine tail rfl rfl).elim
      · obtain ⟨tail, rfl⟩ := List.head?_eq_some_iff.1 block
        exact (noBlock tail rfl rfl).elim
      · obtain ⟨tail, rfl⟩ := List.head?_eq_some_iff.1 quote
        exact (noVerbatim tail rfl rfl).elim
      · obtain ⟨tail, rfl⟩ := List.head?_eq_some_iff.1 quote
        exact (noInterpolated tail rfl rfl).elim
  all_goals simp_all [isAtomBreak]

/-- A walk gets over white space and comments. -/
theorem reaches_skip (characters : List Char) :
    Reaches ⟨.code, opened⟩ characters opened (skip characters) := by
  fun_induction skip characters with
  | case1 => exact .refl opened []
  | case2 line ih => exact (((reaches_lineRest opened line).cons rfl).cons rfl).trans ih
  | case3 comment after reads _ ih =>
      have leaves := (crosses_blockComment opened comment).1
      rw [reads] at leaves
      exact (Reaches.cons rfl (Reaches.cons rfl leaves)).trans ih
  | case4 comment => exact .refl opened _
  | case5 c tail _ _ space ih =>
      have plain : (Position.mk .code opened).step c = some ⟨.code, opened⟩ := by
        simp only [isSpace, Bool.or_eq_true, beq_iff_eq] at space
        rcases space with (((rfl | rfl) | rfl) | rfl) | rfl <;> rfl
      exact ih.cons plain
  | case6 => exact .refl opened _

/-- A walk gets over a character of a run. -/
theorem reaches_of_breaksAtom_eq_false
    {c : Char}
    (runs : breaksAtom (c :: rest) = false) :
    Reaches ⟨.code, opened⟩ (c :: rest) opened rest := by
  rw [← Bool.not_eq_true, breaksAtom_cons_iff] at runs
  simp only [not_or, not_and] at runs
  obtain ⟨unbroken, noComment, noVerbatim⟩ := runs
  by_cases slash : c = '/'
  · subst slash
    obtain ⟨noLine, noBlock⟩ := noComment rfl
    refine (Reaches.ofRegion ⟨rfl, fun d front opened => ?_⟩ opened).cons rfl
    have notSlash : d ≠ '/' := by
      rintro rfl
      exact noLine front
    have notStar : d ≠ '*' := by
      rintro rfl
      exact noBlock front
    simp [Position.step, notSlash, notStar]
  · by_cases atSign : c = '@'
    · subst atSign
      refine (Reaches.ofRegion ⟨rfl, fun d front opened => ?_⟩ opened).cons rfl
      have notQuote : d ≠ '"' := by
        rintro rfl
        exact noVerbatim (.inl rfl) front
      simp [Position.step, notQuote]
    · refine (Reaches.refl opened rest).cons ?_
      simp only [isAtomBreak, Bool.or_eq_true, beq_iff_eq, not_or] at unbroken
      simp [Position.step, codePosition, slash, atSign, unbroken]

/-- A walk gets over a run of other characters. -/
theorem reaches_spanAtom (characters : List Char) :
    Reaches ⟨.code, opened⟩ characters opened (spanAtom characters).2 := by
  induction characters with
  | nil => exact .refl opened []
  | cons c rest ih =>
      rw [spanAtom]
      split
      · exact .refl opened _
      · rename_i runs
        exact (reaches_of_breaksAtom_eq_false opened (Bool.eq_false_iff.2 runs)).trans ih

end

/-! ## Tokens -/

/-- A block comment that is not skipped is not closed. -/
theorem afterBlockComment?_eq_none_of_skip
    {characters rest : List Char}
    (front : skip characters = '/' :: '*' :: rest) :
    afterBlockComment? rest = none := by
  fun_induction skip characters with
  | case1 => cases front
  | case2 line ih => exact ih front
  | case3 inside after reads _ ih => exact ih front
  | case4 inside unclosed =>
      cases front
      exact unclosed
  | case5 c tail _ _ _ ih => exact ih front
  | case6 c tail _ noBlock _ =>
      cases front
      exact absurd rfl (noBlock rest rfl)

/-- A run of other characters is empty only in front of a character that breaks it. -/
theorem breaksAtom_of_spanAtom
    {characters rest : List Char}
    (spans : spanAtom characters = ([], rest)) :
    breaksAtom characters = true := by
  cases characters with
  | nil => rfl
  | cons c tail =>
      rw [spanAtom] at spans
      split at spans
      · assumption
      · cases spans

/-- Where a token has to start and no bracket, literal or directive does, only a block
comment keeps a run of other characters from starting. -/
theorem eq_blockComment_of_breaksAtom
    {characters tail : List Char}
    {c : Char}
    (front : skip characters = c :: tail)
    (single : closerOf? c = none)
    (unclosing : markOf c ≠ .closing)
    (unquoted : c ≠ '#' ∧ c ≠ '"' ∧ c ≠ '\'')
    (noString : (c = '@' ∨ c = '$') → tail.head? ≠ some '"')
    (breaks : breaksAtom (c :: tail) = true) :
    ∃ inside, c :: tail = '/' :: '*' :: inside := by
  obtain ⟨dark, noComment⟩ := skip_front front
  rcases breaksAtom_cons_iff.1 breaks with mark | ⟨rfl, line | block⟩ | ⟨sign, quote⟩
  · simp only [isAtomBreak, Bool.or_eq_true, beq_iff_eq] at mark
    obtain ⟨noDirective, noQuote, noCharacter⟩ := unquoted
    rcases mark with (((((((((((rfl | rfl) | rfl) | rfl) | rfl) | rfl) | rfl) | rfl) | rfl) | rfl) |
      rfl) | rfl) | rfl
    all_goals contradiction
  · exact absurd ⟨rfl, line⟩ noComment
  · obtain ⟨inside, rfl⟩ := List.head?_eq_some_iff.1 block
    exact ⟨inside, rfl⟩
  · exact absurd quote (noString sign)

/-- Where a run of other characters has to start and is empty, a block comment starts that is
not closed. -/
theorem exists_blockComment_of_spanAtom
    {characters tail after : List Char}
    {c : Char}
    (front : skip characters = c :: tail)
    (single : closerOf? c = none)
    (unclosing : markOf c ≠ .closing)
    (noDirective : ∀ rest, c :: tail ≠ '#' :: rest)
    (noInterpolated : ∀ rest, c :: tail ≠ '$' :: '"' :: rest)
    (noVerbatim : ∀ rest, c :: tail ≠ '@' :: '"' :: rest)
    (noString : ∀ rest, c :: tail ≠ '"' :: rest)
    (noCharacter : ∀ rest, c :: tail ≠ '\'' :: rest)
    (spans : spanAtom (c :: tail) = ([], after)) :
    ∃ inside, c :: tail = '/' :: '*' :: inside ∧ afterBlockComment? inside = none := by
  have unquoted : c ≠ '#' ∧ c ≠ '"' ∧ c ≠ '\'' :=
    ⟨fun sharp => noDirective tail (by rw [sharp]), fun quote => noString tail (by rw [quote]),
      fun quote => noCharacter tail (by rw [quote])⟩
  have unsigned : (c = '@' ∨ c = '$') → tail.head? ≠ some '"' := by
    rintro (rfl | rfl) quote
    · obtain ⟨inside, rfl⟩ := List.head?_eq_some_iff.1 quote
      exact noVerbatim inside rfl
    · obtain ⟨inside, rfl⟩ := List.head?_eq_some_iff.1 quote
      exact noInterpolated inside rfl
  obtain ⟨inside, equal⟩ := eq_blockComment_of_breaksAtom front single unclosing unquoted
    unsigned (breaksAtom_of_spanAtom spans)
  rw [equal] at front
  exact ⟨inside, equal, afterBlockComment?_eq_none_of_skip front⟩

/-- A walk gets over a token without inner tokens, and where no such token can be read it does
not get to an end. -/
theorem crosses_leaf?
    {characters tail : List Char}
    {c : Char}
    (front : skip characters = c :: tail)
    (noHole : ¬ ['$', '"'] <+: c :: tail)
    (single : closerOf? c = none)
    (unclosing : markOf c ≠ .closing)
    (opened : List Char) :
    Crosses ⟨.code, opened⟩ (c :: tail) opened ((leaf? (c :: tail)).map Prod.snd) := by
  unfold leaf?
  split
  case h_1 equal => cases equal
  case h_2 line equal =>
    cases equal
    exact (reaches_lineRest opened tail).cons rfl
  case h_3 inside equal =>
    exact absurd ⟨inside, equal.symm⟩ noHole
  case h_4 inside equal =>
    cases equal
    rw [Option.map_map]
    exact ((crosses_verbatim opened inside).cons rfl).cons rfl
  case h_5 inside equal =>
    cases equal
    rw [Option.map_map]
    exact (crosses_string opened tail).cons rfl
  case h_6 inside equal =>
    cases equal
    rfl
  case h_7 inside filled equal =>
    cases equal
    rw [Option.map_map]
    refine (crosses_characterFront opened fun quote => ?_).cons rfl
    obtain ⟨body, rfl⟩ := List.head?_eq_some_iff.1 quote
    exact filled body rfl
  case h_8 noEnd noDirective noInterpolated noVerbatim noString noEmpty noCharacter =>
    split
    · rename_i after spans
      obtain ⟨inside, equal, unclosed⟩ := exists_blockComment_of_spanAtom front single unclosing
        noDirective noInterpolated noVerbatim noString noCharacter spans
      have leaves := (crosses_blockComment opened inside).1
      rw [unclosed] at leaves
      rw [equal]
      exact (leaves.cons rfl).cons rfl
    · rename_i run after _ spans
      have crosses := reaches_spanAtom opened (c :: tail)
      rw [spans] at crosses
      exact crosses

/-- A walk gets over a token without inner tokens, unless it is an interpolated string. -/
theorem reaches_leaf?
    {characters tail rest : List Char}
    {c : Char}
    {token : Token}
    (front : skip characters = c :: tail)
    (noHole : ¬ ['$', '"'] <+: c :: tail)
    (single : closerOf? c = none)
    (reads : leaf? (c :: tail) = some (token, rest))
    (opened : List Char) :
    Reaches ⟨.code, opened⟩ (c :: tail) opened rest := by
  have unclosing : markOf c ≠ .closing := by
    intro closing
    rw [(leaf?_closer closing tail).2] at reads
    cases reads
  have crosses := crosses_leaf? front noHole single unclosing opened
  rw [reads] at crosses
  exact crosses

/-! ## Brackets -/

/-- Only closing brackets close. -/
theorem markOf_of_closer
    {opening closer : Char}
    (closes : closerOf? opening = some closer) :
    markOf closer = .closing := by
  unfold closerOf? at closes
  split at closes <;> cases closes <;> rfl

/-- A walk gets behind an opening bracket with the bracket open. -/
theorem reaches_opening
    (opened : List Char)
    {c closer : Char}
    (opens : closerOf? c = some closer)
    (tail : List Char) :
    Reaches ⟨.code, opened⟩ (c :: tail) (c :: opened) tail := by
  refine (Reaches.refl (c :: opened) tail).cons ?_
  rcases eq_opener_of_opening (markOf_of_closerOf? opens) with ⟨rfl, _⟩ | ⟨rfl, _⟩ | ⟨rfl, _⟩ <;>
    rfl

/-- In code a closing bracket closes the last open one. -/
theorem step_closing
    (opened : List Char)
    {c : Char}
    (closing : markOf c = .closing) :
    (Position.mk .code opened).step c = closeBracket c opened := by
  rcases eq_closer_of_closing closing with rfl | rfl | rfl <;> rfl

/-- A walk gets behind the bracket that closes the last open one. -/
theorem reaches_closer
    (opened : List Char)
    {c closer : Char}
    (opens : closerOf? c = some closer)
    (after : List Char) :
    Reaches ⟨.code, c :: opened⟩ (closer :: after) opened after := by
  refine (Reaches.refl opened after).cons ?_
  rw [step_closing _ (markOf_of_closer opens), closeBracket, if_pos opens]

/-! ## Reading tokens -/

/-- Reading tokens stops at an end of the text. -/
theorem readTokensFrom_skip_suffix (characters : List Char) :
    (readTokensFrom (skip characters)).1.rest <:+ characters := by
  induction characters using readTokens_induction with
  | atEnd characters front =>
      rw [front, readTokensFrom_nil]
      exact List.nil_suffix
  | group characters c tail closer after front opens closes inside later =>
      rw [closes] at inside
      have skipped := skip_suffix characters
      rw [front] at skipped ⊢
      rw [readTokensFrom_of_group opens closes]
      have behind := (later.trans (List.suffix_cons closer after)).trans inside
      exact (behind.trans (List.suffix_cons c tail)).trans skipped
  | unclosed characters c tail closer front opens unclosed inside =>
      have skipped := skip_suffix characters
      rw [front] at skipped ⊢
      rwa [readTokensFrom_of_unclosed opens unclosed]
  | unread characters c tail front single unread =>
      have skipped := skip_suffix characters
      rw [front] at skipped ⊢
      rwa [readTokensFrom_of_leaf?_none single unread]
  | leaf characters c tail token after front single reads later =>
      have skipped := skip_suffix characters
      rw [front] at skipped ⊢
      rw [readTokensFrom_of_leaf?_some single reads]
      exact (later.trans (leaf?_suffix reads)).trans skipped

/-- How a walk fares where reading tokens stops: it ends at the end of the text, and it goes
on behind the bracket that closes the last open one. -/
def settles : List Char → List Char → Bool
  | opened, [] => opened.isEmpty
  | [], _ :: _ => false
  | opening :: outer, c :: after =>
      closerOf? opening == some c && walksToEnd ⟨.code, outer⟩ after

/-- A walk does not go on where something other than a closing bracket stopped reading. -/
theorem settles_eq_false
    {c : Char}
    (unclosing : markOf c ≠ .closing)
    (opened tail : List Char) :
    settles opened (c :: tail) = false := by
  cases opened with
  | nil => rfl
  | cons opening outer =>
      have other : closerOf? opening ≠ some c := fun closes =>
        unclosing (markOf_of_closer closes)
      simp [settles, other]

/-- A walk goes on behind the closing bracket of the last open one. -/
theorem settles_closer
    {opening closer : Char}
    (opens : closerOf? opening = some closer)
    (outer after : List Char) :
    settles (opening :: outer) (closer :: after) = walksToEnd ⟨.code, outer⟩ after := by
  simp [settles, opens]

/-- A walk does not go on where the last open bracket is not closed. -/
theorem settles_of_unclosed
    {opening closer : Char}
    (opens : closerOf? opening = some closer)
    {rest : List Char}
    (unclosed : ∀ after, rest ≠ closer :: after)
    (outer : List Char) :
    settles (opening :: outer) rest = false := by
  cases rest with
  | nil => rfl
  | cons c after =>
      have other : closer ≠ c := fun same => unclosed after (by rw [same])
      simp [settles, opens, other]

/-- A walk meets a closing bracket as it does where reading stopped there. -/
theorem walksToEnd_closing
    {c : Char}
    (closing : markOf c = .closing)
    (opened tail : List Char) :
    walksToEnd ⟨.code, opened⟩ (c :: tail) = settles opened (c :: tail) := by
  rw [walksToEnd_cons, step_closing opened closing]
  cases opened with
  | nil => rfl
  | cons opening outer =>
      simp only [closeBracket, settles]
      by_cases fits : closerOf? opening = some c <;> simp [fits]

/-- From any place of a text without interpolated strings, a walk fares as well as it does
where reading tokens stops. -/
theorem walksToEnd_eq_settles
    (opened characters : List Char)
    (noHole : ¬ ['$', '"'] <:+: characters) :
    walksToEnd ⟨.code, opened⟩ characters =
      settles opened (readTokensFrom (skip characters)).1.rest := by
  induction characters using readTokens_induction generalizing opened with
  | atEnd characters front =>
      rw [(reaches_skip opened characters).walksToEnd_eq, front, readTokensFrom_nil]
      rfl
  | group characters c tail closer after front opens closes inside later =>
      have skips := reaches_skip opened characters
      rw [front] at skips ⊢
      have enters := skips.trans (reaches_opening opened opens tail)
      have noInnerHole := enters.noHole noHole
      have behind := readTokensFrom_skip_suffix tail
      rw [closes] at behind
      have afterSuffix := (List.suffix_cons closer after).trans behind
      rw [enters.walksToEnd_eq, inside _ noInnerHole, closes, settles_closer opens,
        readTokensFrom_of_group opens closes]
      exact later opened fun hole => noInnerHole (hole.trans afterSuffix.isInfix)
  | unclosed characters c tail closer front opens unclosed inside =>
      have skips := reaches_skip opened characters
      rw [front] at skips ⊢
      have enters := skips.trans (reaches_opening opened opens tail)
      have opening : markOf c ≠ .closing := by simp [markOf_of_closerOf? opens]
      rw [enters.walksToEnd_eq, inside _ (enters.noHole noHole),
        readTokensFrom_of_unclosed opens unclosed, settles_eq_false opening,
        settles_of_unclosed opens unclosed]
  | unread characters c tail front single unread =>
      have skips := reaches_skip opened characters
      rw [front] at skips ⊢
      have noFrontHole : ¬ ['$', '"'] <+: c :: tail := fun hole =>
        skips.noHole noHole hole.isInfix
      rw [skips.walksToEnd_eq, readTokensFrom_of_leaf?_none single unread]
      by_cases closing : markOf c = .closing
      · exact walksToEnd_closing closing opened tail
      · rw [(crosses_leaf? front noFrontHole single closing opened).walksToEnd_eq, unread,
          settles_eq_false closing]
        rfl
  | leaf characters c tail token after front single reads later =>
      have skips := reaches_skip opened characters
      rw [front] at skips ⊢
      have noFrontHole : ¬ ['$', '"'] <+: c :: tail := fun hole =>
        skips.noHole noHole hole.isInfix
      have crosses := skips.trans (reaches_leaf? front noFrontHole single reads opened)
      rw [crosses.walksToEnd_eq, readTokensFrom_of_leaf?_some single reads]
      exact later opened (crosses.noHole noHole)

/-- Text without interpolated strings is a token tree exactly when it is balanced. -/
theorem checkTokens_eq_ok_iff_isBalanced
    {source : String}
    (noHole : ¬ ['$', '"'] <:+: source.toList) :
    checkTokens source = .ok () ↔ IsBalanced source := by
  have settled : walksToEnd ⟨.code, []⟩ source.toList =
      settles [] (readTokens source.toList).rest :=
    walksToEnd_eq_settles [] source.toList noHole
  rw [IsBalanced, settled, checkTokens, parse]
  cases (readTokens source.toList).rest with
  | nil => simp [settles]
  | cons c tail => simp [settles]

/-- Brackets in literals and comments are passed over, and the same text does not pass
without its last bracket. -/
theorem checkTokens_literals_and_comments :
    checkTokens "f(@\"\"\"(\", '\\'', \"\\\"]\") /* ( */ + a[0 / 2]; // )" = .ok () ∧
      checkTokens "f(@\"\"\"(\", '\\'', \"\\\"]\") /* ( */ + a[0 / 2; // )" ≠ .ok () :=
  ⟨(checkTokens_eq_ok_iff_isBalanced (by decide +kernel)).2 (by decide +kernel),
    fun accepted => absurd
      ((checkTokens_eq_ok_iff_isBalanced (by decide +kernel)).1 accepted) (by decide +kernel)⟩

end Source
end QuestMod
