import QuestMod.Source.Literal
import QuestMod.Proofs.Number.Shortest
import QuestMod.Proofs.Source.Identifier
import QuestMod.Proofs.Source.Scan
import QuestMod.Proofs.Text.Escape

/-!
# Texts that are code

A text is code when its scan ends where it started, whatever brackets are open around
it. Words hold plain characters only. Identifiers, dotted names and numbers are words;
string literals are code whatever their text is.
-/

namespace QuestMod
namespace Source

/-- The state behind a text, when there is one in front of it. -/
def scanText (start : Option ScanState) (text : String) : Option ScanState :=
  start.bind fun state => scan state text.toList

theorem scanText_some
    (state : ScanState)
    (text : String) :
    scanText (some state) text = scan state text.toList := rfl

@[simp] theorem scanText_append
    (start : Option ScanState)
    (first second : String) :
    scanText start (first ++ second) = scanText (scanText start first) second := by
  simp only [scanText, String.toList_append, scan_append, Option.bind_assoc]

/-- A fixed text is scanned character by character. -/
@[simp] theorem scanText_ofList
    (state : ScanState)
    (characters : List Char) :
    scanText (some state) (no_index (String.ofList characters)) = scan state characters := by
  rw [scanText_some, String.toList_ofList]

/-- The text closes all brackets and literals that it opens. -/
abbrev IsCode (text : String) : Prop :=
  ∀ closers, scanText (some ⟨.code, closers⟩) text = some ⟨.code, closers⟩

/-- Two texts that close what they open do so together. -/
theorem IsCode.append
    {first second : String}
    (firstCode : IsCode first)
    (secondCode : IsCode second) :
    IsCode (first ++ second) := by
  intro closers
  simp [firstCode, secondCode]

/-! ## Characters of fixed texts

The scan of a fixed text is rewritten character by character. The side conditions are
closed terms, so `simp (disch := decide)` scans a text around what varies in it. -/

/-- A character without a meaning of its own changes nothing. -/
@[simp] theorem scan_plain
    {c : Char}
    (plain : c ∉ marks)
    (closers rest : List Char) :
    scan ⟨.code, closers⟩ (c :: rest) = scan ⟨.code, closers⟩ rest := by
  simp [scan_cons, codeStep, markOf_eq_plain_iff.2 plain]

@[simp] theorem scan_brace (closers rest : List Char) :
    scan ⟨.code, closers⟩ ('{' :: rest) = scan ⟨.code, '}' :: closers⟩ rest :=
  scan_cons_of_opening rfl closers rest

@[simp] theorem scan_parenthesis (closers rest : List Char) :
    scan ⟨.code, closers⟩ ('(' :: rest) = scan ⟨.code, ')' :: closers⟩ rest :=
  scan_cons_of_opening rfl closers rest

@[simp] theorem scan_bracket (closers rest : List Char) :
    scan ⟨.code, closers⟩ ('[' :: rest) = scan ⟨.code, ']' :: closers⟩ rest :=
  scan_cons_of_opening rfl closers rest

/-- The bracket that closes the innermost open one takes it away. -/
@[simp] theorem scan_closer
    {c : Char}
    (closing : markOf c = .closing)
    (closers rest : List Char) :
    scan ⟨.code, c :: closers⟩ (c :: rest) = scan ⟨.code, closers⟩ rest := by
  simp [scan_cons, codeStep, closing]

/-- A quote in the code opens a literal. -/
@[simp] theorem scan_quote (closers rest : List Char) :
    scan ⟨.code, closers⟩ ('"' :: rest) = scan ⟨.string, closers⟩ rest := by
  simp [scan_cons, codeStep, markOf]

/-- A quote in a literal ends it. -/
@[simp] theorem scan_endQuote (closers rest : List Char) :
    scan ⟨.string, closers⟩ ('"' :: rest) = scan ⟨.code, closers⟩ rest := by
  simp [scan_cons, ScanState.step]

@[simp] theorem scan_quoted
    {c : Char}
    (ordinary : c ∉ ['"', '\\', '\n'])
    (closers rest : List Char) :
    scan ⟨.string, closers⟩ (c :: rest) = scan ⟨.string, closers⟩ rest := by
  simp only [List.mem_cons, List.not_mem_nil, or_false, not_or] at ordinary
  simp [scan_cons, ScanState.step, ordinary]

/-- A fixed text that closes what it opens is code. -/
theorem isCode_ofList
    {characters : List Char}
    (closed : scan ⟨.code, []⟩ characters = some ⟨.code, []⟩) :
    IsCode (String.ofList characters) := by
  intro closers
  rw [scanText_some, String.toList_ofList]
  exact scan_inside closed closers

/-! ## Words -/

/-- All characters of the text are plain. -/
def IsWord (text : String) : Prop :=
  ∀ c ∈ text.toList, markOf c = .plain

theorem isWord_of_forall
    {characters : List Char}
    (plain : ∀ c ∈ characters, markOf c = .plain) :
    IsWord (String.ofList characters) := by
  rwa [IsWord, String.toList_ofList]

/-- A fixed text of plain characters is a word. -/
theorem isWord_ofList
    {characters : List Char}
    (plain : characters.all (fun c => markOf c == .plain) = true) :
    IsWord (String.ofList characters) :=
  isWord_of_forall fun c member => beq_iff_eq.1 (List.all_eq_true.1 plain c member)

/-- Two words make one word. -/
theorem IsWord.append
    {first second : String}
    (firstWord : IsWord first)
    (secondWord : IsWord second) :
    IsWord (first ++ second) := by
  intro c member
  rw [String.toList_append] at member
  rcases List.mem_append.1 member with inFirst | inSecond
  · exact firstWord c inFirst
  · exact secondWord c inSecond

/-- A scan runs over a word without a change. -/
theorem scan_of_plain
    {characters : List Char}
    (plain : ∀ c ∈ characters, markOf c = .plain)
    (closers : List Char) :
    scan ⟨.code, closers⟩ characters = some ⟨.code, closers⟩ := by
  induction characters with
  | nil => rfl
  | cons c rest ih =>
      have later := ih fun d member => plain d (List.mem_cons_of_mem _ member)
      simpa [scan_cons, codeStep, plain c List.mem_cons_self] using later

/-- A word is code. -/
theorem IsWord.isCode
    {text : String}
    (word : IsWord text) :
    IsCode text :=
  fun closers => scan_of_plain word closers

theorem markOf_of_continuesIdentifier
    {c : Char}
    (continued : Text.continuesIdentifier c = true) :
    markOf c = .plain := by
  rw [markOf_eq_plain_iff]
  intro marked
  have noMark : marks.all (fun mark => !Text.continuesIdentifier mark) = true := by decide
  have other := List.all_eq_true.1 noMark c marked
  rw [continued] at other
  cases other

/-- An identifier is a word. -/
theorem HasIdentifierForm.isWord
    {name : String}
    (form : HasIdentifierForm name) :
    IsWord name :=
  fun _ member => markOf_of_continuesIdentifier (continuesIdentifier_of_mem form member)

/-- An identifier stays inside of a string. -/
theorem HasIdentifierForm.scan_string
    {name : String}
    (form : HasIdentifierForm name)
    (closers : List Char) :
    scanText (some ⟨.string, closers⟩) name = some ⟨.string, closers⟩ := by
  have ordinary : ∀ c ∈ name.toList, c ∉ ['"', '\\', '\n'] := by
    intro c member marked
    have noMark : ['"', '\\', '\n'].all (fun mark => !Text.continuesIdentifier mark) = true := by
      decide
    have other := List.all_eq_true.1 noMark c marked
    rw [continuesIdentifier_of_mem form member] at other
    cases other
  rw [scanText_some]
  revert ordinary
  induction name.toList with
  | nil => exact fun _ => rfl
  | cons c rest ih =>
      intro ordinary
      rw [scan_quoted (ordinary c List.mem_cons_self)]
      exact ih fun d member => ordinary d (List.mem_cons_of_mem c member)

/-- A dotted name is a word. -/
theorem IsDottedName.isWord
    {name : String}
    (dotted : IsDottedName name) :
    IsWord name := by
  intro c member
  rcases dotted.mem member with rfl | continued
  · rfl
  · exact markOf_of_continuesIdentifier continued

theorem isWord_toString_nat (number : Nat) : IsWord (toString number) :=
  fun _ member => markOf_of_continuesIdentifier (continuesIdentifier_of_mem_toString member)

/-- The digits of a number are code. -/
@[simp] theorem isCode_repr (number : Nat) : IsCode number.repr :=
  (isWord_toString_nat number).isCode

theorem isWord_toString_int (number : Int) : IsWord (toString number) := by
  cases number with
  | ofNat number => exact isWord_toString_nat number
  | negSucc number =>
      have signed : toString (Int.negSucc number) = "-" ++ toString (number + 1) := rfl
      rw [signed]
      exact IsWord.append (isWord_ofList (by decide)) (isWord_toString_nat (number + 1))

theorem isWord_boolLiteral (value : Bool) : IsWord (boolLiteral value) := by
  cases value <;> exact isWord_ofList (by decide)

/-! ## Numbers -/

theorem markOf_of_isNumberCharacter
    {c : Char}
    (character : Number.IsNumberCharacter c) :
    markOf c = .plain := by
  rcases character with digit | mark
  · exact markOf_of_continuesIdentifier (continuesIdentifier_of_isDigit digit)
  · have plain : Number.numberMarks.all (fun mark => markOf mark == .plain) = true := by decide
    exact beq_iff_eq.1 (List.all_eq_true.1 plain c mark)

/-- The text of a number is a word, also when the number is infinite or undefined. -/
theorem isWord_singleText (value : Number.Single) : IsWord value.toText :=
  fun _ member => markOf_of_isNumberCharacter
    (Number.Single.isNumberCharacter_of_mem_toText member)

theorem isWord_singleLiteral (value : Number.Single) : IsWord (singleLiteral value) :=
  (isWord_singleText value).append (isWord_ofList (by decide))

/-! ## Literals -/

/-- The body of a literal never ends its string. -/
theorem scan_literalBody (closers characters : List Char) :
    scan ⟨.string, closers⟩ (Text.literalBody characters) = some ⟨.string, closers⟩ := by
  induction characters with
  | nil => rfl
  | cons c rest ih =>
      have single : scan ⟨.string, closers⟩ (Text.literalCharacter c) =
          some ⟨.string, closers⟩ := by
        rcases Text.literalCharacter_cases c with
          ⟨mark, written⟩ | ⟨written, notBackslash, notQuote, _, notNewline⟩
        · rw [written]
          rfl
        · rw [written]
          simp [notBackslash, notQuote, notNewline]
      rw [Text.literalBody_cons, scan_append, single]
      exact ih

/-- The body of a literal does not leave the literal. -/
@[simp] theorem scanText_literal
    (closers : List Char)
    (text : String) :
    scanText (some ⟨.string, closers⟩) (Text.literal text) = some ⟨.string, closers⟩ := by
  rw [scanText_some, Text.literal, String.toList_ofList]
  exact scan_literalBody closers text.toList

/-- A string literal is code, whatever its text is. -/
@[simp] theorem isCode_stringLiteral (text : String) : IsCode (Text.stringLiteral text) := by
  intro closers
  simp [Text.stringLiteral]

/-- Texts that are code, with commas between them, are code. -/
theorem isCode_commaList
    {texts : List String}
    (codes : ∀ text ∈ texts, IsCode text) :
    IsCode (", ".intercalate texts) := by
  induction texts with
  | nil => exact fun _ => rfl
  | cons first rest ih =>
      have firstCode := codes first List.mem_cons_self
      cases rest with
      | nil => simpa using firstCode
      | cons second others =>
          have later := ih fun text member => codes text (List.mem_cons_of_mem _ member)
          rw [String.intercalate_cons_cons]
          exact (firstCode.append (isWord_ofList (by decide)).isCode).append later

@[simp] theorem isCode_literalList (texts : List String) : IsCode (literalList texts) := by
  refine isCode_commaList fun text member => ?_
  obtain ⟨value, _, rfl⟩ := List.mem_map.1 member
  exact isCode_stringLiteral value

end Source
end QuestMod
