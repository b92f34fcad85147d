import QuestMod.Proofs.Source.FailurePlace

/-!
# Literals and line ends

A line feed may not stand in a string or a character literal, but a backslash takes whatever
character follows it. So the line feeds in the literals of an accepted text are those that a
backslash takes, and no line of the text ends inside of a literal unless it ends with such a
backslash.
-/

namespace QuestMod
namespace Source

/-! ## Literals among tokens -/

/-- One of the tokens, or of the tokens in their groups at any depth, is a string or a
character literal with the given characters, quotes included. -/
inductive HasLiteral : List Token → List Char → Prop
  | string (literal : List Char) (rest : List Token) :
      HasLiteral (.string literal :: rest) literal
  | character (literal : List Char) (rest : List Token) :
      HasLiteral (.character literal :: rest) literal
  | inside {literal : List Char} {inner : List Token} (opening : Char) (rest : List Token)
      (within : HasLiteral inner literal) : HasLiteral (.group opening inner :: rest) literal
  | behind {literal : List Char} {rest : List Token} (token : Token)
      (later : HasLiteral rest literal) : HasLiteral (token :: rest) literal

/-- The characters that backslashes take with them. -/
def escapedCharacters : List Char → List Char
  | [] => []
  | '\\' :: c :: rest => c :: escapedCharacters rest
  | _ :: rest => escapedCharacters rest

theorem escapedCharacters_cons_of_ne
    {c : Char}
    (notEscape : c ≠ '\\')
    (rest : List Char) :
    escapedCharacters (c :: rest) = escapedCharacters rest := by
  rw [escapedCharacters]
  rintro d more equal
  exact absurd equal notEscape

/-- The characters consist of a body and the quote that closes it. -/
def IsClosedBody (quote : Char) (characters : List Char) : Prop :=
  ∃ body, characters = body ++ [quote] ∧ IsBody quote body

namespace IsClosedBody

variable {quote : Char} {characters : List Char}

/-- A body holds a line feed only where a backslash takes it. -/
theorem feed_mem_iff
    (closed : IsClosedBody quote characters)
    (notEscape : quote ≠ '\\')
    (notFeed : quote ≠ '\n') :
    '\n' ∈ characters ↔ '\n' ∈ escapedCharacters characters := by
  obtain ⟨body, rfl, isBody⟩ := closed
  induction isBody with
  | nil =>
      rw [List.nil_append, escapedCharacters_cons_of_ne notEscape, List.mem_singleton]
      exact ⟨fun same => absurd same.symm notFeed, fun inside => absurd inside List.not_mem_nil⟩
  | escaped c later ih =>
      rw [List.cons_append, List.cons_append, escapedCharacters, List.mem_cons, List.mem_cons,
        List.mem_cons, ih]
      simp
  | plain notQuote noEscape noFeed later ih =>
      rw [List.cons_append, escapedCharacters_cons_of_ne noEscape, List.mem_cons, ih]
      simp [Ne.symm noFeed]

end IsClosedBody

theorem ReadsQuoted.isClosedBody
    {quote : Char}
    {read? : List Char → Option (List Char × List Char)}
    (reader : ReadsQuoted quote read?)
    {characters body rest : List Char}
    (reads : read? characters = some (body, rest)) :
    IsClosedBody quote body := by
  obtain ⟨inner, isBody, closed, _⟩ := reader.exists_isBody reads
  exact ⟨inner, closed, isBody⟩

/-! ## Literals of a text -/

/-- The literal stands in the text, and its line feeds are those that a backslash takes. -/
structure EscapesFeeds (characters literal : List Char) : Prop where
  occurs : literal <:+: characters
  feed_mem_iff : '\n' ∈ literal ↔ '\n' ∈ escapedCharacters literal

theorem EscapesFeeds.of_suffix
    {characters rest literal : List Char}
    (escapes : EscapesFeeds rest literal)
    (within : rest <:+ characters) :
    EscapesFeeds characters literal :=
  ⟨escapes.occurs.trans within.isInfix, escapes.feed_mem_iff⟩

/-- A closed body behind its opening quote. -/
theorem IsClosedBody.escapesFeeds
    {quote : Char}
    {body rest : List Char}
    (closed : IsClosedBody quote body)
    (notEscape : quote ≠ '\\')
    (notFeed : quote ≠ '\n') :
    EscapesFeeds (quote :: (body ++ rest)) (quote :: body) where
  occurs := (List.prefix_append (quote :: body) rest).isInfix
  feed_mem_iff := by
    rw [escapedCharacters_cons_of_ne notEscape, ← closed.feed_mem_iff notEscape notFeed,
      List.mem_cons]
    exact ⟨fun inside => inside.resolve_left (Ne.symm notFeed), .inr⟩

/-- A token without inner tokens is no literal, or one that escapes its line feeds. -/
theorem escapesFeeds_of_leaf?
    {characters after literal : List Char}
    {token : Token}
    {rest : List Token}
    (reads : leaf? characters = some (token, after))
    (has : HasLiteral (token :: rest) literal) :
    EscapesFeeds characters literal ∨ HasLiteral rest literal := by
  unfold leaf? at reads
  split at reads
  · cases reads
  · cases reads
    cases has with
    | behind _ later => exact .inr later
  · obtain ⟨⟨body, after⟩, _, equal⟩ := Option.map_eq_some_iff.1 reads
    cases equal
    cases has with
    | behind _ later => exact .inr later
  · obtain ⟨⟨body, after⟩, _, equal⟩ := Option.map_eq_some_iff.1 reads
    cases equal
    cases has with
    | behind _ later => exact .inr later
  · rename_i characters
    obtain ⟨⟨body, after⟩, found, equal⟩ := Option.map_eq_some_iff.1 reads
    cases equal
    cases has with
    | string =>
        have closed := readsQuoted_stringBody?.isClosedBody found
        rw [← readsQuoted_stringBody?.append characters body after found]
        exact .inl (closed.escapesFeeds (by decide) (by decide))
    | behind _ later => exact .inr later
  · cases reads
  · rename_i characters _
    obtain ⟨⟨body, after⟩, found, equal⟩ := Option.map_eq_some_iff.1 reads
    cases equal
    cases has with
    | character =>
        have closed := readsQuoted_characterBody?.isClosedBody found
        rw [← readsQuoted_characterBody?.append characters body after found]
        exact .inl (closed.escapesFeeds (by decide) (by decide))
    | behind _ later => exact .inr later
  · split at reads
    · cases reads
    · cases reads
      cases has with
      | behind _ later => exact .inr later

/-- The literals that are read from a text stand in it and escape their line feeds. -/
theorem escapesFeeds_of_readTokensFrom
    {characters literal : List Char}
    (has : HasLiteral (readTokensFrom (skip characters)).1.tokens literal) :
    EscapesFeeds characters literal := by
  induction characters using readTokens_induction with
  | atEnd characters front =>
      rw [front, readTokensFrom_nil_eq] at has
      cases has
  | group characters c tail closer after front opens closes inside later =>
      have skipped := skip_suffix characters
      rw [front] at has skipped
      have tailSuffix := (List.suffix_cons c tail).trans skipped
      have afterSuffix := readTokensFrom_skip_suffix tail
      rw [closes] at afterSuffix
      rw [readTokensFrom_eq_of_group opens closes] at has
      cases has with
      | inside _ _ within => exact (inside within).of_suffix tailSuffix
      | behind _ laterHas =>
          exact (later laterHas).of_suffix
            (((List.suffix_cons closer after).trans afterSuffix).trans tailSuffix)
  | unclosed characters c tail closer front opens unclosed inside =>
      rw [front, readTokensFrom_eq_of_unclosed opens unclosed] at has
      cases has
  | unread characters c tail front single unread =>
      rw [front, readTokensFrom_eq_of_leaf?_none single unread] at has
      cases has
  | leaf characters c tail token after front single reads later =>
      have skipped := skip_suffix characters
      rw [front] at has skipped
      rw [readTokensFrom_eq_of_leaf?_some single reads] at has
      rcases escapesFeeds_of_leaf? reads has with escapes | laterHas
      · exact escapes.of_suffix skipped
      · exact (later laterHas).of_suffix ((leaf?_suffix reads).trans skipped)

/-! ## Lines that end inside of a literal -/

/-- A string or a character literal is open, and no backslash stands last. -/
def isOpenLiteral : Region → Bool
  | .string | .characterFront | .character => true
  | _ => false

/-- A walk does not get over a line feed in an open literal. -/
theorem step_feed_of_isOpenLiteral
    {position : Position}
    (isOpen : isOpenLiteral position.region = true) :
    position.step '\n' = none := by
  obtain ⟨region, opened⟩ := position
  cases region <;> first | rfl | cases isOpen

/-- Behind the text a walk is not inside of a string or a character literal, except behind a
backslash. -/
def LeavesLiterals (text : List Char) : Prop :=
  ∃ position, walk ⟨.code, []⟩ text = some position ∧ isOpenLiteral position.region = false

theorem leavesLiterals_of_checkTokens
    {source : String}
    (plain : '$' ∉ source.toList)
    (accepted : checkTokens source = .ok ())
    {front rest : List Char}
    (splits : source.toList = front ++ '\n' :: rest) :
    LeavesLiterals front := by
  have within : front ++ ['\n'] <+: source.toList := by
    rw [splits]
    exact ⟨rest, List.append_assoc front ['\n'] rest⟩
  have gets := walk_isSome_of_checkTokens accepted within
    fun dollar => plain (within.subset dollar)
  rw [walk_append] at gets
  obtain ⟨position, walks⟩ := Option.isSome_iff_exists.1 (Option.isSome_of_isSome_bind gets)
  refine ⟨position, walks, ?_⟩
  rw [← Bool.not_eq_true]
  intro isOpen
  rw [walks, Option.bind_some, walk, step_feed_of_isOpenLiteral isOpen] at gets
  cases gets

/-! ## Accepted texts -/

theorem parse_of_checkTokens
    {source : String}
    (accepted : checkTokens source = .ok ()) :
    parse source.toList = .ok (readTokensFrom (skip source.toList)).1.tokens := by
  rw [parse, readTokens, checkTokens_eq_ok_iff.1 accepted]
  rfl

/-- In an accepted text without a dollar sign, the line feeds in strings and character
literals are those that a backslash takes, and no line ends inside of a literal unless a
backslash stands at its end. -/
theorem literals_cross_lines_only_behind_backslash
    {source : String}
    (plain : '$' ∉ source.toList)
    (accepted : checkTokens source = .ok ()) :
    (∃ tokens, parse source.toList = .ok tokens ∧
      ∀ literal, HasLiteral tokens literal → EscapesFeeds source.toList literal) ∧
    ∀ front rest, source.toList = front ++ '\n' :: rest → LeavesLiterals front :=
  ⟨⟨_, parse_of_checkTokens accepted, fun _ has => escapesFeeds_of_readTokensFrom has⟩,
    fun _ _ splits => leavesLiterals_of_checkTokens plain accepted splits⟩

/-- A call with two literals on the lines that they begin on. -/
theorem literals_keep_lines_of_call :
    '$' ∉ "f('\\n',\n  \"\\\"\\\\\");\n".toList ∧
      checkTokens "f('\\n',\n  \"\\\"\\\\\");\n" = .ok () ∧
      (∃ tokens, parse "f('\\n',\n  \"\\\"\\\\\");\n".toList = .ok tokens ∧
        ∀ literal, HasLiteral tokens literal →
          EscapesFeeds "f('\\n',\n  \"\\\"\\\\\");\n".toList literal) ∧
      ∀ front rest, "f('\\n',\n  \"\\\"\\\\\");\n".toList = front ++ '\n' :: rest →
        LeavesLiterals front := by
  have plain : '$' ∉ "f('\\n',\n  \"\\\"\\\\\");\n".toList := by decide
  have accepted : checkTokens "f('\\n',\n  \"\\\"\\\\\");\n" = .ok () := by decide +kernel
  exact ⟨plain, accepted, literals_cross_lines_only_behind_backslash plain accepted⟩

/-- A backslash at the end of its line keeps a string open on the next one. -/
theorem openString_crosses_line :
    '$' ∉ "\"open\\\nclosed\"".toList ∧ checkTokens "\"open\\\nclosed\"" = .ok () ∧
      ∃ tokens literal, parse "\"open\\\nclosed\"".toList = .ok tokens ∧
        HasLiteral tokens literal ∧ '\n' ∈ literal := by
  have spelled : "\"open\\\nclosed\"".toList =
      ['"', 'o', 'p', 'e', 'n', '\\', '\n', 'c', 'l', 'o', 's', 'e', 'd', '"'] := rfl
  have accepted : checkTokens "\"open\\\nclosed\"" = .ok () := by decide +kernel
  have front : skip "\"open\\\nclosed\"".toList = "\"open\\\nclosed\"".toList := by
    rw [spelled]
    decide +kernel
  refine ⟨by decide, accepted, _, "\"open\\\nclosed\"".toList, parse_of_checkTokens accepted, ?_,
    by decide⟩
  rw [front, spelled, readTokensFrom_eq_of_leaf?_some rfl rfl]
  exact .string _ _

end Source
end QuestMod
