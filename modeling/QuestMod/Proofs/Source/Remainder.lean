import QuestMod.Source.TokenTree

/-!
# What reading leaves

Strings and character literals are read exactly up to the quote that closes them. A literal
body and the characters behind it make up the characters that were read, and what follows
white space, a comment, a token or a sequence of tokens is an end of the text in front of
it. So a property that passes on to the ends of a text holds wherever reading goes on.
-/

namespace QuestMod
namespace Source

/-! ## Bodies between quotes -/

/-- Between the quotes of a string or a character literal a backslash takes the next
character with it, and neither a quote nor a line feed stands there alone. -/
inductive IsBody (quote : Char) : List Char → Prop
  | nil : IsBody quote []
  | escaped (c : Char) {rest : List Char} (later : IsBody quote rest) :
      IsBody quote ('\\' :: c :: rest)
  | plain {c : Char} {rest : List Char} (notQuote : c ≠ quote) (notEscape : c ≠ '\\')
      (notFeed : c ≠ '\n') (later : IsBody quote rest) : IsBody quote (c :: rest)

/-- The reader reads the body of a literal between such quotes: it takes what a backslash
escapes together with the backslash, ends behind the next quote and stops at a line feed. -/
structure ReadsQuoted
    (quote : Char)
    (read? : List Char → Option (List Char × List Char)) : Prop where
  atEnd : read? [] = none
  closing (rest : List Char) : read? (quote :: rest) = some ([quote], rest)
  escaped (c : Char) (rest : List Char) :
    read? ('\\' :: c :: rest) = (read? rest).map (consumed '\\' ∘ consumed c)
  lone : read? ['\\'] = none
  feed (rest : List Char) : read? ('\n' :: rest) = none
  plain {c : Char} (notQuote : c ≠ quote) (notEscape : c ≠ '\\') (notFeed : c ≠ '\n')
    (rest : List Char) : read? (c :: rest) = (read? rest).map (consumed c)

theorem readsQuoted_stringBody? : ReadsQuoted '"' stringBody? where
  atEnd := rfl
  closing _ := rfl
  escaped _ _ := rfl
  lone := rfl
  feed _ := rfl
  plain notQuote notEscape notFeed _ := by
    rw [stringBody?]
    · exact notQuote
    · exact fun _ _ same _ => notEscape same
    · exact fun same _ => notEscape same
    · exact notFeed

theorem readsQuoted_characterBody? : ReadsQuoted '\'' characterBody? where
  atEnd := rfl
  closing _ := rfl
  escaped _ _ := rfl
  lone := rfl
  feed _ := rfl
  plain notQuote notEscape notFeed _ := by
    rw [characterBody?]
    · exact notQuote
    · exact fun _ _ same _ => notEscape same
    · exact fun same _ => notEscape same
    · exact notFeed

namespace ReadsQuoted

variable
  {quote : Char}
  {read? : List Char → Option (List Char × List Char)}
  {characters body rest : List Char}

/-- A body in front of its closing quote is read up to that quote. -/
theorem of_isBody
    (reader : ReadsQuoted quote read?)
    (isBody : IsBody quote body)
    (rest : List Char) :
    read? (body ++ quote :: rest) = some (body ++ [quote], rest) := by
  induction isBody with
  | nil => exact reader.closing rest
  | escaped c later ih =>
      rw [List.cons_append, List.cons_append, reader.escaped, ih]
      rfl
  | plain notQuote notEscape notFeed later ih =>
      rw [List.cons_append, reader.plain notQuote notEscape notFeed, ih]
      rfl

/-- What is read is a body with its closing quote. -/
theorem exists_isBody
    (reader : ReadsQuoted quote read?)
    (reads : read? characters = some (body, rest)) :
    ∃ inner, IsBody quote inner ∧ body = inner ++ [quote] ∧
      characters = inner ++ quote :: rest := by
  -- An escape takes two characters at once, so the induction is on the length.
  induction size : characters.length using Nat.strongRecOn
    generalizing characters body with
  | ind size ih =>
    subst size
    cases characters with
    | nil =>
        rw [reader.atEnd] at reads
        cases reads
    | cons c tail =>
        by_cases isQuote : c = quote
        · subst isQuote
          rw [reader.closing] at reads
          cases reads
          exact ⟨[], .nil, rfl, rfl⟩
        by_cases isEscape : c = '\\'
        · subst isEscape
          cases tail with
          | nil =>
              rw [reader.lone] at reads
              cases reads
          | cons d tail =>
              rw [reader.escaped] at reads
              obtain ⟨⟨later, after⟩, found, equal⟩ := Option.map_eq_some_iff.1 reads
              cases equal
              have shorter : tail.length < ('\\' :: d :: tail).length := by
                simp only [List.length_cons]
                omega
              obtain ⟨inner, isBody, rfl, rfl⟩ := ih _ shorter found rfl
              exact ⟨'\\' :: d :: inner, isBody.escaped d, rfl, rfl⟩
        by_cases isFeed : c = '\n'
        · subst isFeed
          rw [reader.feed] at reads
          cases reads
        · rw [reader.plain isQuote isEscape isFeed] at reads
          obtain ⟨⟨later, after⟩, found, equal⟩ := Option.map_eq_some_iff.1 reads
          cases equal
          obtain ⟨inner, isBody, rfl, rfl⟩ := ih _ (Nat.lt_succ_self _) found rfl
          exact ⟨c :: inner, .plain isQuote isEscape isFeed isBody, rfl, rfl⟩

theorem append
    (reader : ReadsQuoted quote read?)
    (characters body rest : List Char)
    (reads : read? characters = some (body, rest)) :
    body ++ rest = characters := by
  obtain ⟨inner, _, rfl, rfl⟩ := reader.exists_isBody reads
  rw [List.append_assoc, List.singleton_append]

end ReadsQuoted

/-! ## Literal bodies -/

/-- A character that neither escapes what follows nor stands last as a backslash is none. -/
theorem ne_backslash
    {c : Char}
    {tail : List Char}
    (notEscape : ∀ d rest, c = '\\' → tail = d :: rest → False)
    (notLone : c = '\\' → tail = [] → False) :
    c ≠ '\\' := by
  rintro rfl
  cases tail with
  | nil => exact notLone rfl rfl
  | cons d rest => exact notEscape d rest rfl rfl

/-- One character in front is read together with what follows it. -/
theorem append_of_map_consumed
    {c : Char}
    {tail : List Char}
    {reading : Option (List Char × List Char)}
    (appends : ∀ body rest, reading = some (body, rest) → body ++ rest = tail)
    {body rest : List Char}
    (reads : reading.map (consumed c) = some (body, rest)) :
    body ++ rest = c :: tail := by
  obtain ⟨⟨inner, after⟩, found, equal⟩ := Option.map_eq_some_iff.1 reads
  simp only [consumed, Prod.mk.injEq] at equal
  obtain ⟨rfl, rfl⟩ := equal
  rw [List.cons_append, appends inner after found]

/-- Two characters in front are read together with what follows them. -/
theorem append_of_map_consumed_consumed
    {c d : Char}
    {tail : List Char}
    {reading : Option (List Char × List Char)}
    (appends : ∀ body rest, reading = some (body, rest) → body ++ rest = tail)
    {body rest : List Char}
    (reads : reading.map (consumed c ∘ consumed d) = some (body, rest)) :
    body ++ rest = c :: d :: tail := by
  rw [← Option.map_map] at reads
  exact append_of_map_consumed (fun _ _ => append_of_map_consumed appends) reads

/-- A part in front is read together with what follows it. -/
theorem append_of_map_append
    {front middle tail : List Char}
    {reading : Option (List Char × List Char)}
    (appends : ∀ body rest, reading = some (body, rest) → body ++ rest = middle)
    (front_append : front ++ middle = tail)
    {body rest : List Char}
    (reads : (reading.map fun inner => (front ++ inner.1, inner.2)) = some (body, rest)) :
    body ++ rest = tail := by
  obtain ⟨⟨inner, after⟩, found, equal⟩ := Option.map_eq_some_iff.1 reads
  simp only [Prod.mk.injEq] at equal
  obtain ⟨rfl, rfl⟩ := equal
  rw [List.append_assoc, appends inner after found, front_append]

theorem verbatimBody?_append
    (characters body rest : List Char)
    (reads : verbatimBody? characters = some (body, rest)) :
    body ++ rest = characters := by
  fun_induction verbatimBody? characters generalizing body rest with
  | case1 => cases reads
  | case2 tail ih => exact append_of_map_consumed_consumed ih reads
  | case3 tail _ =>
      cases reads
      rfl
  | case4 c tail _ _ ih => exact append_of_map_consumed ih reads

theorem holeBody?_append
    (characters body rest : List Char)
    (reads : holeBody? characters = some (body, rest)) :
    body ++ rest = characters := by
  fun_induction holeBody? characters generalizing body rest with
  | case1 => cases reads
  | case2 tail =>
      cases reads
      rfl
  | case3 => cases reads
  | case4 tail inner after found _ ih =>
      have string := readsQuoted_stringBody?.append tail inner after found
      exact append_of_map_append ih (by rw [List.cons_append, string]) reads
  | case5 tail _ ih => exact append_of_map_consumed ih reads
  | case6 c tail _ _ _ ih => exact append_of_map_consumed ih reads

theorem interpolatedBody?_append
    (characters body rest : List Char)
    (reads : interpolatedBody? characters = some (body, rest)) :
    body ++ rest = characters := by
  fun_induction interpolatedBody? characters generalizing body rest with
  | case1 => cases reads
  | case2 tail =>
      cases reads
      rfl
  | case3 tail ih => exact append_of_map_consumed_consumed ih reads
  | case4 c tail ih => exact append_of_map_consumed_consumed ih reads
  | case5 => cases reads
  | case6 => cases reads
  | case7 tail _ hole after found _ ih =>
      have whole := holeBody?_append tail hole after found
      exact append_of_map_append ih (by rw [List.cons_append, whole]) reads
  | case8 tail _ _ ih => exact append_of_map_consumed ih reads
  | case9 c tail _ _ _ _ _ _ ih => exact append_of_map_consumed ih reads

/-! ## Ends of the text -/

theorem afterBlockComment?_suffix
    {characters rest : List Char}
    (reads : afterBlockComment? characters = some rest) :
    rest <:+ characters := by
  fun_induction afterBlockComment? characters with
  | case1 => cases reads
  | case2 tail =>
      cases reads
      exact ⟨['*', '/'], rfl⟩
  | case3 c tail _ ih => exact (ih reads).trans (List.suffix_cons c tail)

theorem spanLine_suffix (characters : List Char) : (spanLine characters).2 <:+ characters :=
  List.dropWhile_suffix _

theorem skip_suffix (characters : List Char) : skip characters <:+ characters := by
  fun_induction skip characters with
  | case1 => exact List.suffix_refl []
  | case2 rest ih => exact (ih.trans (spanLine_suffix rest)).trans ⟨['/', '/'], rfl⟩
  | case3 rest after reads _ ih =>
      exact (ih.trans (afterBlockComment?_suffix reads)).trans ⟨['/', '*'], rfl⟩
  | case4 rest => exact List.suffix_refl _
  | case5 c rest _ _ _ ih => exact ih.trans (List.suffix_cons c rest)
  | case6 c rest => exact List.suffix_refl _

/-- What follows a literal is what follows its body. -/
theorem suffix_of_map_literal
    (front : List Char)
    (literal : List Char → Token)
    {tail : List Char}
    {reading : Option (List Char × List Char)}
    (appends : ∀ body rest, reading = some (body, rest) → body ++ rest = tail)
    {token : Token}
    {rest : List Char}
    (reads : (reading.map fun inner => (literal inner.1, inner.2)) = some (token, rest)) :
    rest <:+ front ++ tail := by
  obtain ⟨⟨body, after⟩, found, equal⟩ := Option.map_eq_some_iff.1 reads
  cases equal
  exact ⟨front ++ body, by rw [List.append_assoc, appends body _ found]⟩

/-- What follows a token without inner tokens is an end of the text. -/
theorem leaf?_suffix
    {characters rest : List Char}
    {token : Token}
    (reads : leaf? characters = some (token, rest)) :
    rest <:+ characters := by
  unfold leaf? at reads
  split at reads
  · cases reads
  · rename_i line
    cases reads
    exact (spanLine_suffix line).trans (List.suffix_cons _ _)
  · rename_i inner
    exact suffix_of_map_literal ['$', '"'] (fun body => .interpolated ('$' :: '"' :: body))
      (interpolatedBody?_append inner) reads
  · rename_i inner
    exact suffix_of_map_literal ['@', '"'] (fun body => .verbatim ('@' :: '"' :: body))
      (verbatimBody?_append inner) reads
  · rename_i inner
    exact suffix_of_map_literal ['"'] (fun body => .string ('"' :: body))
      (readsQuoted_stringBody?.append inner) reads
  · cases reads
  · rename_i inner _
    exact suffix_of_map_literal ['\''] (fun body => .character ('\'' :: body))
      (readsQuoted_characterBody?.append inner) reads
  · split at reads
    · cases reads
    · rename_i run after _ spans
      cases reads
      refine ⟨run, ?_⟩
      rw [← spanAtom_append characters, spans]

end Source
end QuestMod
