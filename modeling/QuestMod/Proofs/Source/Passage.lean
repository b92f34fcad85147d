import QuestMod.Proofs.Source.Balance

/-!
# How far a walk gets

Reading tokens passes over white space, comments and tokens, and so does a walk: it gets to
where reading tokens stops, unless it meets an interpolated string before. So a walk gets over
each front of an accepted text that holds no dollar sign, whatever stands behind the front.
-/

namespace QuestMod
namespace Source

/-- A walk gets to where reading tokens stops, unless it meets an interpolated string. -/
theorem reaches_readTokensFrom
    (opened characters : List Char) :
    (∃ inner tail, Reaches ⟨.code, opened⟩ characters inner ('$' :: '"' :: tail)) ∨
      Reaches ⟨.code, opened⟩ characters opened (readTokensFrom (skip characters)).1.rest := by
  induction characters using readTokens_induction generalizing opened with
  | atEnd characters front =>
      have skips := reaches_skip opened characters
      rw [front] at skips ⊢
      rw [readTokensFrom_nil]
      exact .inr skips
  | group characters c tail closer after front opens closes inside later =>
      have skips := reaches_skip opened characters
      rw [front] at skips ⊢
      have enters := skips.trans (reaches_opening opened opens tail)
      rcases inside (c :: opened) with ⟨inner, hole, meets⟩ | stops
      · exact .inl ⟨inner, hole, enters.trans meets⟩
      · rw [closes] at stops
        have leaves := (enters.trans stops).trans (reaches_closer opened opens after)
        rw [readTokensFrom_of_group opens closes]
        rcases later opened with ⟨inner, hole, meets⟩ | stopsLater
        · exact .inl ⟨inner, hole, leaves.trans meets⟩
        · exact .inr (leaves.trans stopsLater)
  | unclosed characters c tail closer front opens unclosed inside =>
      have skips := reaches_skip opened characters
      rw [front] at skips ⊢
      rw [readTokensFrom_of_unclosed opens unclosed]
      exact .inr skips
  | unread characters c tail front single unread =>
      have skips := reaches_skip opened characters
      rw [front] at skips ⊢
      rw [readTokensFrom_of_leaf?_none single unread]
      exact .inr skips
  | leaf characters c tail token after front single reads later =>
      have skips := reaches_skip opened characters
      rw [front] at skips ⊢
      by_cases hole : ['$', '"'] <+: c :: tail
      · obtain ⟨more, equal⟩ := hole
        rw [← equal] at skips
        exact .inl ⟨opened, more, skips⟩
      · have passes := skips.trans (reaches_leaf? front hole single reads opened)
        rw [readTokensFrom_of_leaf?_some single reads]
        rcases later opened with ⟨inner, tail, meets⟩ | stops
        · exact .inl ⟨inner, tail, passes.trans meets⟩
        · exact .inr (passes.trans stops)

/-- In a text without interpolated strings a walk gets to where reading tokens stops. -/
theorem reaches_of_noHole
    (opened : List Char)
    {characters : List Char}
    (noHole : ¬ ['$', '"'] <:+: characters) :
    Reaches ⟨.code, opened⟩ characters opened (readTokensFrom (skip characters)).1.rest := by
  rcases reaches_readTokensFrom opened characters with ⟨inner, tail, meets⟩ | stops
  · have hole : ['$', '"'] <:+: '$' :: '"' :: tail := ⟨[], tail, rfl⟩
    exact absurd hole (meets.noHole noHole)
  · exact stops

/-- A walk gets over each front of a text that it gets over. -/
theorem walk_isSome_of_prefix
    {position : Position}
    {front characters : List Char}
    (within : front <+: characters)
    (walks : (walk position characters).isSome) :
    (walk position front).isSome := by
  obtain ⟨more, rfl⟩ := within
  rw [walk_append] at walks
  exact Option.isSome_of_isSome_bind walks

/-- A text is accepted when reading tokens gets to its end. -/
theorem checkTokens_eq_ok_iff {source : String} :
    checkTokens source = .ok () ↔ (readTokensFrom (skip source.toList)).1.rest = [] := by
  rw [checkTokens, parse, readTokens]
  cases (readTokensFrom (skip source.toList)).1.rest <;> simp

/-- A walk gets over each front of an accepted text in front of its first dollar sign. -/
theorem walk_isSome_of_checkTokens
    {source : String}
    (accepted : checkTokens source = .ok ())
    {front : List Char}
    (within : front <+: source.toList)
    (plain : '$' ∉ front) :
    (walk ⟨.code, []⟩ front).isSome := by
  have whole := checkTokens_eq_ok_iff.1 accepted
  rcases reaches_readTokensFrom [] source.toList with
    ⟨inner, tail, before, region, equal, _, walks⟩ | ⟨before, region, equal, _, walks⟩
  · rw [equal] at within
    have before_prefix : before <+: before ++ '$' :: '"' :: tail := List.prefix_append _ _
    rcases List.prefix_or_prefix_of_prefix within before_prefix with inside | beyond
    · exact walk_isSome_of_prefix inside (by simp [walks])
    · obtain ⟨more, rfl⟩ := beyond
      rw [List.prefix_append_right_inj] at within
      cases more with
      | nil => simp [walks]
      | cons c more =>
          obtain ⟨rfl, _⟩ := List.cons_prefix_cons.1 within
          exact absurd (by simp) plain
  · rw [whole, List.append_nil] at equal
    rw [equal] at within
    exact walk_isSome_of_prefix within (by simp [walks])

end Source
end QuestMod
