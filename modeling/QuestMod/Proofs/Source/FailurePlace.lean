import Mathlib.Data.List.Induction
import Mathlib.Tactic.SplitIfs
import QuestMod.Proofs.Source.Passage

/-!
# Where reading a text fails

A rejected text without interpolated strings is reported at a place that a walk gets to and
cannot go on from: the end of the text with a bracket open, a literal or a block comment that
does not end, or a closing bracket that does not close the last open one. What stands in
front of the place can still be completed, since only brackets are open there, and what stands
up to a wrong closing bracket cannot.
-/

namespace QuestMod
namespace Source

/-! ## Lines and columns -/

/-- The line and the column behind a character. -/
def advance (place : Nat × Nat) (c : Char) : Nat × Nat :=
  if c = '\n' then (place.1 + 1, 1) else (place.1, place.2 + 1)

/-- The line and the column behind a text, both counted from one. -/
def positionBehind (before : List Char) : Nat × Nat :=
  before.foldl advance (1, 1)

@[simp] theorem positionBehind_concat (before : List Char) (c : Char) :
    positionBehind (before ++ [c]) = advance (positionBehind before) c := by
  simp [positionBehind]

/-- A reported place counts the lines and columns in front of it. -/
theorem atPlace_position (before place : List Char) :
    positionBehind before =
      ((SyntaxFailure.atPlace (before ++ place) place).line,
        (SyntaxFailure.atPlace (before ++ place) place).column) := by
  have front : (before ++ place).take ((before ++ place).length - place.length) = before := by
    simp
  simp only [SyntaxFailure.atPlace, front]
  clear front
  induction before using List.reverseRecOn with
  | nil => rfl
  | append_singleton before c ih =>
      rw [positionBehind_concat, ih]
      by_cases feed : c = '\n' <;> simp [advance, feed]

/-- The position behind more text is a later one. -/
theorem positionBehind_append_later
    (before more : List Char)
    (filled : more ≠ []) :
    (positionBehind before).1 < (positionBehind (before ++ more)).1 ∨
      (positionBehind before).1 = (positionBehind (before ++ more)).1 ∧
        (positionBehind before).2 < (positionBehind (before ++ more)).2 := by
  induction more using List.reverseRecOn with
  | nil => exact absurd rfl filled
  | append_singleton more c ih =>
      rw [← List.append_assoc, positionBehind_concat]
      have later : (positionBehind before).1 ≤ (positionBehind (before ++ more)).1 ∧
          ((positionBehind before).1 = (positionBehind (before ++ more)).1 →
            (positionBehind before).2 ≤ (positionBehind (before ++ more)).2) := by
        cases more with
        | nil => simp
        | cons d more =>
            have behind := ih (List.cons_ne_nil d more)
            omega
      by_cases feed : c = '\n' <;> simp only [advance, feed, if_true, if_false] <;> omega

/-- A position tells which front of a text it lies behind. -/
theorem eq_of_positionBehind
    {first second source : List Char}
    (firstFront : first <+: source)
    (secondFront : second <+: source)
    (same : positionBehind first = positionBehind second) :
    first = second := by
  have whole {front more : List Char}
      (same : positionBehind front = positionBehind (front ++ more)) : front = front ++ more := by
    cases more with
    | nil => simp
    | cons c more =>
        have later := positionBehind_append_later front (c :: more) (List.cons_ne_nil c more)
        rw [← same] at later
        omega
  rcases List.prefix_or_prefix_of_prefix firstFront secondFront with ⟨more, rfl⟩ | ⟨more, rfl⟩
  · exact whole same
  · exact (whole same.symm).symm

/-! ## Unterminated literals and comments -/

/-- Between the quotes of a verbatim string a quote stands only together with another. -/
inductive IsVerbatimBody : List Char → Prop
  | nil : IsVerbatimBody []
  | doubled {rest : List Char} (later : IsVerbatimBody rest) :
      IsVerbatimBody ('"' :: '"' :: rest)
  | plain {c : Char} {rest : List Char} (notQuote : c ≠ '"') (later : IsVerbatimBody rest) :
      IsVerbatimBody (c :: rest)

/-- A literal or a block comment that does not end starts at the place, or an empty character
literal does. -/
inductive IsUnterminated : List Char → Prop
  | string {rest : List Char}
      (endless : ∀ body after, rest = body ++ '"' :: after → ¬ IsBody '"' body) :
      IsUnterminated ('"' :: rest)
  /-- A quote closes a verbatim string only if no other quote follows. -/
  | verbatim {rest : List Char}
      (endless : ∀ body after, rest = body ++ '"' :: after → after.head? ≠ some '"' →
        ¬ IsVerbatimBody body) :
      IsUnterminated ('@' :: '"' :: rest)
  | character {rest : List Char}
      (endless : ∀ body after, rest = body ++ '\'' :: after → ¬ IsBody '\'' body) :
      IsUnterminated ('\'' :: rest)
  | emptyCharacter (rest : List Char) : IsUnterminated ('\'' :: '\'' :: rest)
  | blockComment {rest : List Char} (endless : ¬ ['*', '/'] <:+: rest) :
      IsUnterminated ('/' :: '*' :: rest)

theorem verbatimBody?_isSome_of_isVerbatimBody
    {body after : List Char}
    (isBody : IsVerbatimBody body)
    (single : after.head? ≠ some '"') :
    (verbatimBody? (body ++ '"' :: after)).isSome := by
  induction isBody with
  | nil =>
      rw [List.nil_append, verbatimBody?]
      · rfl
      · rintro more rfl
        exact single rfl
  | doubled later ih =>
      rw [List.cons_append, List.cons_append, verbatimBody?, Option.isSome_map]
      exact ih
  | plain notQuote later ih =>
      rw [List.cons_append, verbatimBody?, Option.isSome_map]
      · exact ih
      all_goals simp_all

theorem afterBlockComment?_isSome_of_infix
    {characters : List Char}
    (closes : ['*', '/'] <:+: characters) :
    (afterBlockComment? characters).isSome := by
  fun_induction afterBlockComment? characters with
  | case1 => simp at closes
  | case2 => rfl
  | case3 c rest noEnd ih =>
      rcases List.infix_cons_iff.1 closes with ⟨more, front⟩ | later
      · cases front
        exact (noEnd more rfl rfl).elim
      · exact ih later

/-- Where a token has to start and none can be read, a closing bracket or a literal or comment
that does not end starts. -/
theorem closing_or_isUnterminated
    {characters tail : List Char}
    {c : Char}
    (front : skip characters = c :: tail)
    (noHole : ¬ ['$', '"'] <:+: c :: tail)
    (single : closerOf? c = none)
    (unread : leaf? (c :: tail) = none) :
    markOf c = .closing ∨ IsUnterminated (c :: tail) := by
  by_cases closing : markOf c = .closing
  · exact .inl closing
  refine .inr ?_
  unfold leaf? at unread
  split at unread
  case h_1 equal => cases equal
  case h_2 => cases unread
  case h_3 inside equal =>
    rw [equal] at noHole
    exact absurd ⟨[], inside, rfl⟩ noHole
  case h_4 inside equal =>
    rw [equal]
    refine .verbatim fun body after whole single isBody => ?_
    have reads := verbatimBody?_isSome_of_isVerbatimBody isBody single
    rw [← whole, Option.map_eq_none_iff.1 unread] at reads
    cases reads
  case h_5 inside equal =>
    rw [equal]
    refine .string fun body after whole isBody => ?_
    have reads := readsQuoted_stringBody?.of_isBody isBody after
    rw [← whole, Option.map_eq_none_iff.1 unread] at reads
    cases reads
  case h_6 inside equal =>
    rw [equal]
    exact .emptyCharacter inside
  case h_7 inside filled equal =>
    rw [equal]
    refine .character fun body after whole isBody => ?_
    have reads := readsQuoted_characterBody?.of_isBody isBody after
    rw [← whole, Option.map_eq_none_iff.1 unread] at reads
    cases reads
  case h_8 noEnd noDirective noInterpolated noVerbatim noString noEmpty noCharacter =>
    split at unread
    · rename_i after spans
      obtain ⟨inside, equal, unclosed⟩ := exists_blockComment_of_spanAtom front single closing
        noDirective noInterpolated noVerbatim noString noCharacter spans
      rw [equal]
      refine .blockComment fun closes => ?_
      have ends := afterBlockComment?_isSome_of_infix closes
      rw [unclosed] at ends
      cases ends
    · cases unread

/-! ## Where reading tokens fails -/

/-- Reading tokens goes on in no way: the text ends, a bracket closes, or a literal or comment
does not end. -/
inductive Halts : List Char → Prop
  | atEnd : Halts []
  | closing {c : Char} (closing : markOf c = .closing) (tail : List Char) : Halts (c :: tail)
  | unterminated {place : List Char} (endless : IsUnterminated place) : Halts place

/-- With the brackets open, the text goes on in no way at the place. -/
inductive Stuck : List Char → List Char → Prop
  | unclosed (opening : Char) (outer : List Char) : Stuck (opening :: outer) []
  | unterminated (opened : List Char) {place : List Char} (endless : IsUnterminated place) :
      Stuck opened place
  | unexpected {opened : List Char} {c : Char} (closing : markOf c = .closing)
      (wrong : closeBracket c opened = none) (tail : List Char) : Stuck opened (c :: tail)

/-- Where reading halts at something else than the bracket that closes the last open one, it is
stuck. -/
theorem Halts.stuck
    {place : List Char}
    (halts : Halts place)
    {opening closer : Char}
    (opens : closerOf? opening = some closer)
    (unclosed : ∀ after, place ≠ closer :: after)
    (outer : List Char) :
    Stuck (opening :: outer) place := by
  cases halts with
  | atEnd => exact .unclosed opening outer
  | @closing c closing tail =>
      have other : closer ≠ c := by
        rintro rfl
        exact unclosed tail rfl
      exact .unexpected closing (by simp [closeBracket, opens, other]) tail
  | unterminated endless => exact .unterminated _ endless

/-- Outside of all brackets reading halts at the end or is stuck. -/
theorem Halts.stuck_nil
    {place : List Char}
    (halts : Halts place)
    (filled : place ≠ []) :
    Stuck [] place := by
  cases halts with
  | atEnd => exact absurd rfl filled
  | closing closing tail => exact .unexpected closing rfl tail
  | unterminated endless => exact .unterminated _ endless

/-- Reading a text without interpolated strings halts where it fails, or a walk gets to the
place of the failure and is stuck there. -/
theorem readTokensFrom_failure
    (opened characters : List Char)
    (noHole : ¬ ['$', '"'] <:+: characters) :
    (readTokensFrom (skip characters)).1.failure = (readTokensFrom (skip characters)).1.rest ∧
        Halts (readTokensFrom (skip characters)).1.rest ∨
      ∃ inner, Reaches ⟨.code, opened⟩ characters inner
          (readTokensFrom (skip characters)).1.failure ∧
        Stuck inner (readTokensFrom (skip characters)).1.failure := by
  induction characters using readTokens_induction generalizing opened with
  | atEnd characters front =>
      rw [front, readTokensFrom_nil_eq]
      exact .inl ⟨rfl, .atEnd⟩
  | group characters c tail closer after front opens closes inside later =>
      have skips := reaches_skip opened characters
      rw [front] at skips ⊢
      have enters := skips.trans (reaches_opening opened opens tail)
      have stops := reaches_of_noHole (c :: opened) (enters.noHole noHole)
      rw [closes] at stops
      have leaves := (enters.trans stops).trans (reaches_closer opened opens after)
      rw [readTokensFrom_eq_of_group opens closes]
      rcases later opened (leaves.noHole noHole) with halts | ⟨inner, reaches, stuck⟩
      · exact .inl halts
      · exact .inr ⟨inner, leaves.trans reaches, stuck⟩
  | unclosed characters c tail closer front opens unclosed inside =>
      have skips := reaches_skip opened characters
      rw [front] at skips ⊢
      have enters := skips.trans (reaches_opening opened opens tail)
      have noInnerHole := enters.noHole noHole
      rw [readTokensFrom_eq_of_unclosed opens unclosed]
      refine .inr ?_
      rcases inside (c :: opened) noInnerHole with ⟨same, halts⟩ | ⟨inner, reaches, stuck⟩
      · rw [same]
        exact ⟨c :: opened, enters.trans (reaches_of_noHole _ noInnerHole),
          halts.stuck opens unclosed opened⟩
      · exact ⟨inner, enters.trans reaches, stuck⟩
  | unread characters c tail front single unread =>
      have skips := reaches_skip opened characters
      rw [front] at skips ⊢
      rw [readTokensFrom_eq_of_leaf?_none single unread]
      refine .inl ⟨rfl, ?_⟩
      rcases closing_or_isUnterminated front (skips.noHole noHole) single unread with
        closing | endless
      · exact .closing closing tail
      · exact .unterminated endless
  | leaf characters c tail token after front single reads later =>
      have skips := reaches_skip opened characters
      rw [front] at skips ⊢
      have noFrontHole : ¬ ['$', '"'] <+: c :: tail := fun hole =>
        skips.noHole noHole hole.isInfix
      have passes := skips.trans (reaches_leaf? front noFrontHole single reads opened)
      rw [readTokensFrom_eq_of_leaf?_some single reads]
      rcases later opened (passes.noHole noHole) with halts | ⟨inner, reaches, stuck⟩
      · exact .inl halts
      · exact .inr ⟨inner, passes.trans reaches, stuck⟩

/-! ## Closing what is open -/

/-- What a character does to the open brackets: it leaves them, or it is an opening bracket
and comes on top, or it closes the last open one. -/
def Changes (opened : List Char) (c : Char) (next : Position) : Prop :=
  next.opened = opened ∨ (closerOf? c).isSome ∧ next.opened = c :: opened ∨
    ∃ opening, opened = opening :: next.opened

theorem changes_of_closeBracket
    {opened : List Char}
    {c : Char}
    {next : Position}
    (closes : closeBracket c opened = some next) :
    Changes opened c next := by
  cases opened with
  | nil => cases closes
  | cons opening outer =>
      rw [closeBracket, Option.ite_none_right_eq_some] at closes
      obtain ⟨_, equal⟩ := closes
      cases equal
      exact .inr (.inr ⟨opening, rfl⟩)

theorem changes_of_codePosition
    {opened : List Char}
    {c : Char}
    {next : Position}
    (steps : codePosition opened c = some next) :
    Changes opened c next := by
  rw [codePosition] at steps
  by_cases opens : c = '{' ∨ c = '(' ∨ c = '['
  · rcases opens with rfl | rfl | rfl <;> cases steps <;> exact .inr (.inl ⟨rfl, rfl⟩)
  · rw [if_neg opens] at steps
    split_ifs at steps
    all_goals first
      | exact changes_of_closeBracket steps
      | (cases steps; exact .inl rfl)

theorem changes_of_characterPosition
    {opened : List Char}
    {c : Char}
    {next : Position}
    (steps : characterPosition opened c = some next) :
    Changes opened c next := by
  rw [characterPosition] at steps
  split_ifs at steps <;> cases steps <;> exact .inl rfl

theorem changes_of_step
    {position next : Position}
    {c : Char}
    (steps : position.step c = some next) :
    Changes position.opened c next := by
  obtain ⟨region, opened⟩ := position
  cases region <;> simp only [Position.step] at steps
  all_goals
    try split_ifs at steps
  all_goals first
    | exact changes_of_codePosition steps
    | exact changes_of_characterPosition steps
    | (cases steps; exact .inl rfl)

/-- Only opening brackets are open behind a text. -/
theorem closerOf?_isSome_of_walk
    {position finish : Position}
    {characters : List Char}
    (walks : walk position characters = some finish)
    (openers : ∀ opening ∈ position.opened, (closerOf? opening).isSome) :
    ∀ opening ∈ finish.opened, (closerOf? opening).isSome := by
  induction characters generalizing position with
  | nil =>
      cases walks
      exact openers
  | cons c rest ih =>
      obtain ⟨next, steps, later⟩ := Option.bind_eq_some_iff.1 walks
      refine ih later fun opening member => ?_
      rcases changes_of_step steps with same | ⟨opens, pushed⟩ | ⟨last, popped⟩
      · exact openers opening (same ▸ member)
      · rw [pushed] at member
        rcases List.mem_cons.1 member with rfl | outer
        · exact opens
        · exact openers opening outer
      · exact openers opening (popped ▸ List.mem_cons_of_mem last member)

/-- The brackets that close the open ones bring a walk out of all of them. -/
theorem walk_closers
    {opened : List Char}
    (openers : ∀ opening ∈ opened, (closerOf? opening).isSome) :
    walk ⟨.code, opened⟩ (opened.filterMap closerOf?) = some ⟨.code, []⟩ := by
  induction opened with
  | nil => rfl
  | cons opening outer ih =>
      obtain ⟨closer, opens⟩ := Option.isSome_iff_exists.1 (openers opening (by simp))
      have leaves : (Position.mk .code (opening :: outer)).step closer = some ⟨.code, outer⟩ := by
        rw [step_closing _ (markOf_of_closer opens), closeBracket, if_pos opens]
      rw [List.filterMap_cons_some opens, walk, leaves, Option.bind_some]
      exact ih fun inner member => openers inner (List.mem_cons_of_mem opening member)

/-- Where a walk may end, a line feed brings it back to code. -/
theorem step_feed
    {region : Region}
    (ends : Position.mayEnd region = true)
    (opened : List Char) :
    (Position.mk region opened).step '\n' = some ⟨.code, opened⟩ := by
  cases region <;> first | rfl | cases ends

/-- A text that a walk gets over can be completed on the next line. -/
theorem checkTokens_completed
    {before inner : List Char}
    {region : Region}
    (plain : '$' ∉ before)
    (walks : walk ⟨.code, []⟩ before = some ⟨region, inner⟩)
    (ends : Position.mayEnd region = true) :
    ∃ closers, (∀ c ∈ closers, c ∈ ['}', ')', ']']) ∧
      checkTokens (String.ofList (before ++ '\n' :: closers)) = .ok () := by
  have openers := closerOf?_isSome_of_walk walks (by simp)
  have closing : ∀ c ∈ inner.filterMap closerOf?, c ∈ ['}', ')', ']'] := by
    intro c member
    obtain ⟨opening, _, opens⟩ := List.mem_filterMap.1 member
    simpa using eq_closer_of_closing (markOf_of_closer opens)
  refine ⟨inner.filterMap closerOf?, closing, ?_⟩
  have through : walksToEnd ⟨.code, []⟩ (before ++ '\n' :: inner.filterMap closerOf?) = true := by
    rw [walksToEnd, walk_append, walks, Option.bind_some, walk, step_feed ends, Option.bind_some,
      walk_closers openers]
    rfl
  have noHole : ¬ ['$', '"'] <:+: before ++ '\n' :: inner.filterMap closerOf? := by
    intro hole
    have dollar := hole.subset (List.mem_cons_self ..)
    rcases List.mem_append.1 dollar with inFront | behind
    · exact plain inFront
    · rcases List.mem_cons.1 behind with feed | bracket
      · cases feed
      · have closes := closing _ bracket
        simp at closes
  rw [walksToEnd_eq_settles [] _ noHole] at through
  rw [checkTokens_eq_ok_iff, String.toList_ofList]
  cases stops : (readTokensFrom (skip (before ++ '\n' :: inner.filterMap closerOf?))).1.rest with
  | nil => rfl
  | cons c tail =>
      rw [stops] at through
      cases through

/-! ## The report of a rejected text -/

/-- A walk gets over the text, and a bracket is open behind it. -/
def LeavesOpen (before : List Char) : Prop :=
  ∃ region opening outer, walk ⟨.code, []⟩ before = some ⟨region, opening :: outer⟩

theorem ofPlace_of_isUnterminated
    {place : List Char}
    (endless : IsUnterminated place) :
    SyntaxCause.ofPlace place = .unterminated := by
  cases endless <;> rfl

/-- What a report says is true of the text in front of its place and the text from there on. -/
structure IsLocated (before place : List Char) (message : String) : Prop where
  /-- On the next line, closing brackets complete the text in front of the place. -/
  completes : ∃ closers, (∀ c ∈ closers, c ∈ ['}', ')', ']']) ∧
    checkTokens (String.ofList (before ++ '\n' :: closers)) = .ok ()
  unclosed_iff :
    message = "unexpected end of input; a block is not closed" ↔ place = [] ∧ LeavesOpen before
  unterminated_iff : message = "unterminated literal or comment" ↔ IsUnterminated place
  /-- Otherwise a closing bracket stands at the place, and no text that starts with the text
  up to and with the bracket is accepted. -/
  unexpected : message ≠ "unexpected end of input; a block is not closed" →
    message ≠ "unterminated literal or comment" →
    ∃ c tail, place = c :: tail ∧ c ∈ ['}', ')', ']'] ∧
      message = "unexpected '" ++ String.singleton c ++ "'" ∧
      ∀ rest, checkTokens (String.ofList (before ++ c :: rest)) ≠ .ok ()

/-- A bracket that a walk cannot close where it stands is accepted in no text that starts like
this one. -/
theorem checkTokens_ne_ok_of_closing
    {before inner tail : List Char}
    {region : Region}
    {c : Char}
    (plain : '$' ∉ before)
    (stands : StandsForCode region (c :: tail))
    (walks : walk ⟨.code, []⟩ before = some ⟨region, inner⟩)
    (closing : markOf c = .closing)
    (wrong : closeBracket c inner = none)
    (rest : List Char) :
    checkTokens (String.ofList (before ++ c :: rest)) ≠ .ok () := by
  intro accepted
  have notDollar : '$' ≠ c := by
    rintro rfl
    cases closing
  have front : before ++ [c] <+: (String.ofList (before ++ c :: rest)).toList :=
    ⟨rest, by simp⟩
  have gets := walk_isSome_of_checkTokens accepted front (by simp [plain, notDollar])
  rw [walk_append, walks, Option.bind_some, walk, stands.step_eq c rfl, step_closing _ closing,
    wrong] at gets
  cases gets

/-- Where a walk is stuck in front of a place, the cause told by the place is the true one. -/
theorem isLocated_of_stuck
    {before place inner : List Char}
    {region : Region}
    (plain : '$' ∉ before)
    (stands : StandsForCode region place)
    (walks : walk ⟨.code, []⟩ before = some ⟨region, inner⟩)
    (stuck : Stuck inner place) :
    IsLocated before place (SyntaxCause.ofPlace place).message := by
  have completes := checkTokens_completed plain walks stands.mayEnd
  cases stuck with
  | unclosed opening outer =>
      have leavesOpen : LeavesOpen before := ⟨region, opening, outer, walks⟩
      refine ⟨completes, ⟨fun _ => ⟨rfl, leavesOpen⟩, fun _ => rfl⟩,
        ⟨?_, fun endless => by cases endless⟩, ?_⟩
      · intro unterminated
        exact absurd unterminated (by decide)
      · intro other
        exact absurd rfl other
  | unterminated _ endless =>
      rw [ofPlace_of_isUnterminated endless]
      refine ⟨completes, ⟨?_, ?_⟩, ⟨fun _ => endless, fun _ => rfl⟩, ?_⟩
      · intro unclosed
        exact absurd unclosed (by decide)
      · rintro ⟨rfl, _⟩
        cases endless
      · intro _ other
        exact absurd rfl other
  | @unexpected _ c closing wrong tail =>
      have rejects := checkTokens_ne_ok_of_closing plain stands walks closing wrong
      have bracket := eq_closer_of_closing closing
      have cause : SyntaxCause.ofPlace (c :: tail) = .unexpected c := by
        rcases bracket with rfl | rfl | rfl <;> rfl
      rw [cause]
      refine ⟨completes, ⟨?_, ?_⟩, ⟨?_, ?_⟩, fun _ _ => ⟨c, tail, rfl, by simpa using bracket, rfl,
        rejects⟩⟩
      · intro unclosed
        rcases bracket with rfl | rfl | rfl <;> exact absurd unclosed (by decide)
      · rintro ⟨atEnd, _⟩
        cases atEnd
      · intro unterminated
        rcases bracket with rfl | rfl | rfl <;> exact absurd unterminated (by decide)
      · intro endless
        rw [ofPlace_of_isUnterminated endless] at cause
        cases cause

/-- A text that reading tokens does not get through is rejected where reading fails. -/
theorem checkTokens_eq_error
    {source : String}
    (filled : (readTokensFrom (skip source.toList)).1.rest ≠ []) :
    checkTokens source =
      .error (.atPlace source.toList (readTokensFrom (skip source.toList)).1.failure) := by
  rw [checkTokens, parse, readTokens]
  simp only [List.isEmpty_iff, filled, if_false]

/-- A rejected text without a dollar sign is reported at one place of it. The text in front of
the place can be completed with closing brackets on the next line. The message tells an open
bracket at the end of the text and a literal or comment that does not end just where these
are; otherwise it names the bracket at the place, which closes nothing in any text that starts
as this one does. -/
theorem checkTokens_error_located
    {source : String}
    (plain : '$' ∉ source.toList)
    {failure : SyntaxFailure}
    (rejected : checkTokens source = .error failure) :
    ∃ before place, source.toList = before ++ place ∧
      (∀ front, front <+: source.toList →
        (positionBehind front = (failure.line, failure.column) ↔ front = before)) ∧
      IsLocated before place failure.cause.message := by
  have noHole : ¬ ['$', '"'] <:+: source.toList := fun hole =>
    plain (hole.subset (List.mem_cons_self ..))
  have filled : (readTokensFrom (skip source.toList)).1.rest ≠ [] := by
    intro whole
    rw [checkTokens_eq_ok_iff.2 whole] at rejected
    cases rejected
  have reported :
      failure = .atPlace source.toList (readTokensFrom (skip source.toList)).1.failure := by
    rw [checkTokens_eq_error filled] at rejected
    cases rejected
    rfl
  have stops : ∃ inner, Reaches ⟨.code, []⟩ source.toList inner
      (readTokensFrom (skip source.toList)).1.failure ∧
      Stuck inner (readTokensFrom (skip source.toList)).1.failure := by
    rcases readTokensFrom_failure [] source.toList noHole with ⟨same, halts⟩ | stuck
    · rw [same]
      exact ⟨[], reaches_of_noHole [] noHole, halts.stuck_nil filled⟩
    · exact stuck
  obtain ⟨inner, ⟨before, region, whole, stands, walks⟩, stuck⟩ := stops
  have frontPlain : '$' ∉ before := fun dollar =>
    plain (whole ▸ List.mem_append_left _ dollar)
  have position := atPlace_position before (readTokensFrom (skip source.toList)).1.failure
  rw [← whole, ← reported] at position
  refine ⟨before, _, whole, fun front within => ⟨fun same => ?_, ?_⟩, ?_⟩
  · exact eq_of_positionBehind within (whole ▸ List.prefix_append _ _) (same.trans position.symm)
  · rintro rfl
    exact position
  · rw [reported]
    exact isLocated_of_stuck frontPlain stands walks stuck

/-- A bracket that is closed with another kind is reported where that stands. -/
theorem checkTokens_wrong_bracket_located :
    '$' ∉ "f(a,\n  b]".toList ∧
      checkTokens "f(a,\n  b]" = .error ⟨2, 4, .unexpected ']'⟩ ∧
      ∃ before place, "f(a,\n  b]".toList = before ++ place ∧
        (∀ front, front <+: "f(a,\n  b]".toList →
          (positionBehind front = (2, 4) ↔ front = before)) ∧
        IsLocated before place "unexpected ']'" := by
  have plain : '$' ∉ "f(a,\n  b]".toList := by decide
  have fails : (readTokensFrom (skip "f(a,\n  b]".toList)).1.rest ≠ [] ∧
      (readTokensFrom (skip "f(a,\n  b]".toList)).1.failure = [']'] := by decide +kernel
  have rejected : checkTokens "f(a,\n  b]" = .error ⟨2, 4, .unexpected ']'⟩ := by
    rw [checkTokens_eq_error fails.1, fails.2]
    rfl
  exact ⟨plain, rejected, checkTokens_error_located plain rejected⟩

end Source
end QuestMod
