/-!
# Token trees

Generated source is checked as a token tree: literals and comments are opaque, and
every bracket closes with its own kind. Nothing here knows about statements.

White space and comments are skipped between tokens. A token is a bracketed group,
a directive line, a literal or a run of other characters. Reading stops at the first
token that cannot be read; the place of the failure is the furthest place at which
no token could be read, which for an open group lies inside the group.

Texts are character lists, and a place in a text is the list of the characters that
follow it.
-/

namespace QuestMod
namespace Source

/-- A token with the characters it was read from. -/
inductive Token
  | group (opening : Char) (inner : List Token)
  | directive (characters : List Char)
  | interpolated (characters : List Char)
  | verbatim (characters : List Char)
  | string (characters : List Char)
  | character (characters : List Char)
  | atom (characters : List Char)

/-- The bracket that closes a group. -/
def closerOf? : Char → Option Char
  | '{' => some '}'
  | '(' => some ')'
  | '[' => some ']'
  | _ => none

/-- White space between tokens. The byte order mark counts as white space. -/
def isSpace (c : Char) : Bool :=
  c == ' ' || c == '\t' || c == '\r' || c == '\n' || c == '\uFEFF'

/-- Puts a character in front of the characters read so far. -/
def consumed (c : Char) (reading : List Char × List Char) : List Char × List Char :=
  (c :: reading.1, reading.2)

/-- The rest of a line: what stands in front of the next line feed. -/
def spanLine (characters : List Char) : List Char × List Char :=
  (characters.takeWhile (· != '\n'), characters.dropWhile (· != '\n'))

/-- What follows the end of a block comment whose body starts here. -/
def afterBlockComment? : List Char → Option (List Char)
  | [] => none
  | '*' :: '/' :: rest => some rest
  | _ :: rest => afterBlockComment? rest

/-- A string body up to its closing quote. A backslash takes the next character with
it, and no line feed may stand in the body unescaped. -/
def stringBody? : List Char → Option (List Char × List Char)
  | [] => none
  | '"' :: rest => some (['"'], rest)
  | '\\' :: c :: rest => (stringBody? rest).map (consumed '\\' ∘ consumed c)
  | '\\' :: [] => none
  | '\n' :: _ => none
  | c :: rest => (stringBody? rest).map (consumed c)

/-- A character literal body up to its closing quote. -/
def characterBody? : List Char → Option (List Char × List Char)
  | [] => none
  | '\'' :: rest => some (['\''], rest)
  | '\\' :: c :: rest => (characterBody? rest).map (consumed '\\' ∘ consumed c)
  | '\\' :: [] => none
  | '\n' :: _ => none
  | c :: rest => (characterBody? rest).map (consumed c)

/-- A verbatim string body up to its closing quote. A doubled quote stands for one
quote. -/
def verbatimBody? : List Char → Option (List Char × List Char)
  | [] => none
  | '"' :: '"' :: rest => (verbatimBody? rest).map (consumed '"' ∘ consumed '"')
  | '"' :: rest => some (['"'], rest)
  | c :: rest => (verbatimBody? rest).map (consumed c)

/-- A reading that keeps what another one leaves of a shorter place leaves less than its own
place. -/
theorem length_of_map
    {α : Type} {read : List Char × List Char → α × List Char}
    {reading : Option (List Char × List Char)} {shorter longer : List Char}
    {taken : α} {rest : List Char} (reads : reading.map read = some (taken, rest))
    (keeps : ∀ inner, (read inner).2 = inner.2)
    (leaves : ∀ {body rest}, reading = some (body, rest) → rest.length < shorter.length)
    (within : shorter.length ≤ longer.length) :
    rest.length < longer.length := by
  obtain ⟨inner, found, equal⟩ := Option.map_eq_some_iff.1 reads
  obtain rfl : inner.2 = rest := (keeps inner).symm.trans (congrArg Prod.snd equal)
  exact Nat.lt_of_lt_of_le (leaves found) within

theorem stringBody?_length {characters body rest : List Char}
    (reads : stringBody? characters = some (body, rest)) :
    rest.length < characters.length := by
  fun_induction stringBody? characters generalizing body rest with
  | case1 => simp at reads
  | case2 => simp_all
  | case3 c tail ih => exact length_of_map reads (fun _ => rfl) ih (Nat.le_add_right _ 2)
  | case4 => simp at reads
  | case5 => simp at reads
  | case6 c tail _ _ _ _ ih => exact length_of_map reads (fun _ => rfl) ih (Nat.le_add_right _ 1)

theorem characterBody?_length {characters body rest : List Char}
    (reads : characterBody? characters = some (body, rest)) :
    rest.length < characters.length := by
  fun_induction characterBody? characters generalizing body rest with
  | case1 => simp at reads
  | case2 => simp_all
  | case3 c tail ih => exact length_of_map reads (fun _ => rfl) ih (Nat.le_add_right _ 2)
  | case4 => simp at reads
  | case5 => simp at reads
  | case6 c tail _ _ _ _ ih => exact length_of_map reads (fun _ => rfl) ih (Nat.le_add_right _ 1)

theorem verbatimBody?_length {characters body rest : List Char}
    (reads : verbatimBody? characters = some (body, rest)) :
    rest.length < characters.length := by
  fun_induction verbatimBody? characters generalizing body rest with
  | case1 => simp at reads
  | case2 tail ih => exact length_of_map reads (fun _ => rfl) ih (Nat.le_add_right _ 2)
  | case3 => simp_all
  | case4 c tail _ _ ih => exact length_of_map reads (fun _ => rfl) ih (Nat.le_add_right _ 1)

theorem afterBlockComment?_length {characters rest : List Char}
    (reads : afterBlockComment? characters = some rest) :
    rest.length < characters.length := by
  fun_induction afterBlockComment? characters with
  | case1 => simp at reads
  | case2 tail =>
      cases reads
      simp only [List.length_cons]
      omega
  | case3 c tail _ ih =>
      have := ih reads
      simp only [List.length_cons]
      omega

theorem spanLine_rest_length (characters : List Char) :
    (spanLine characters).2.length ≤ characters.length := by
  exact (List.dropWhile_suffix _).length_le

/-- The body of a hole in an interpolated string, up to its closing brace. A string
in the hole is opaque when it is closed; a quote that opens no string is an ordinary
character. -/
def holeBody? : List Char → Option (List Char × List Char)
  | [] => none
  | '}' :: rest => some (['}'], rest)
  | '\n' :: _ => none
  | '"' :: rest =>
      match reads : stringBody? rest with
      | some (body, after) =>
          have : after.length < rest.length := stringBody?_length reads
          (holeBody? after).map fun reading => ('"' :: body ++ reading.1, reading.2)
      | none => (holeBody? rest).map (consumed '"')
  | c :: rest => (holeBody? rest).map (consumed c)
termination_by characters => characters.length
decreasing_by all_goals simp_all; try omega

theorem holeBody?_length {characters body rest : List Char}
    (reads : holeBody? characters = some (body, rest)) :
    rest.length < characters.length := by
  fun_induction holeBody? characters generalizing body rest with
  | case1 => simp at reads
  | case2 => simp_all
  | case3 => simp at reads
  | case4 tail inner after found shorter ih =>
      exact length_of_map reads (fun _ => rfl) ih (Nat.le_succ_of_le (Nat.le_of_lt shorter))
  | case5 tail _ ih => exact length_of_map reads (fun _ => rfl) ih (Nat.le_add_right _ 1)
  | case6 c tail _ _ _ ih => exact length_of_map reads (fun _ => rfl) ih (Nat.le_add_right _ 1)

/-- An interpolated string body up to its closing quote. A doubled opening brace
stands for one brace, a single one opens a hole when the hole is closed, and
otherwise it is an ordinary character. -/
def interpolatedBody? : List Char → Option (List Char × List Char)
  | [] => none
  | '"' :: rest => some (['"'], rest)
  | '{' :: '{' :: rest => (interpolatedBody? rest).map (consumed '{' ∘ consumed '{')
  | '\\' :: c :: rest => (interpolatedBody? rest).map (consumed '\\' ∘ consumed c)
  | '\\' :: [] => none
  | '\n' :: _ => none
  | '{' :: rest =>
      match reads : holeBody? rest with
      | some (body, after) =>
          have : after.length < rest.length := holeBody?_length reads
          (interpolatedBody? after).map fun reading => ('{' :: body ++ reading.1, reading.2)
      | none => (interpolatedBody? rest).map (consumed '{')
  | c :: rest => (interpolatedBody? rest).map (consumed c)
termination_by characters => characters.length
decreasing_by all_goals simp_all; try omega

/-- A single bracket, quote, mark or white space that no run of other characters
holds. -/
def isAtomBreak (c : Char) : Bool :=
  c == '{' || c == '}' || c == '(' || c == ')' || c == '[' || c == ']' || c == '"' ||
    c == '\'' || c == '#' || c == ' ' || c == '\t' || c == '\r' || c == '\n'

/-- A run of other characters ends in front of these characters. -/
def breaksAtom : List Char → Bool
  | [] => true
  | '/' :: '/' :: _ => true
  | '/' :: '*' :: _ => true
  | '@' :: '"' :: _ => true
  | '$' :: '"' :: _ => true
  | c :: _ => isAtomBreak c

/-- The longest run of other characters. -/
def spanAtom : List Char → List Char × List Char
  | [] => ([], [])
  | c :: rest =>
      if breaksAtom (c :: rest) then ([], c :: rest) else consumed c (spanAtom rest)

/-- A token without inner tokens, and what follows it. -/
def leaf? : List Char → Option (Token × List Char)
  | [] => none
  | '#' :: rest =>
      let line := spanLine rest
      some (.directive ('#' :: line.1), line.2)
  | '$' :: '"' :: rest =>
      (interpolatedBody? rest).map fun reading =>
        (.interpolated ('$' :: '"' :: reading.1), reading.2)
  | '@' :: '"' :: rest =>
      (verbatimBody? rest).map fun reading => (.verbatim ('@' :: '"' :: reading.1), reading.2)
  | '"' :: rest =>
      (stringBody? rest).map fun reading => (.string ('"' :: reading.1), reading.2)
  | '\'' :: '\'' :: _ => none
  | '\'' :: rest =>
      (characterBody? rest).map fun reading => (.character ('\'' :: reading.1), reading.2)
  | characters =>
      match spanAtom characters with
      | ([], _) => none
      | (run, rest) => some (.atom run, rest)

/-- What follows the white space and comments here. A block comment that is not
closed is not skipped. -/
def skip : List Char → List Char
  | [] => []
  | '/' :: '/' :: rest => skip (spanLine rest).2
  | '/' :: '*' :: rest =>
      match reads : afterBlockComment? rest with
      | some after =>
          have := afterBlockComment?_length reads
          skip after
      | none => '/' :: '*' :: rest
  | c :: rest => if isSpace c then skip rest else c :: rest
termination_by characters => characters.length
decreasing_by
  · have := spanLine_rest_length rest
    simp only [List.length_cons]
    omega
  · simp only [List.length_cons]
    omega
  · simp only [List.length_cons]
    omega

theorem skip_length (characters : List Char) :
    (skip characters).length ≤ characters.length := by
  fun_induction skip characters with
  | case1 => simp
  | case2 rest ih =>
      have := spanLine_rest_length rest
      simp only [List.length_cons]
      omega
  | case3 rest after reads shorter ih =>
      simp only [List.length_cons]
      omega
  | case4 => simp
  | case5 c rest _ _ _ ih =>
      simp only [List.length_cons]
      omega
  | case6 => simp

theorem interpolatedBody?_length {characters body rest : List Char}
    (reads : interpolatedBody? characters = some (body, rest)) :
    rest.length < characters.length := by
  fun_induction interpolatedBody? characters generalizing body rest with
  | case1 => simp at reads
  | case2 => simp_all
  | case3 tail ih => exact length_of_map reads (fun _ => rfl) ih (Nat.le_add_right _ 2)
  | case4 c tail ih => exact length_of_map reads (fun _ => rfl) ih (Nat.le_add_right _ 2)
  | case5 => simp at reads
  | case6 => simp at reads
  | case7 tail _ hole after found shorter ih =>
      exact length_of_map reads (fun _ => rfl) ih (Nat.le_succ_of_le (Nat.le_of_lt shorter))
  | case8 tail _ _ ih => exact length_of_map reads (fun _ => rfl) ih (Nat.le_add_right _ 1)
  | case9 c tail _ _ _ _ _ _ ih =>
      exact length_of_map reads (fun _ => rfl) ih (Nat.le_add_right _ 1)

theorem spanAtom_append (characters : List Char) :
    (spanAtom characters).1 ++ (spanAtom characters).2 = characters := by
  induction characters with
  | nil => rfl
  | cons c rest ih =>
      unfold spanAtom
      split
      · rfl
      · simp [consumed, ih]

theorem leaf?_length {characters rest : List Char} {token : Token}
    (reads : leaf? characters = some (token, rest)) :
    rest.length < characters.length := by
  unfold leaf? at reads
  split at reads
  · simp at reads
  · rename_i line
    simp only [Option.some.injEq, Prod.mk.injEq] at reads
    have := spanLine_rest_length line
    rw [← reads.2, List.length_cons]
    omega
  · exact length_of_map reads (fun _ => rfl) interpolatedBody?_length (Nat.le_add_right _ 2)
  · exact length_of_map reads (fun _ => rfl) verbatimBody?_length (Nat.le_add_right _ 2)
  · exact length_of_map reads (fun _ => rfl) stringBody?_length (Nat.le_add_right _ 1)
  · simp at reads
  · exact length_of_map reads (fun _ => rfl) characterBody?_length (Nat.le_add_right _ 1)
  · split at reads
    · simp at reads
    · rename_i run tail nonempty spans
      simp only [Option.some.injEq, Prod.mk.injEq] at reads
      obtain ⟨_, rfl⟩ := reads
      have whole := congrArg List.length (spanAtom_append characters)
      rw [spans] at whole
      simp only [List.length_append] at whole
      cases run with
      | nil => exact absurd rfl nonempty
      | cons c run =>
          simp only [List.length_cons] at whole
          omega

/-- What reading tokens from a place gives: the tokens, the place where reading
stopped, and the place of the failure that stopped it. -/
structure Reading where
  tokens : List Token
  rest : List Char
  failure : List Char

namespace Reading

/-- Reading that stops at once, with a failure at some place. -/
def stop (characters failure : List Char) : Reading :=
  ⟨[], characters, failure⟩

/-- Reading with one more token in front. -/
def cons (token : Token) (reading : Reading) : Reading :=
  { reading with tokens := token :: reading.tokens }

end Reading

/-- Reads tokens from a place behind white space, as many as there are. -/
def readTokensFrom (characters : List Char) :
    { reading : Reading // reading.rest.length ≤ characters.length } :=
  match characters with
  | [] => ⟨.stop [] [], Nat.le_refl _⟩
  | c :: tail =>
      match closerOf? c with
      | some closer =>
          have := skip_length tail
          let inner := readTokensFrom (skip tail)
          match reached : inner.1.rest with
          | [] => ⟨.stop (c :: tail) inner.1.failure, Nat.le_refl _⟩
          | d :: after =>
              if d = closer then
                have innerLength := inner.2
                have := skip_length after
                have : (d :: after).length ≤ tail.length := by rw [← reached]; omega
                let later := readTokensFrom (skip after)
                ⟨later.1.cons (.group c inner.1.tokens), by
                  have := later.2
                  simp only [Reading.cons, List.length_cons] at *
                  omega⟩
              else ⟨.stop (c :: tail) inner.1.failure, Nat.le_refl _⟩
      | none =>
          match reads : leaf? (c :: tail) with
          | none => ⟨.stop (c :: tail) (c :: tail), Nat.le_refl _⟩
          | some (token, after) =>
              have := leaf?_length reads
              have := skip_length after
              let later := readTokensFrom (skip after)
              ⟨later.1.cons token, by
                have := later.2
                simp only [Reading.cons, List.length_cons] at *
                omega⟩
termination_by characters.length
decreasing_by all_goals simp only [List.length_cons] at *; omega

/-- Reads tokens from the front of a text. -/
def readTokens (characters : List Char) : Reading :=
  (readTokensFrom (skip characters)).1

/-- The tokens of a text, or the place where it stops being a token tree. -/
def parse (characters : List Char) : Except (List Char) (List Token) :=
  let reading := readTokens characters
  if reading.rest.isEmpty then .ok reading.tokens else .error reading.failure

/-- Why a text is no token tree at some place. -/
inductive SyntaxCause
  | unclosedBlock
  | unterminated
  | unexpected (c : Char)
  deriving DecidableEq

namespace SyntaxCause

/-- The cause of a failure, told by the character at its place. -/
def ofPlace : List Char → SyntaxCause
  | [] => .unclosedBlock
  | c :: _ =>
      if c = '"' ∨ c = '\'' ∨ c = '/' ∨ c = '@' ∨ c = '$' then .unterminated
      else .unexpected c

/-- The wording of a cause. -/
def message : SyntaxCause → String
  | .unclosedBlock => "unexpected end of input; a block is not closed"
  | .unterminated => "unterminated literal or comment"
  | .unexpected c => "unexpected '" ++ String.singleton c ++ "'"

end SyntaxCause

/-- A place where a text stops being a token tree. Lines and columns count from one,
columns count characters, and only line feeds end lines. -/
structure SyntaxFailure where
  line : Nat
  column : Nat
  cause : SyntaxCause
  deriving DecidableEq

namespace SyntaxFailure

/-- The failure at a place of a text. -/
def atPlace (characters place : List Char) : SyntaxFailure :=
  let before := characters.take (characters.length - place.length)
  { line := before.count '\n' + 1
    column := (before.reverse.takeWhile (· != '\n')).length + 1
    cause := .ofPlace place }

/-- The failure with its place and wording. -/
def message (failure : SyntaxFailure) : String :=
  "syntax error at " ++ toString failure.line ++ ":" ++ toString failure.column ++ ": " ++
    failure.cause.message

end SyntaxFailure

/-- Checks that a text is a token tree. -/
def checkTokens (source : String) : Except SyntaxFailure Unit :=
  match parse source.toList with
  | .ok _ => .ok ()
  | .error place => .error (.atPlace source.toList place)

end Source
end QuestMod
