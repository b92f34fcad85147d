import QuestMod.Proofs.Source.Remainder

/-!
# Scanning generated source

A scan walks once over a text and keeps what it is inside of and which brackets are
still to be closed. It knows only the part of the token grammar that generated source
uses: code without stray marks, string literals and line comments. Scanning goes on
from where it stopped, so the scan of a text is put together from the scans of its
parts, and a text whose scan ends where it started is a token tree.
-/

namespace QuestMod
namespace Source

/-- What a scan is inside of. -/
inductive ScanMode
  | code
  /-- Behind the first slash of a comment. -/
  | slash
  | comment
  | string
  /-- Behind a backslash in a string. -/
  | escape
  deriving DecidableEq

/-- Where a scan stands: what it is inside of, and the brackets that are still to be
closed, innermost first. -/
structure ScanState where
  mode : ScanMode
  closers : List Char
  deriving DecidableEq

/-- What a character means in code. -/
inductive Mark
  | plain
  | opening (closer : Char)
  | closing
  | quote
  | slash
  /-- A mark that generated code never holds. -/
  | foreign
  deriving DecidableEq

/-- The meaning of a character in code. -/
def markOf : Char → Mark
  | '{' => .opening '}'
  | '(' => .opening ')'
  | '[' => .opening ']'
  | '}' | ')' | ']' => .closing
  | '"' => .quote
  | '/' => .slash
  | '\'' | '#' | '@' | '$' => .foreign
  | _ => .plain

/-- The state behind a character of code. -/
def codeStep (closers : List Char) (c : Char) : Option ScanState :=
  match markOf c with
  | .plain => some ⟨.code, closers⟩
  | .opening closer => some ⟨.code, closer :: closers⟩
  | .closing =>
      match closers with
      | closer :: outer => if c = closer then some ⟨.code, outer⟩ else none
      | [] => none
  | .quote => some ⟨.string, closers⟩
  | .slash => some ⟨.slash, closers⟩
  | .foreign => none

/-- The state behind a character, unless the character cannot stand there. -/
def ScanState.step (state : ScanState) (c : Char) : Option ScanState :=
  match state.mode with
  | .code => codeStep state.closers c
  | .slash => if c = '/' then some ⟨.comment, state.closers⟩ else none
  | .comment => some ⟨if c = '\n' then .code else .comment, state.closers⟩
  | .string =>
      if c = '"' then some ⟨.code, state.closers⟩
      else if c = '\\' then some ⟨.escape, state.closers⟩
      else if c = '\n' then none
      else some state
  | .escape => some ⟨.string, state.closers⟩

/-- The state behind characters. -/
def scan : ScanState → List Char → Option ScanState
  | state, [] => some state
  | state, c :: rest => (state.step c).bind fun next => scan next rest

@[simp] theorem scan_nil (state : ScanState) : scan state [] = some state := rfl

theorem scan_cons
    (state : ScanState)
    (c : Char)
    (rest : List Char) :
    scan state (c :: rest) = (state.step c).bind fun next => scan next rest := rfl

/-- A scan goes on from where it stopped. -/
theorem scan_append
    (state : ScanState)
    (first second : List Char) :
    scan state (first ++ second) =
      (scan state first).bind fun next => scan next second := by
  induction first generalizing state with
  | nil => rfl
  | cons c rest ih =>
      simp only [List.cons_append, scan_cons, Option.bind_assoc]
      exact congrArg _ (funext ih)

@[simp] theorem ScanState.step_code
    (closers : List Char)
    (c : Char) :
    (ScanState.mk .code closers).step c = codeStep closers c := rfl

/-- The state with more brackets to close behind its own. -/
def ScanState.inside (state : ScanState) (outer : List Char) : ScanState :=
  ⟨state.mode, state.closers ++ outer⟩

theorem step_inside
    {state next : ScanState}
    {c : Char}
    (steps : state.step c = some next)
    (outer : List Char) :
    (state.inside outer).step c = some (next.inside outer) := by
  obtain ⟨mode, closers⟩ := state
  cases mode with
  | code =>
      simp only [ScanState.inside, ScanState.step_code] at steps ⊢
      unfold codeStep at steps ⊢
      split at steps
      case h_3 =>
        cases closers with
        | nil => cases steps
        | cons closer rest =>
            simp only [List.cons_append] at steps ⊢
            split at steps
            · cases steps
              simp_all
            · cases steps
      all_goals cases steps
      all_goals simp_all
  | slash =>
      simp only [ScanState.inside, ScanState.step] at steps ⊢
      split at steps <;> cases steps
      simp_all
  | comment =>
      cases steps
      rfl
  | string =>
      simp only [ScanState.inside, ScanState.step] at steps ⊢
      repeat' split at steps
      all_goals cases steps
      all_goals simp_all
  | escape =>
      cases steps
      rfl

/-- What is open around a text does not change how the text is scanned. -/
theorem scan_inside
    {state finish : ScanState}
    {characters : List Char}
    (scans : scan state characters = some finish)
    (outer : List Char) :
    scan (state.inside outer) characters = some (finish.inside outer) := by
  induction characters generalizing state with
  | nil =>
      cases scans
      rfl
  | cons c rest ih =>
      rw [scan_cons] at scans ⊢
      obtain ⟨next, steps, later⟩ := Option.bind_eq_some_iff.1 scans
      rw [step_inside steps outer]
      exact ih later

/-- A scan that starts in a string and ends outside meets the end of the string. -/
theorem stringBody?_of_scan
    {closers : List Char}
    {characters : List Char}
    {finish : ScanState}
    (outside : finish.mode = .code)
    (scans : scan ⟨.string, closers⟩ characters = some finish) :
    ∃ body rest, stringBody? characters = some (body, rest) ∧
      scan ⟨.code, closers⟩ rest = some finish := by
  fun_induction stringBody? characters with
  | case1 =>
      cases scans
      cases outside
  | case2 rest => exact ⟨_, rest, rfl, by simpa [scan_cons, ScanState.step] using scans⟩
  | case3 c rest ih =>
      obtain ⟨body, after, reads, scansAfter⟩ :=
        ih (by simpa [scan_cons, ScanState.step] using scans)
      exact ⟨_, after, by rw [reads]; rfl, scansAfter⟩
  | case4 =>
      simp only [scan_cons, ScanState.step, scan_nil] at scans
      cases scans
      cases outside
  | case5 => simp [scan_cons, ScanState.step] at scans
  | case6 c rest notQuote notEscape notLone notFeed ih =>
      have staysInside : (ScanState.mk .string closers).step c = some ⟨.string, closers⟩ := by
        have notBackslash := ne_backslash notEscape notLone
        have notClosing : c ≠ '"' := notQuote
        have notNewline : c ≠ '\n' := notFeed
        simp [ScanState.step, notBackslash, notClosing, notNewline]
      rw [scan_cons, staysInside] at scans
      obtain ⟨body, after, reads, scansAfter⟩ := ih scans
      exact ⟨_, after, by rw [reads]; rfl, scansAfter⟩

/-- A scan that starts in a comment and ends outside meets the end of the line. -/
theorem spanLine_of_scan
    {closers : List Char}
    {characters : List Char}
    {finish : ScanState}
    (outside : finish.mode = .code)
    (scans : scan ⟨.comment, closers⟩ characters = some finish) :
    ∃ rest, (spanLine characters).2 = '\n' :: rest ∧
      scan ⟨.code, closers⟩ rest = some finish := by
  induction characters with
  | nil =>
      cases scans
      cases outside
  | cons c rest ih =>
      by_cases feed : c = '\n'
      · subst feed
        exact ⟨rest, by simp [spanLine], by simpa [scan_cons, ScanState.step] using scans⟩
      · obtain ⟨after, spans, scansAfter⟩ :=
          ih (by simpa [scan_cons, ScanState.step, feed] using scans)
        refine ⟨after, ?_, scansAfter⟩
        rw [← spans]
        simp [spanLine, feed]

/-! ## Marks -/

/-- The characters with a meaning of their own in code. -/
def marks : List Char :=
  ['{', '(', '[', '}', ')', ']', '"', '/', '\'', '#', '@', '$']

theorem markOf_eq_plain_iff {c : Char} : markOf c = .plain ↔ c ∉ marks := by
  unfold markOf
  split <;> simp_all [marks]

theorem eq_opener_of_opening
    {c closer : Char}
    (opening : markOf c = .opening closer) :
    (c = '{' ∧ closer = '}') ∨ (c = '(' ∧ closer = ')') ∨ (c = '[' ∧ closer = ']') := by
  unfold markOf at opening
  split at opening <;> simp_all [eq_comm]

theorem markOf_of_closerOf?
    {c closer : Char}
    (opens : closerOf? c = some closer) :
    markOf c = .opening closer := by
  unfold closerOf? at opens
  split at opens <;> cases opens <;> rfl

theorem eq_closer_of_closing
    {c : Char}
    (closing : markOf c = .closing) :
    c = '}' ∨ c = ')' ∨ c = ']' := by
  unfold markOf at closing
  split at closing <;> simp_all

theorem eq_quote_of_quote
    {c : Char}
    (quote : markOf c = .quote) :
    c = '"' := by
  unfold markOf at quote
  split at quote <;> simp_all

theorem eq_slash_of_slash
    {c : Char}
    (slash : markOf c = .slash) :
    c = '/' := by
  unfold markOf at slash
  split at slash <;> simp_all

/-- A plain character that is no white space stands in a run of code. -/
theorem breaksAtom_of_plain
    {c : Char}
    (plain : markOf c = .plain)
    (rest : List Char) :
    breaksAtom (c :: rest) = (c == ' ' || c == '\t' || c == '\r' || c == '\n') := by
  have unmarked : c ∉ marks := markOf_eq_plain_iff.1 plain
  simp only [marks, List.mem_cons, List.not_mem_nil, or_false, not_or] at unmarked
  have broken : isAtomBreak c = (c == ' ' || c == '\t' || c == '\r' || c == '\n') := by
    simp [isAtomBreak, beq_eq_false_iff_ne.2, unmarked]
  rw [← broken]
  unfold breaksAtom
  split <;> simp_all

theorem breaksAtom_of_isAtomBreak
    {c : Char}
    (breaks : isAtomBreak c = true)
    (rest : List Char) :
    breaksAtom (c :: rest) = true := by
  unfold breaksAtom
  split <;> simp_all

/-- A character that a scan passes in a run of code is plain. -/
theorem plain_of_scan
    {closers : List Char}
    {c : Char}
    {rest : List Char}
    {finish : ScanState}
    (outside : finish.mode = .code)
    (runs : breaksAtom (c :: rest) = false)
    (scans : scan ⟨.code, closers⟩ (c :: rest) = some finish) :
    markOf c = .plain := by
  have unbroken : isAtomBreak c = false := by
    rw [Bool.eq_false_iff]
    intro breaks
    rw [breaksAtom_of_isAtomBreak breaks rest] at runs
    cases runs
  cases mark : markOf c with
  | plain => rfl
  | opening closer =>
      rcases eq_opener_of_opening mark with ⟨rfl, _⟩ | ⟨rfl, _⟩ | ⟨rfl, _⟩ <;>
        simp [isAtomBreak] at unbroken
  | closing =>
      rcases eq_closer_of_closing mark with rfl | rfl | rfl <;>
        simp [isAtomBreak] at unbroken
  | quote =>
      obtain rfl := eq_quote_of_quote mark
      simp [isAtomBreak] at unbroken
  | slash =>
      obtain rfl := eq_slash_of_slash mark
      cases rest with
      | nil =>
          cases scans
          cases outside
      | cons d rest =>
          by_cases double : d = '/'
          · subst double
            unfold breaksAtom at runs
            simp at runs
          · simp [scan_cons, codeStep, mark, ScanState.step, double] at scans
  | foreign => simp [scan_cons, codeStep, mark] at scans

/-- The scan of code goes on behind a run of code. -/
theorem scan_spanAtom
    {closers : List Char}
    {finish : ScanState}
    (outside : finish.mode = .code)
    (characters : List Char)
    (scans : scan ⟨.code, closers⟩ characters = some finish) :
    scan ⟨.code, closers⟩ (spanAtom characters).2 = some finish := by
  induction characters with
  | nil => exact scans
  | cons c rest ih =>
      unfold spanAtom
      split
      · exact scans
      · rename_i runs
        have plain := plain_of_scan outside (by simpa using runs) scans
        exact ih (by simpa [scan_cons, codeStep, plain] using scans)

/-! ## Scanned texts are token trees -/

/-- Reading stopped at the bracket that closes the innermost open group, or at the end
when no group is open. -/
def StopsAtCloser (closers rest : List Char) : Prop :=
  match closers with
  | [] => rest = []
  | closer :: outer =>
      ∃ after, rest = closer :: after ∧ scan ⟨.code, outer⟩ after = some ⟨.code, []⟩

/-- Reading tokens goes on inside of a group and behind a token, and stops at the end, at a
group that is not closed and where no token can be read. So a property of texts that passes on
from where reading goes on holds of every text. -/
theorem readTokens_induction
    {motive : List Char → Prop}
    (atEnd : ∀ characters, skip characters = [] → motive characters)
    (group : ∀ characters c tail closer after, skip characters = c :: tail →
      closerOf? c = some closer → (readTokensFrom (skip tail)).1.rest = closer :: after →
      motive tail → motive after → motive characters)
    (unclosed : ∀ characters c tail closer, skip characters = c :: tail →
      closerOf? c = some closer →
      (∀ after, (readTokensFrom (skip tail)).1.rest ≠ closer :: after) →
      motive tail → motive characters)
    (unread : ∀ characters c tail, skip characters = c :: tail → closerOf? c = none →
      leaf? (c :: tail) = none → motive characters)
    (leaf : ∀ characters c tail token after, skip characters = c :: tail → closerOf? c = none →
      leaf? (c :: tail) = some (token, after) → motive after → motive characters)
    (characters : List Char) :
    motive characters := by
  induction size : characters.length using Nat.strongRecOn generalizing characters with
  | ind size ih =>
      subst size
      have frontLength := skip_length characters
      cases front : skip characters with
      | nil => exact atEnd characters front
      | cons c tail =>
          rw [front, List.length_cons] at frontLength
          cases opens : closerOf? c with
          | some closer =>
              have inside := ih tail.length (by omega) tail rfl
              by_cases closes : ∃ after, (readTokensFrom (skip tail)).1.rest = closer :: after
              · obtain ⟨after, closes⟩ := closes
                have innerLength := (readTokensFrom (skip tail)).2
                have skipLength := skip_length tail
                rw [closes, List.length_cons] at innerLength
                exact group characters c tail closer after front opens closes inside
                  (ih after.length (by omega) after rfl)
              · exact unclosed characters c tail closer front opens (not_exists.1 closes) inside
          | none =>
              cases reads : leaf? (c :: tail) with
              | none => exact unread characters c tail front opens reads
              | some reading =>
                  have afterLength := leaf?_length reads
                  rw [List.length_cons] at afterLength
                  exact leaf characters c tail reading.1 reading.2 front opens reads
                    (ih reading.2.length (by omega) reading.2 rfl)

theorem readTokensFrom_nil_eq : (readTokensFrom []).1 = .stop [] [] := by
  rw [readTokensFrom]

/-- Where no token can be read, reading stops and fails. -/
theorem readTokensFrom_eq_of_leaf?_none
    {c : Char}
    {tail : List Char}
    (single : closerOf? c = none)
    (unread : leaf? (c :: tail) = none) :
    (readTokensFrom (c :: tail)).1 = .stop (c :: tail) (c :: tail) := by
  rw [readTokensFrom]
  split
  · simp_all
  · split
    · rfl
    · simp_all

/-- Behind a token reading goes on. -/
theorem readTokensFrom_eq_of_leaf?_some
    {c : Char}
    {tail after : List Char}
    {token : Token}
    (single : closerOf? c = none)
    (reads : leaf? (c :: tail) = some (token, after)) :
    (readTokensFrom (c :: tail)).1 = (readTokensFrom (skip after)).1.cons token := by
  rw [readTokensFrom]
  split
  · simp_all
  · split
    · simp_all
    · rename_i other rest readsOther
      obtain ⟨rfl, rfl⟩ : other = token ∧ rest = after := by simp_all
      rfl

/-- Behind a closed group reading goes on. -/
theorem readTokensFrom_eq_of_group
    {c closer : Char}
    {tail after : List Char}
    (opens : closerOf? c = some closer)
    (closes : (readTokensFrom (skip tail)).1.rest = closer :: after) :
    (readTokensFrom (c :: tail)).1 =
      (readTokensFrom (skip after)).1.cons
        (.group c (readTokensFrom (skip tail)).1.tokens) := by
  rw [readTokensFrom]
  split
  · rename_i found foundEq
    obtain rfl : found = closer := by simp_all
    dsimp only
    split
    · simp_all
    · rename_i d rest reached
      obtain ⟨rfl, rfl⟩ : d = found ∧ rest = after := by simp_all
      simp
  · simp_all

/-- A bracket whose group is not closed is not read, and reading fails where it does inside. -/
theorem readTokensFrom_eq_of_unclosed
    {c closer : Char}
    {tail : List Char}
    (opens : closerOf? c = some closer)
    (unclosed : ∀ after, (readTokensFrom (skip tail)).1.rest ≠ closer :: after) :
    (readTokensFrom (c :: tail)).1 =
      .stop (c :: tail) (readTokensFrom (skip tail)).1.failure := by
  rw [readTokensFrom]
  split
  · rename_i found foundEq
    obtain rfl : found = closer := by simp_all
    dsimp only
    split
    · rfl
    · rename_i d after reached
      rw [if_neg]
      rintro rfl
      exact unclosed after reached
  · simp_all

theorem readTokensFrom_nil : (readTokensFrom []).1.rest = [] :=
  congrArg Reading.rest readTokensFrom_nil_eq

theorem readTokensFrom_of_leaf?_none
    {c : Char}
    {tail : List Char}
    (single : closerOf? c = none)
    (unread : leaf? (c :: tail) = none) :
    (readTokensFrom (c :: tail)).1.rest = c :: tail :=
  congrArg Reading.rest (readTokensFrom_eq_of_leaf?_none single unread)

theorem readTokensFrom_of_leaf?_some
    {c : Char}
    {tail after : List Char}
    {token : Token}
    (single : closerOf? c = none)
    (reads : leaf? (c :: tail) = some (token, after)) :
    (readTokensFrom (c :: tail)).1.rest = (readTokensFrom (skip after)).1.rest := by
  rw [readTokensFrom_eq_of_leaf?_some single reads]
  rfl

theorem readTokensFrom_of_group
    {c closer : Char}
    {tail after : List Char}
    (opens : closerOf? c = some closer)
    (closes : (readTokensFrom (skip tail)).1.rest = closer :: after) :
    (readTokensFrom (c :: tail)).1.rest = (readTokensFrom (skip after)).1.rest := by
  rw [readTokensFrom_eq_of_group opens closes]
  rfl

theorem readTokensFrom_of_unclosed
    {c closer : Char}
    {tail : List Char}
    (opens : closerOf? c = some closer)
    (unclosed : ∀ after, (readTokensFrom (skip tail)).1.rest ≠ closer :: after) :
    (readTokensFrom (c :: tail)).1.rest = c :: tail :=
  congrArg Reading.rest (readTokensFrom_eq_of_unclosed opens unclosed)

theorem leaf?_closer
    {c : Char}
    (closing : markOf c = .closing)
    (rest : List Char) :
    closerOf? c = none ∧ leaf? (c :: rest) = none := by
  rcases eq_closer_of_closing closing with rfl | rfl | rfl <;>
    exact ⟨rfl, by
      unfold leaf?
      simp [spanAtom, breaksAtom_of_isAtomBreak, isAtomBreak]⟩

/-- A run of code is read as one token. -/
theorem leaf?_plain
    {c : Char}
    (plain : markOf c = .plain)
    (dark : isSpace c = false)
    (rest : List Char) :
    ∃ run, leaf? (c :: rest) = some (.atom (c :: run), (spanAtom rest).2) := by
  have unmarked : c ∉ marks := markOf_eq_plain_iff.1 plain
  simp only [marks, List.mem_cons, List.not_mem_nil, or_false, not_or] at unmarked
  have runs : breaksAtom (c :: rest) = false := by
    rw [breaksAtom_of_plain plain]
    simp_all [isSpace]
  have spans : spanAtom (c :: rest) = (c :: (spanAtom rest).1, (spanAtom rest).2) := by
    rw [spanAtom, runs]
    rfl
  refine ⟨(spanAtom rest).1, ?_⟩
  unfold leaf?
  split <;> simp_all

theorem leaf?_quote
    {characters body rest : List Char}
    (reads : stringBody? characters = some (body, rest)) :
    leaf? ('"' :: characters) = some (.string ('"' :: body), rest) := by
  unfold leaf?
  simp [reads]

/-- White space and comments do not change where the scan of code ends. -/
theorem scan_skip
    {closers characters : List Char}
    {finish : ScanState}
    (outside : finish.mode = .code)
    (scans : scan ⟨.code, closers⟩ characters = some finish) :
    scan ⟨.code, closers⟩ (skip characters) = some finish := by
  fun_induction skip characters with
  | case1 => exact scans
  | case2 rest ih =>
      obtain ⟨after, spans, scansAfter⟩ := spanLine_of_scan outside scans
      apply ih
      rw [spans]
      exact scansAfter
  | case3 rest => cases scans
  | case4 rest => exact scans
  | case5 c rest _ _ space ih =>
      have plain : markOf c = .plain := by
        simp only [isSpace, Bool.or_eq_true, beq_iff_eq] at space
        rcases space with (((rfl | rfl) | rfl) | rfl) | rfl <;> decide
      exact ih (by simpa [scan_cons, codeStep, plain] using scans)
  | case6 => exact scans

theorem skip_front
    {c : Char}
    {characters rest : List Char}
    (skips : skip characters = c :: rest) :
    isSpace c = false ∧ ¬(c = '/' ∧ rest.head? = some '/') := by
  fun_induction skip characters with
  | case1 => cases skips
  | case2 tail ih => exact ih skips
  | case3 tail after reads _ ih => exact ih skips
  | case4 tail =>
      cases skips
      exact ⟨by decide, by simp⟩
  | case5 d tail _ _ space ih => exact ih skips
  | case6 d tail single _ dark =>
      cases skips
      refine ⟨by simpa using dark, ?_⟩
      rintro ⟨rfl, double⟩
      cases rest with
      | nil => cases double
      | cons e rest =>
          cases double
          exact single rest rfl rfl

/-- What a scan of code passes is a closing bracket, the opening of a group, or a token
without inner tokens. -/
theorem leaf?_of_scan
    {closers : List Char}
    {c : Char}
    {rest : List Char}
    {finish : ScanState}
    (outside : finish.mode = .code)
    (dark : isSpace c = false)
    (noComment : ¬(c = '/' ∧ rest.head? = some '/'))
    (unclosing : markOf c ≠ .closing)
    (single : closerOf? c = none)
    (scans : scan ⟨.code, closers⟩ (c :: rest) = some finish) :
    ∃ token after, leaf? (c :: rest) = some (token, after) ∧
      scan ⟨.code, closers⟩ after = some finish := by
  rw [scan_cons, ScanState.step_code] at scans
  unfold codeStep at scans
  cases mark : markOf c with
  | plain =>
      rw [mark] at scans
      obtain ⟨run, reads⟩ := leaf?_plain mark dark rest
      exact ⟨_, _, reads, scan_spanAtom outside rest scans⟩
  | opening closer =>
      rcases eq_opener_of_opening mark with ⟨rfl, rfl⟩ | ⟨rfl, rfl⟩ | ⟨rfl, rfl⟩ <;>
        cases single
  | closing => exact absurd mark unclosing
  | quote =>
      rw [mark] at scans
      obtain rfl := eq_quote_of_quote mark
      obtain ⟨body, after, reads, scansAfter⟩ := stringBody?_of_scan outside scans
      exact ⟨_, after, leaf?_quote reads, scansAfter⟩
  | slash =>
      rw [mark] at scans
      obtain rfl := eq_slash_of_slash mark
      cases rest with
      | nil =>
          cases scans
          cases outside
      | cons d rest =>
          have notDouble : d ≠ '/' := fun double => noComment ⟨rfl, by rw [double]; rfl⟩
          simp [scan_cons, ScanState.step, notDouble] at scans
  | foreign =>
      rw [mark] at scans
      cases scans

/-- A scan goes on behind an opening bracket with one more bracket to close. -/
theorem scan_cons_of_opening
    {c closer : Char}
    (opens : closerOf? c = some closer)
    (closers rest : List Char) :
    scan ⟨.code, closers⟩ (c :: rest) = scan ⟨.code, closer :: closers⟩ rest := by
  simp [scan_cons, codeStep, markOf_of_closerOf? opens]

/-- A closing bracket that a scan gets over closes the innermost open group. -/
theorem stopsAtCloser_closing
    {closers rest : List Char}
    {c : Char}
    (closing : markOf c = .closing)
    (scans : scan ⟨.code, closers⟩ (c :: rest) = some ⟨.code, []⟩) :
    StopsAtCloser closers (c :: rest) := by
  simp only [scan_cons, ScanState.step_code, codeStep, closing] at scans
  cases closers with
  | nil => cases scans
  | cons closer outer =>
      by_cases same : c = closer
      · subst same
        exact ⟨rest, rfl, by simpa using scans⟩
      · simp [same] at scans

/-- Reading a text whose scan closes all brackets stops at the first bracket that the
text does not open itself. -/
theorem stopsAtCloser_of_scan
    (closers characters : List Char)
    (scans : scan ⟨.code, closers⟩ characters = some ⟨.code, []⟩) :
    StopsAtCloser closers (readTokensFrom (skip characters)).1.rest := by
  induction characters using readTokens_induction generalizing closers with
  | atEnd characters front =>
      have scansFront := scan_skip rfl scans
      rw [front] at scansFront ⊢
      cases scansFront
      exact readTokensFrom_nil
  | group characters c rest closer after front opens closes inside later =>
      have scansFront := scan_skip rfl scans
      rw [front] at scansFront ⊢
      rw [scan_cons_of_opening opens] at scansFront
      obtain ⟨behind, stops, scansAfter⟩ := inside (closer :: closers) scansFront
      rw [closes] at stops
      cases stops
      rw [readTokensFrom_of_group opens closes]
      exact later closers scansAfter
  | unclosed characters c rest closer front opens unclosed inside =>
      have scansFront := scan_skip rfl scans
      rw [front] at scansFront
      rw [scan_cons_of_opening opens] at scansFront
      obtain ⟨behind, stops, _⟩ := inside (closer :: closers) scansFront
      exact absurd stops (unclosed behind)
  | unread characters c rest front single unread =>
      have scansFront := scan_skip rfl scans
      obtain ⟨dark, noComment⟩ := skip_front front
      rw [front] at scansFront ⊢
      rw [readTokensFrom_of_leaf?_none single unread]
      by_cases closing : markOf c = .closing
      · exact stopsAtCloser_closing closing scansFront
      · obtain ⟨token, after, reads, _⟩ :=
          leaf?_of_scan rfl dark noComment closing single scansFront
        rw [unread] at reads
        cases reads
  | leaf characters c rest token after front single reads later =>
      have scansFront := scan_skip rfl scans
      obtain ⟨dark, noComment⟩ := skip_front front
      rw [front] at scansFront ⊢
      have unclosing : markOf c ≠ .closing := by
        intro closing
        rw [(leaf?_closer closing rest).2] at reads
        cases reads
      obtain ⟨other, behind, readsOther, scansAfter⟩ :=
        leaf?_of_scan rfl dark noComment unclosing single scansFront
      rw [reads] at readsOther
      cases readsOther
      rw [readTokensFrom_of_leaf?_some single reads]
      exact later closers scansAfter

/-- A text whose scan starts and ends in code with no open bracket is a token tree. -/
theorem checkTokens_of_scan
    {source : String}
    (scans : scan ⟨.code, []⟩ source.toList = some ⟨.code, []⟩) :
    checkTokens source = .ok () := by
  have stops : (readTokens source.toList).rest = [] :=
    stopsAtCloser_of_scan [] source.toList scans
  simp [checkTokens, parse, stops]

end Source
end QuestMod
