import QuestMod.Proofs.Source.BareCode

/-!
# Handlers in code

A handler is added to an event by a line of code with a plus, and the lines up to the closing
brace with a semicolon are its body. Where no other line has a plus, a reader of the code finds
the handlers one after the other.
-/

namespace QuestMod
namespace Source

open Text (Occurs)

/-- The lines of code with a plus, each with the lines behind it up to the end of a
handler. -/
def handlersIn : List String → List (String × List String)
  | [] => []
  | line :: rest =>
      if line.toList.contains '+' then
        (line, rest.takeWhile (· != "\x7d;")) :: handlersIn rest
      else handlersIn rest

theorem handlersIn_quiet_append
    {code : List String}
    (quiet : ∀ line ∈ code, ¬ Occurs '+' line)
    (rest : List String) :
    handlersIn (code ++ rest) = handlersIn rest := by
  induction code with
  | nil => rfl
  | cons line others ih =>
      obtain ⟨first, later⟩ := List.forall_mem_cons.1 quiet
      have absent : ¬ line.toList.contains '+' = true := mt List.contains_iff_mem.1 first
      rw [List.cons_append, handlersIn, if_neg absent, ih later]

/-- A handler is read with its body, and nothing of the body is a handler. -/
theorem handlersIn_handler_append
    {header : String}
    (adds : Occurs '+' header)
    {body : List String}
    (quiet : ∀ line ∈ body, ¬ Occurs '+' line)
    (isOpen : "\x7d;" ∉ body)
    (rest : List String) :
    handlersIn (header :: body ++ "\x7d;" :: rest) = (header, body) :: handlersIn rest := by
  have inside : ∀ line ∈ body, (line != "\x7d;") = true := by
    rintro line member
    refine bne_iff_ne.2 ?_
    rintro rfl
    exact isOpen member
  have closing : ∀ line ∈ ["\x7d;"], ¬ Occurs '+' line := by
    intro line member
    cases List.mem_singleton.1 member
    exact fun present => absurd present (by unfold Occurs; decide)
  have behind := handlersIn_quiet_append closing rest
  rw [List.singleton_append] at behind
  rw [List.cons_append, handlersIn, if_pos (List.contains_iff_mem.2 adds),
    List.takeWhile_append_of_pos inside, handlersIn_quiet_append quiet, behind,
    List.takeWhile_cons_of_neg (by decide), List.append_nil]

/-! ## Code between hooks and braces -/

/-- The code adds no handler and closes no block. -/
def IsQuiet (code : String) : Prop :=
  ¬ Occurs '+' code ∧ ¬ Occurs '\x7d' code

theorem IsQuiet.append
    {first second : String}
    (firstQuiet : IsQuiet first)
    (secondQuiet : IsQuiet second) :
    IsQuiet (first ++ second) := by
  rw [IsQuiet, Text.occurs_append, Text.occurs_append, not_or, not_or]
  exact ⟨⟨firstQuiet.1, secondQuiet.1⟩, firstQuiet.2, secondQuiet.2⟩

theorem isQuiet_ofList
    {characters : List Char}
    (absent : characters.all (fun c => c != '+' && c != '\x7d') = true) :
    IsQuiet (String.ofList characters) := by
  constructor
  all_goals
    intro present
    have other := List.all_eq_true.1 absent _ (Text.occurs_ofList.1 present)
    simp at other

/-- Characters of an identifier are quiet. -/
theorem isQuiet_of_continues
    {text : String}
    (continues : ∀ c ∈ text.toList, Text.continuesIdentifier c = true) :
    IsQuiet text :=
  ⟨fun member => absurd (continues _ member) (by decide),
    fun member => absurd (continues _ member) (by decide)⟩

theorem IsQuiet.name
    {text : String}
    (form : HasIdentifierForm text) :
    IsQuiet text :=
  isQuiet_of_continues fun _ => continuesIdentifier_of_mem form

theorem IsQuiet.number (number : Nat) : IsQuiet (toString number) :=
  isQuiet_of_continues fun _ => continuesIdentifier_of_mem_toString

/-! ## Code that adds handlers -/

/-- Whatever code follows, the handlers in the lines of code are the given ones. -/
def Adds (code : List String) (handlers : List (String × List String)) : Prop :=
  ∀ rest, handlersIn (code ++ rest) = handlers ++ handlersIn rest

namespace Adds

variable {code otherCode : List String} {handlers otherHandlers : List (String × List String)}

theorem nil : Adds [] [] :=
  fun _ => rfl

theorem append
    (first : Adds code handlers)
    (second : Adds otherCode otherHandlers) :
    Adds (code ++ otherCode) (handlers ++ otherHandlers) := by
  intro rest
  rw [List.append_assoc, first, second, List.append_assoc]

/-- Code without a plus adds no handler. -/
theorem quiet (noPlus : ∀ line ∈ code, ¬ Occurs '+' line) : Adds code [] :=
  handlersIn_quiet_append noPlus

/-- A block around handlers adds none. -/
theorem block
    {header : String}
    (noPlus : ¬ Occurs '+' header)
    (adds : Adds code handlers) :
    Adds (header :: "\x7b" :: code ++ ["\x7d"]) handlers := by
  have opens : ∀ line ∈ [header, "\x7b"], ¬ Occurs '+' line :=
    List.forall_mem_cons.2 ⟨noPlus, List.forall_mem_singleton.2 (by unfold Occurs; decide)⟩
  have closes : ∀ line ∈ ["\x7d"], ¬ Occurs '+' line :=
    List.forall_mem_singleton.2 (by unfold Occurs; decide)
  have whole := ((quiet opens).append adds).append (quiet closes)
  rwa [List.nil_append, List.append_nil] at whole

/-- A handler that does one thing under a condition. -/
theorem guarded
    {hook condition action : String}
    (adds : Occurs '+' hook)
    (conditionQuiet : IsQuiet condition)
    (actionQuiet : IsQuiet action) :
    Adds [hook, "\x7b", condition, "\x7b", action, "\x7d", "\x7d;"]
      [(hook, ["\x7b", condition, "\x7b", action, "\x7d"])] := by
  have opens : ¬ Occurs '+' "\x7b" := by unfold Occurs; decide
  have closes : ¬ Occurs '+' "\x7d" := by unfold Occurs; decide
  have isOpen {line : String} (quiet : IsQuiet line) : "\x7d;" ≠ line := by
    rintro rfl
    exact quiet.2 (by unfold Occurs; decide)
  have noPlus : ∀ line ∈ ["\x7b", condition, "\x7b", action, "\x7d"], ¬ Occurs '+' line := by
    simp [conditionQuiet.1, actionQuiet.1, opens, closes]
  have noEnd : "\x7d;" ∉ ["\x7b", condition, "\x7b", action, "\x7d"] := by
    simp [isOpen conditionQuiet, isOpen actionQuiet]
  exact handlersIn_handler_append adds noPlus noEnd

/-- The handlers in the lines of code. -/
theorem handlersIn_eq (adds : Adds code handlers) : handlersIn code = handlers := by
  have whole := adds []
  have none : handlersIn [] = [] := rfl
  rwa [none, List.append_nil, List.append_nil] at whole

end Adds

end Source
end QuestMod
