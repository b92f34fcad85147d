import QuestMod.Text.Blank
import QuestMod.Text.Escape

/-!
# Writing indented source

Source is a list of writing steps: lines, blank lines, comments, block braces and
spliced fragments. The depth of open blocks gives the indentation of each line, so
no step states its own white space. Rendering turns steps into text.
-/

namespace QuestMod
namespace Source

/-- One step of writing source. -/
inductive Step
  | line (text : String)
  | blank
  | comment (text : String)
  | openBlock (header : String)
  | closeBlock (suffix : String)
  | splice (text : String)
  deriving DecidableEq

/-- Four spaces for each open block. -/
def indentation (depth : Nat) : String :=
  String.ofList (List.replicate (4 * depth) ' ')

/-- One indented line. An empty line is not indented. -/
def lineText (depth : Nat) (text : String) : String :=
  if text.isEmpty then "\n" else indentation depth ++ text ++ "\n"

/-- A line of a spliced fragment. Blank lines lose their white space. -/
def splicedLineText (depth : Nat) (line : String) : String :=
  if Text.isBlankText line then "\n" else lineText depth line

/-- A fragment with every line moved to the current depth. -/
def splicedText (depth : Nat) (fragment : String) : String :=
  String.join ((Text.lines fragment).map (splicedLineText depth))

namespace Step

/-- The depth behind a step. Closing a block at depth zero stays there. -/
def depthAfter (depth : Nat) : Step → Nat
  | openBlock _ => depth + 1
  | closeBlock _ => depth - 1
  | _ => depth

/-- The text that a step adds at a depth. -/
def text (depth : Nat) : Step → String
  | line text => lineText depth text
  | blank => "\n"
  | comment text => lineText depth ("// " ++ Text.commentBody text)
  | openBlock header => lineText depth header ++ lineText depth "\x7b"
  | closeBlock suffix => lineText (depth - 1) ("\x7d" ++ suffix)
  | splice fragment => splicedText depth fragment

end Step

/-- The depth behind a list of steps. -/
def depthAfter : Nat → List Step → Nat
  | depth, [] => depth
  | depth, step :: steps => depthAfter (step.depthAfter depth) steps

/-- The text that a list of steps adds at a depth. -/
def renderAt : Nat → List Step → String
  | _, [] => ""
  | depth, step :: steps => step.text depth ++ renderAt (step.depthAfter depth) steps

/-- The text of a list of steps. -/
def render (steps : List Step) : String :=
  renderAt 0 steps

/-- A header, and a body between braces. -/
def block (header : String) (body : List Step) : List Step :=
  .openBlock header :: body ++ [.closeBlock ""]

/-- A header, and a body between braces that close with a suffix. -/
def blockClosedBy (header : String) (body : List Step) (suffix : String) : List Step :=
  .openBlock header :: body ++ [.closeBlock suffix]

@[simp] theorem depthAfter_nil (depth : Nat) : depthAfter depth [] = depth := rfl

@[simp] theorem depthAfter_cons (depth : Nat) (step : Step) (steps : List Step) :
    depthAfter depth (step :: steps) = depthAfter (step.depthAfter depth) steps := rfl

theorem depthAfter_append (depth : Nat) (first second : List Step) :
    depthAfter depth (first ++ second) = depthAfter (depthAfter depth first) second := by
  induction first generalizing depth with
  | nil => rfl
  | cons step steps ih => simp [ih]

@[simp] theorem renderAt_nil (depth : Nat) : renderAt depth [] = "" := rfl

@[simp] theorem renderAt_cons (depth : Nat) (step : Step) (steps : List Step) :
    renderAt depth (step :: steps) =
      step.text depth ++ renderAt (step.depthAfter depth) steps := rfl

theorem renderAt_append (depth : Nat) (first second : List Step) :
    renderAt depth (first ++ second) =
      renderAt depth first ++ renderAt (depthAfter depth first) second := by
  induction first generalizing depth with
  | nil => simp
  | cons step steps ih => simp [ih, String.append_assoc]

end Source
end QuestMod
