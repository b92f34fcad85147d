import QuestMod.Source.Literal
import QuestMod.Proofs.Source.ClassFile

/-!
# Lines with numbers

A line with numbers is split into the texts around its numbers and the numbers between
them, so that a statement about the numbers is one about the printed line. Where source
asks for an integer, it has to be one of thirty-two bits.
-/

namespace QuestMod
namespace Source

/-- The number fits the integers of the generated language. -/
def FitsInt (number : Int) : Prop :=
  -0x80000000 ≤ number ∧ number < 0x80000000

instance (number : Int) : Decidable (FitsInt number) :=
  inferInstanceAs (Decidable (_ ∧ _))

theorem fitsInt_natCast {number : Nat} : FitsInt number ↔ number < 0x80000000 := by
  unfold FitsInt
  omega

/-- A line with numbers between two texts. -/
structure NumeralLine (α : Type) where
  front : String
  numbers : List α
  back : String

namespace NumeralLine

/-- The line with its numbers printed and commas between them. -/
def text {α : Type} (print : α → String) (line : NumeralLine α) : String :=
  line.front ++ ", ".intercalate (line.numbers.map print) ++ line.back

/-- The line with integers. -/
def intText (line : NumeralLine Int) : String :=
  line.text toString

/-- The line with single-precision numbers. -/
def singleText (line : NumeralLine Number.Single) : String :=
  line.text singleLiteral

/-- A line with the coordinates of a location between two texts. -/
def ofLocation (front : String) (location : Blueprint.Location) (back : String) :
    NumeralLine Number.Single where
  front := front ++ "new Vector3("
  numbers := [location.x, location.y, location.z]
  back := ")" ++ back

theorem singleText_ofLocation (front : String) (location : Blueprint.Location) (back : String) :
    (ofLocation front location back).singleText = front ++ vectorLiteral location ++ back := by
  unfold vectorLiteral
  simp [singleText, text, ofLocation, String.append_assoc]

/-- The coordinates of a finite location are finite. -/
theorem isFinite_of_mem_ofLocation
    {front back : String}
    {location : Blueprint.Location}
    (finite : location.isFinite = true) :
    ∀ number ∈ (ofLocation front location back).numbers, number.isFinite = true := by
  simp only [Blueprint.Location.isFinite, Bool.and_eq_true] at finite
  simp [ofLocation, finite]

end NumeralLine

/-! ## Lines of class files -/

/-- The text is an indented line of the source. -/
def IsLineOf (text source : String) : Prop :=
  ∃ front depth back, source = front ++ lineText depth text ++ back

/-- The text of a line step is a line of the rendered source. -/
theorem isLineOf_render
    {text : String}
    {steps : List Step}
    (member : .line text ∈ steps) :
    IsLineOf text (render steps) := by
  obtain ⟨before, after, rfl⟩ := List.append_of_mem member
  refine ⟨renderAt 0 before, depthAfter 0 before, renderAt (depthAfter 0 before) after, ?_⟩
  rw [render, renderAt_append, renderAt_cons, String.append_assoc]
  rfl

end Source
end QuestMod
