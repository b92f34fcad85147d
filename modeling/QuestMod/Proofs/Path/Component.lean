import QuestMod.Path.Basic
import QuestMod.Proofs.Text.RawText

/-!
# Components of paths

A path is absolute, relative or empty, and each kind has its own front. Behind the
front a path is read piece by piece, so the components of a joined path are those of
its base and those that the tail adds, and taking the parent drops one component.
-/

namespace QuestMod
namespace Path

/-! ## Reading components -/

/-- The components of pieces behind the front of a path. -/
def innerComponents (bytes : List UInt8) : List Component :=
  (Text.splitAt separator bytes).filterMap Component.ofPiece?

@[simp] theorem bytes_mk (raw : RawText) : (Path.mk raw).bytes = raw.bytes := rfl

@[simp] theorem componentsOf_nil : componentsOf [] = [] := rfl

@[simp] theorem innerComponents_nil : innerComponents [] = [] := rfl

theorem componentsOf_absolute (rest : List UInt8) :
    componentsOf (separator :: rest) = .root :: innerComponents rest := by
  unfold componentsOf innerComponents
  rw [Text.splitAt_separator_cons]
  obtain ⟨piece, pieces, splits⟩ := List.exists_cons_of_ne_nil (Text.splitAt_ne_nil separator rest)
  rw [splits]

theorem componentsOf_relative
    {bytes piece : List UInt8}
    {pieces : List (List UInt8)}
    (splits : Text.splitAt separator bytes = piece :: pieces)
    (nonempty : piece ≠ []) :
    componentsOf bytes = .ofFront piece :: pieces.filterMap Component.ofPiece? := by
  unfold componentsOf
  rw [splits]
  cases piece with
  | nil => exact absurd rfl nonempty
  | cons c rest => rfl

/-- A path is empty, absolute or relative. -/
theorem kinds (bytes : List UInt8) :
    bytes = [] ∨ (∃ rest, bytes = separator :: rest) ∨
      ∃ piece pieces, Text.splitAt separator bytes = piece :: pieces ∧ piece ≠ [] ∧
        bytes.head? ≠ some separator := by
  cases bytes with
  | nil => exact .inl rfl
  | cons byte rest =>
      by_cases slash : byte = separator
      · exact .inr (.inl ⟨rest, by rw [slash]⟩)
      · obtain ⟨piece, pieces, splits⟩ :=
          List.exists_cons_of_ne_nil (Text.splitAt_ne_nil separator rest)
        refine .inr (.inr ⟨byte :: piece, pieces, Text.splitAt_cons_of_ne slash splits, ?_, ?_⟩)
        · exact List.cons_ne_nil byte piece
        · simpa using slash

/-- The names along a path are pieces of its bytes. -/
theorem piece_of_named
    {name : RawText}
    {bytes : List UInt8}
    (member : .named name ∈ componentsOf bytes) :
    ∃ piece ∈ Text.splitAt separator bytes, name = ⟨piece⟩ := by
  have ofPiece {piece : List UInt8} (counts : Component.ofPiece? piece = some (.named name)) :
      name = ⟨piece⟩ := by
    unfold Component.ofPiece? at counts
    split at counts
    · cases counts
    · split at counts <;> cases counts
      rfl
  have ofFront {piece : List UInt8} (front : .named name = Component.ofFront piece) :
      name = ⟨piece⟩ := by
    unfold Component.ofFront at front
    split at front
    · cases front
    · split at front <;> cases front
      rfl
  have inner {pieces : List (List UInt8)}
      (inside : .named name ∈ pieces.filterMap Component.ofPiece?) :
      ∃ piece ∈ pieces, name = ⟨piece⟩ := by
    obtain ⟨piece, inPieces, counts⟩ := List.mem_filterMap.1 inside
    exact ⟨piece, inPieces, ofPiece counts⟩
  rcases kinds bytes with rfl | ⟨rest, rfl⟩ | ⟨front, pieces, splits, nonempty, _⟩
  · cases member
  · rw [componentsOf_absolute] at member
    obtain ⟨piece, inPieces, equal⟩ :=
      inner ((List.mem_cons.1 member).resolve_left fun equal => nomatch equal)
    rw [Text.splitAt_separator_cons]
    exact ⟨piece, List.mem_cons_of_mem _ inPieces, equal⟩
  · rw [componentsOf_relative splits nonempty] at member
    rw [splits]
    rcases List.mem_cons.1 member with equal | inside
    · exact ⟨front, List.mem_cons_self, ofFront equal⟩
    · obtain ⟨piece, inPieces, equal⟩ := inner inside
      exact ⟨piece, List.mem_cons_of_mem _ inPieces, equal⟩

/-- The names along a path that is a text are texts. -/
theorem text_of_named
    {name : RawText}
    {text : String}
    (member : .named name ∈ (Path.mk text).components) :
    ∃ piece : String, name = piece := by
  obtain ⟨piece, inSplit, rfl⟩ := piece_of_named member
  have cut : Text.splitAt separator (RawText.ofText text).bytes = _ :=
    RawText.splitAt_bytes '/' (by decide) text
  rw [bytes_mk, cut] at inSplit
  obtain ⟨characters, _, rfl⟩ := List.mem_map.1 inSplit
  exact ⟨String.ofList characters, rfl⟩

/-! ## Joining -/

theorem innerComponents_append (first second : List UInt8) :
    innerComponents (first ++ separator :: second) =
      innerComponents first ++ innerComponents second := by
  rw [innerComponents, Text.splitAt_append_separator, List.filterMap_append]
  rfl

/-- What stands behind a separator adds its inner components. -/
theorem componentsOf_append (first second : List UInt8) :
    componentsOf (first ++ separator :: second) =
      componentsOf (first ++ [separator]) ++ innerComponents second := by
  rcases kinds first with rfl | ⟨rest, rfl⟩ | ⟨piece, pieces, splits, nonempty, _⟩
  · simp [componentsOf_absolute]
  · simp only [List.cons_append, componentsOf_absolute]
    rw [innerComponents_append, innerComponents_append]
    simp
  · have splitsLong (behind : List UInt8) : Text.splitAt separator (first ++ separator :: behind) =
        piece :: (pieces ++ Text.splitAt separator behind) := by
      rw [Text.splitAt_append_separator, splits, List.cons_append]
    rw [componentsOf_relative (splitsLong second) nonempty,
      componentsOf_relative (splitsLong []) nonempty, innerComponents]
    simp [Component.ofPiece?, Text.splitAt]

/-- A separator at the end of a path does not count. -/
theorem componentsOf_trailing
    {bytes : List UInt8}
    (nonempty : bytes ≠ []) :
    componentsOf (bytes ++ [separator]) = componentsOf bytes := by
  rcases kinds bytes with rfl | ⟨rest, rfl⟩ | ⟨piece, pieces, splits, filled, _⟩
  · exact absurd rfl nonempty
  · simp only [List.cons_append, componentsOf_absolute]
    rw [innerComponents_append]
    simp
  · have splitsLong :
        Text.splitAt separator (bytes ++ [separator]) = piece :: (pieces ++ [[]]) := by
      rw [Text.splitAt_append_separator, splits, List.cons_append]
      rfl
    rw [componentsOf_relative splitsLong filled, componentsOf_relative splits filled]
    simp [Component.ofPiece?]

/-- The components of a relative path behind another path: single dots at its front no
longer count. -/
theorem innerComponents_of_relative
    {bytes : List UInt8}
    (relative : bytes.head? ≠ some separator) :
    innerComponents bytes =
      (componentsOf bytes).filter fun component => component != .current := by
  have later (pieces : List (List UInt8)) :
      (pieces.filterMap Component.ofPiece?).filter (fun component => component != .current) =
        pieces.filterMap Component.ofPiece? := by
    rw [List.filter_eq_self]
    intro component member
    obtain ⟨piece, _, counts⟩ := List.mem_filterMap.1 member
    unfold Component.ofPiece? at counts
    split at counts
    · cases counts
    · split at counts <;> cases counts <;> rfl
  rcases kinds bytes with rfl | ⟨rest, rfl⟩ | ⟨piece, pieces, splits, nonempty, _⟩
  · rfl
  · exact absurd rfl relative
  · rw [innerComponents, splits, componentsOf_relative splits nonempty, List.filter_cons, later,
      List.filterMap_cons]
    unfold Component.ofFront Component.ofPiece?
    by_cases single : piece = [dot]
    · simp [single]
    · by_cases dots : piece = [dot, dot]
      · simp [dots]
      · simp [nonempty, single, dots]

/-- The components of a path behind a base that is not empty. -/
theorem components_join
    {base tail : Path}
    (nonempty : base.isEmpty = false)
    (relative : tail.isAbsolute = false) :
    (base.join tail).components =
      base.components ++ tail.components.filter fun component => component != .current := by
  have front : tail.bytes.head? ≠ some separator := by
    simpa [isAbsolute] using relative
  have filled : base.bytes ≠ [] := by
    simpa [isEmpty] using nonempty
  unfold components
  rw [← innerComponents_of_relative front]
  unfold join
  rw [relative, nonempty, Bool.false_or]
  simp only [Bool.false_eq_true, ↓reduceIte]
  split
  · rename_i trailing
    have last : base.bytes.getLast? = some separator := by simpa using trailing
    obtain ⟨before, closed⟩ := List.getLast?_eq_some_iff.1 last
    rw [bytes_mk, closed, List.append_assoc, List.singleton_append]
    exact componentsOf_append before tail.bytes
  · rw [bytes_mk, componentsOf_append, componentsOf_trailing filled]

/-- A path behind the empty path is itself. -/
theorem join_of_isEmpty
    {base : Path}
    (empty : base.isEmpty = true)
    (tail : Path) :
    base.join tail = tail := by
  have blank : base.bytes = [] := by simpa [isEmpty] using empty
  unfold join
  split
  · rfl
  · rw [if_pos (by rw [empty, Bool.true_or]), blank]
    rfl

/-! ## Lower case -/

/-- The component with its name in lower case. -/
def Component.folded : Component → Component
  | .named name => .named name.folded
  | component => component

/-! ## Plain names -/

/-- The name stands for one component: it is no dots and holds no separator. -/
structure IsPlainName (name : String) : Prop where
  nonempty : name.toList ≠ []
  notDot : name.toList ≠ ['.']
  notDots : name.toList ≠ ['.', '.']
  noSeparator : '/' ∉ name.toList

theorem bytes_ne_of_toList_ne
    (name other : String)
    (different : name.toList ≠ other.toList) :
    (RawText.ofText name).bytes ≠ (RawText.ofText other).bytes := by
  intro equal
  exact different (congrArg _ (RawText.ofText_injective (congrArg RawText.mk equal)))

theorem separator_mem_bytes_iff (text : String) :
    separator ∈ (RawText.ofText text).bytes ↔ '/' ∈ text.toList :=
  RawText.byteOf_mem_bytes_iff '/' (by decide) text

theorem dot_mem_bytes_iff (text : String) :
    dot ∈ (RawText.ofText text).bytes ↔ '.' ∈ text.toList :=
  RawText.byteOf_mem_bytes_iff '.' (by decide) text

theorem IsPlainName.components
    {name : String}
    (plain : IsPlainName name) :
    (Path.mk name).components = [.named name] := by
  have absent : separator ∉ (RawText.ofText name).bytes :=
    fun member => plain.noSeparator ((separator_mem_bytes_iff name).1 member)
  have nonempty : (RawText.ofText name).bytes ≠ [] :=
    bytes_ne_of_toList_ne name "" plain.nonempty
  have notDot : (RawText.ofText name).bytes ≠ [dot] :=
    bytes_ne_of_toList_ne name "." plain.notDot
  have notDots : (RawText.ofText name).bytes ≠ [dot, dot] :=
    bytes_ne_of_toList_ne name ".." plain.notDots
  rw [Path.components, bytes_mk, componentsOf_relative (Text.splitAt_of_not_mem absent) nonempty,
    Component.ofFront, if_neg notDot, if_neg notDots]
  rfl

/-- A path one plain name below another has one component more. -/
theorem IsPlainName.components_child
    {name : String}
    (plain : IsPlainName name)
    (base : Path) :
    (base.child name).components = base.components ++ [.named name] := by
  have relative : (Path.mk name).isAbsolute = false := by
    rw [isAbsolute, beq_eq_false_iff_ne]
    exact fun absolute =>
      plain.noSeparator ((separator_mem_bytes_iff name).1 (List.mem_of_mem_head? absolute))
  cases empty : base.isEmpty with
  | true =>
      have blank : base.bytes = [] := by simpa [isEmpty] using empty
      have noComponents : base.components = [] := by
        rw [Path.components, blank]
        rfl
      rw [child, join_of_isEmpty empty, noComponents, plain.components]
      rfl
  | false =>
      rw [child, components_join empty relative, plain.components]
      rfl

/-- The file name of a path one plain name below another. -/
theorem IsPlainName.fileName?_child
    {name : String}
    (plain : IsPlainName name)
    (base : Path) :
    (base.child name).fileName? = some ↑name := by
  simp [fileName?, plain.components_child]

/-- Different plain names below the same path make different paths. -/
theorem IsPlainName.not_sameAs_child
    {first second : String}
    (firstPlain : IsPlainName first)
    (secondPlain : IsPlainName second)
    (different : first ≠ second)
    (base : Path) :
    (base.child first).sameAs (base.child second) = false := by
  rw [sameAs, beq_eq_false_iff_ne, firstPlain.components_child, secondPlain.components_child]
  intro equal
  have last := List.singleton_inj.1 (List.append_cancel_left equal)
  exact different (RawText.ofText_injective (Component.named.inj last))

/-! ## Parents -/

theorem ofPiece?_eq_none_iff {piece : List UInt8} :
    Component.ofPiece? piece = none ↔ piece = [] ∨ piece = [dot] := by
  unfold Component.ofPiece?
  split
  · simp [*]
  · split <;> simp [*]

theorem ne_root_of_ofPiece?
    {piece : List UInt8}
    {component : Component}
    (counts : Component.ofPiece? piece = some component) :
    component ≠ .root := by
  rintro rfl
  unfold Component.ofPiece? at counts
  split at counts
  · cases counts
  · split at counts <;> cases counts

theorem ofFront_ne_root (piece : List UInt8) : Component.ofFront piece ≠ .root := by
  unfold Component.ofFront
  split
  · exact fun equal => nomatch equal
  · split <;> exact fun equal => nomatch equal

/-- Dropping silent pieces keeps the components. -/
theorem filterMap_dropSilent (reversed : List (List UInt8)) :
    (dropSilent true reversed).reverse.filterMap Component.ofPiece? =
      reversed.reverse.filterMap Component.ofPiece? := by
  induction reversed with
  | nil => rfl
  | cons piece pieces ih =>
      rw [dropSilent]
      split
      · rename_i empty
        simpa [empty, Component.ofPiece?] using ih
      · split
        · rename_i single
          have silent : piece = [dot] := by simpa using single
          simpa [silent, Component.ofPiece?] using ih
        · rfl

/-- The last piece that is not dropped has a component. -/
theorem exists_component_of_dropSilent
    {reversed pieces : List (List UInt8)}
    {piece : List UInt8}
    (drops : dropSilent true reversed = piece :: pieces) :
    ∃ component, Component.ofPiece? piece = some component := by
  induction reversed with
  | nil => cases drops
  | cons first rest ih =>
      rw [dropSilent] at drops
      split at drops
      · exact ih drops
      · rename_i notEmpty
        split at drops
        · exact ih drops
        · rename_i notDot
          cases drops
          refine Option.ne_none_iff_exists'.1 fun silent => ?_
          rcases ofPiece?_eq_none_iff.1 silent with empty | single
          · exact notEmpty empty
          · exact notDot (by simp [single])

theorem dropSilent_subset (absolute : Bool) (reversed : List (List UInt8)) :
    dropSilent absolute reversed ⊆ reversed := by
  induction reversed with
  | nil => exact List.nil_subset _
  | cons piece pieces ih =>
      rw [dropSilent]
      split
      · exact List.subset_cons_of_subset piece ih
      · split
        · exact List.subset_cons_of_subset piece ih
        · exact List.Subset.refl _

/-- The first piece of a relative path always counts. -/
theorem dropSilent_concat
    {front : List UInt8}
    (nonempty : front ≠ [])
    (reversed : List (List UInt8)) :
    dropSilent false (reversed ++ [front]) = dropSilent true reversed ++ [front] := by
  induction reversed with
  | nil => simp [dropSilent, nonempty]
  | cons piece pieces ih =>
      rw [List.cons_append, dropSilent, dropSilent, ih]
      split
      · rfl
      · simp only [Bool.false_or, Bool.true_or, Bool.and_true]
        split <;> simp_all

/-- The components of pieces that are joined again. -/
theorem innerComponents_joinPieces
    {pieces : List (List UInt8)}
    (absent : ∀ piece ∈ pieces, separator ∉ piece) :
    innerComponents (joinPieces pieces) = pieces.filterMap Component.ofPiece? := by
  cases pieces with
  | nil => rfl
  | cons piece rest =>
      rw [innerComponents, joinPieces, Text.splitAt_intercalate (List.cons_ne_nil _ _) absent]

theorem componentsOf_joinPieces
    {front : List UInt8}
    {pieces : List (List UInt8)}
    (nonempty : front ≠ [])
    (absent : ∀ piece ∈ front :: pieces, separator ∉ piece) :
    componentsOf (joinPieces (front :: pieces)) =
      Component.ofFront front :: pieces.filterMap Component.ofPiece? :=
  componentsOf_relative (Text.splitAt_intercalate (List.cons_ne_nil _ _) absent) nonempty

theorem innerComponents_eq_dropSilent (bytes : List UInt8) :
    innerComponents bytes =
      (dropSilent true (Text.splitAt separator bytes).reverse).reverse.filterMap
        Component.ofPiece? := by
  rw [filterMap_dropSilent, List.reverse_reverse, innerComponents]

/-- The last piece that counts gives the last component, and the pieces in front of it are
joined and cut again without a change. -/
theorem exists_last_of_dropSilent
    {reversed others : List (List UInt8)}
    {piece : List UInt8}
    (absent : ∀ piece ∈ reversed, separator ∉ piece)
    (drops : dropSilent true reversed = piece :: others) :
    ∃ last ≠ .root,
      (piece :: others).reverse.filterMap Component.ofPiece? =
          (dropSilent true others).reverse.filterMap Component.ofPiece? ++ [last] ∧
        ∀ other ∈ (dropSilent true others).reverse, separator ∉ other := by
  obtain ⟨last, counts⟩ := exists_component_of_dropSilent drops
  refine ⟨last, ne_root_of_ofPiece? counts, ?_, fun other member => ?_⟩
  · rw [filterMap_dropSilent, List.reverse_cons, List.filterMap_append]
    simp [counts]
  · have inOthers := dropSilent_subset true others (List.mem_reverse.1 member)
    have kept : other ∈ dropSilent true reversed := drops ▸ List.mem_cons_of_mem piece inOthers
    exact absent other (dropSilent_subset true reversed kept)

/-- What taking the parent does to the components: the last one goes, unless nothing is
left but the root. -/
def Drops (path : Path) : Option Path → Prop
  | some parent => ∃ last ≠ .root, path.components = parent.components ++ [last]
  | none => path.components = [] ∨ path.components = [.root]

theorem drops_parent?_absolute
    {path : Path}
    {rest : List UInt8}
    (written : path.bytes = separator :: rest) :
    path.Drops path.parent? := by
  have absolute : path.isAbsolute = true := by simp [isAbsolute, written]
  have components : path.components = .root :: innerComponents rest := by
    rw [Path.components, written, componentsOf_absolute]
  have absent : ∀ piece ∈ (Text.splitAt separator rest).reverse, separator ∉ piece :=
    fun piece member => Text.not_mem_of_mem_splitAt (List.mem_reverse.1 member)
  rw [innerComponents_eq_dropSilent] at components
  cases kept : dropSilent true (Text.splitAt separator rest).reverse with
  | nil =>
      have above : path.parent? = none := by simp [parent?, absolute, written, kept]
      rw [kept] at components
      rw [above]
      exact .inr components
  | cons piece others =>
      have above : path.parent? =
          some ⟨⟨separator :: joinPieces (dropSilent true others).reverse⟩⟩ := by
        simp [parent?, absolute, written, kept]
      obtain ⟨last, notRoot, split, absentOthers⟩ := exists_last_of_dropSilent absent kept
      rw [above]
      refine ⟨last, notRoot, ?_⟩
      rw [components, kept, split, Path.components, bytes_mk, componentsOf_absolute,
        innerComponents_joinPieces absentOthers, List.cons_append]

theorem drops_parent?_relative
    {path : Path}
    {front : List UInt8}
    {pieces : List (List UInt8)}
    (splits : Text.splitAt separator path.bytes = front :: pieces)
    (nonempty : front ≠ [])
    (noFront : path.bytes.head? ≠ some separator) :
    path.Drops path.parent? := by
  have relative : path.isAbsolute = false := by simpa [isAbsolute] using noFront
  have components : path.components =
      Component.ofFront front :: pieces.filterMap Component.ofPiece? :=
    componentsOf_relative splits nonempty
  have absent : ∀ piece ∈ front :: pieces, separator ∉ piece := by
    intro piece member
    rw [← splits] at member
    exact Text.not_mem_of_mem_splitAt member
  have absentLater : ∀ piece ∈ pieces.reverse, separator ∉ piece := fun piece member =>
    absent piece (List.mem_cons_of_mem front (List.mem_reverse.1 member))
  have later : pieces.filterMap Component.ofPiece? =
      (dropSilent true pieces.reverse).reverse.filterMap Component.ofPiece? := by
    rw [filterMap_dropSilent, List.reverse_reverse]
  have kept : dropSilent false (Text.splitAt separator path.bytes).reverse =
      dropSilent true pieces.reverse ++ [front] := by
    rw [splits, List.reverse_cons, dropSilent_concat nonempty]
  rw [later] at components
  cases drops : dropSilent true pieces.reverse with
  | nil =>
      have above : path.parent? = some ⟨⟨joinPieces []⟩⟩ := by
        simp [parent?, relative, kept, drops, dropSilent]
      rw [above]
      refine ⟨Component.ofFront front, ofFront_ne_root front, ?_⟩
      rw [components, drops]
      rfl
  | cons piece others =>
      have above : path.parent? =
          some ⟨⟨joinPieces (front :: (dropSilent true others).reverse)⟩⟩ := by
        simp [parent?, relative, kept, drops, dropSilent_concat nonempty]
      obtain ⟨last, notRoot, split, absentOthers⟩ := exists_last_of_dropSilent absentLater drops
      have absentKept : ∀ other ∈ front :: (dropSilent true others).reverse, separator ∉ other :=
        List.forall_mem_cons.2 ⟨absent front List.mem_cons_self, absentOthers⟩
      rw [above]
      refine ⟨last, notRoot, ?_⟩
      rw [components, drops, split, Path.components, bytes_mk,
        componentsOf_joinPieces nonempty absentKept, List.cons_append]

/-- The parent of a path has all components but the last. -/
theorem drops_parent? (path : Path) : path.Drops path.parent? := by
  rcases kinds path.bytes with
    empty | ⟨rest, absolute⟩ | ⟨front, pieces, splits, nonempty, relative⟩
  · have above : path.parent? = none := by
      simp [parent?, isAbsolute, empty, Text.splitAt, dropSilent]
    rw [above]
    refine .inl ?_
    rw [components, empty, componentsOf_nil]
  · exact drops_parent?_absolute absolute
  · exact drops_parent?_relative splits nonempty relative

/-- A path lies directly in a directory when it has one component more. -/
theorem isDirectlyIn_iff (path directory : Path) :
    path.isDirectlyIn directory = true ↔
      ∃ last ≠ .root, path.components = directory.components ++ [last] := by
  have drops := path.drops_parent?
  unfold isDirectlyIn
  cases above : path.parent? with
  | none =>
      rw [above] at drops
      simp only [Bool.false_eq_true, false_iff]
      rintro ⟨last, notRoot, equal⟩
      rcases drops with empty | root
      · rw [empty] at equal
        simp at equal
      · rw [root, ← List.nil_append [Component.root]] at equal
        exact notRoot (List.singleton_inj.1 (List.append_inj' equal rfl).2).symm
  | some parent =>
      rw [above] at drops
      obtain ⟨last, notRoot, equal⟩ := drops
      simp only [sameAs, beq_iff_eq]
      constructor
      · intro same
        exact ⟨last, notRoot, by rw [equal, same]⟩
      · rintro ⟨other, _, equalOther⟩
        rw [equal] at equalOther
        exact (List.append_inj' equalOther rfl).1

end Path
end QuestMod
