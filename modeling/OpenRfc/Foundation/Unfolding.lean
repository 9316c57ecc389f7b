import Mathlib.Data.Finite.Defs
import Mathlib.Data.List.Basic
import Mathlib.Order.WellFounded

/-!
The unfolding of a shared structure: a tree in which each label stands over the labels below it,
in their order, however often they occur. Where no label is below itself there is one for each
label, and only one.
-/

inductive Unfolding (α : Type*)
  | node (label : α) (children : List (Unfolding α))

namespace Unfolding
variable {α : Type*}

def label : Unfolding α → α
  | node label _ => label

def children : Unfolding α → List (Unfolding α)
  | node _ children => children

/-- Induction over the trees, with the children at once. -/
@[elab_as_elim, induction_eliminator]
theorem induct {motive : Unfolding α → Prop}
    (node : ∀ label children, (∀ tree ∈ children, motive tree) → motive (node label children)) :
    ∀ tree, motive tree :=
  @Unfolding.rec α motive (fun trees => ∀ tree ∈ trees, motive tree) node
    (List.forall_mem_nil motive) fun _ _ first rest => List.forall_mem_cons.mpr ⟨first, rest⟩

mutual

/-- The number of the labels of a tree. -/
def size : Unfolding α → Nat
  | node _ children => sizes children + 1

def sizes : List (Unfolding α) → Nat
  | [] => 0
  | tree :: trees => tree.size + sizes trees

end

mutual

/-- The number of levels of a tree, with that of its root. -/
def height : Unfolding α → Nat
  | node _ children => heights children + 1

def heights : List (Unfolding α) → Nat
  | [] => 0
  | tree :: trees => max tree.height (heights trees)

end

@[simp] theorem sizes_nil : sizes ([] : List (Unfolding α)) = 0 := by rw [sizes]

@[simp] theorem sizes_cons (tree : Unfolding α) (trees : List (Unfolding α)) :
    sizes (tree :: trees) = tree.size + sizes trees := by rw [sizes]

@[simp] theorem size_node (label : α) (children : List (Unfolding α)) :
    (node label children).size = sizes children + 1 := by rw [size]

@[simp] theorem heights_nil : heights ([] : List (Unfolding α)) = 0 := by rw [heights]

@[simp] theorem heights_cons (tree : Unfolding α) (trees : List (Unfolding α)) :
    heights (tree :: trees) = max tree.height (heights trees) := by rw [heights]

@[simp] theorem height_node (label : α) (children : List (Unfolding α)) :
    (node label children).height = heights children + 1 := by rw [height]

mutual

/-- The labels of a tree, each before those below it. -/
def labels : Unfolding α → List α
  | node label children => label :: forestLabels children

def forestLabels : List (Unfolding α) → List α
  | [] => []
  | tree :: trees => tree.labels ++ forestLabels trees

end

@[simp] theorem forestLabels_nil : forestLabels ([] : List (Unfolding α)) = [] := by rw [forestLabels]

@[simp] theorem forestLabels_cons (tree : Unfolding α) (trees : List (Unfolding α)) :
    forestLabels (tree :: trees) = tree.labels ++ forestLabels trees := by rw [forestLabels]

@[simp] theorem labels_node (label : α) (children : List (Unfolding α)) :
    (node label children).labels = label :: forestLabels children := by rw [labels]

section Of
variable (below : α → List α)

mutual

/-- Below each label are the trees of the labels below it. -/
def IsOf : Unfolding α → Prop
  | node label children => children.map Unfolding.label = below label ∧ AreOf children

def AreOf : List (Unfolding α) → Prop
  | [] => True
  | tree :: trees => tree.IsOf ∧ AreOf trees

end

variable {below}

@[simp] theorem areOf_nil : AreOf below [] := by rw [AreOf]; trivial

@[simp] theorem areOf_cons {tree : Unfolding α} {trees : List (Unfolding α)} :
    AreOf below (tree :: trees) ↔ tree.IsOf below ∧ AreOf below trees := by rw [AreOf]

@[simp] theorem isOf_node {label : α} {children : List (Unfolding α)} :
    (node label children).IsOf below ↔
      children.map Unfolding.label = below label ∧ AreOf below children := by rw [IsOf]

/-- The forest over some labels. -/
def Unfolds (below : α → List α) (labels : List α) (trees : List (Unfolding α)) : Prop :=
  trees.map Unfolding.label = labels ∧ AreOf below trees

theorem isOf_node_iff {label : α} {children : List (Unfolding α)} :
    (node label children).IsOf below ↔ Unfolds below (below label) children := isOf_node

@[simp] theorem unfolds_nil {trees : List (Unfolding α)} : Unfolds below [] trees ↔ trees = [] := by
  constructor
  · exact fun h => List.map_eq_nil_iff.mp h.1
  · rintro rfl
    exact ⟨rfl, areOf_nil⟩

theorem unfolds_cons {label : α} {labels : List α} {trees : List (Unfolding α)} :
    Unfolds below (label :: labels) trees ↔ ∃ children rest,
      trees = node label children :: rest ∧ Unfolds below (below label) children ∧
        Unfolds below labels rest := by
  constructor
  · rintro ⟨hlabels, hof⟩
    cases trees with
    | nil => cases hlabels
    | cons tree rest =>
      obtain ⟨root, children⟩ := tree
      rw [List.map_cons, List.cons.injEq] at hlabels
      obtain ⟨rfl, hrest⟩ := hlabels
      rw [areOf_cons] at hof
      exact ⟨children, rest, rfl, isOf_node_iff.mp hof.1, hrest, hof.2⟩
  · rintro ⟨children, rest, rfl, hchildren, hrest⟩
    refine ⟨?_, ?_⟩
    · rw [List.map_cons, hrest.1]
      rfl
    · exact areOf_cons.mpr ⟨isOf_node_iff.mpr hchildren, hrest.2⟩

theorem unfolds_unique_of {labels : List α} {trees trees' : List (Unfolding α)}
    (h : Unfolds below labels trees) (h' : Unfolds below labels trees')
    (ih : ∀ tree ∈ trees, ∀ tree' : Unfolding α, tree.IsOf below → tree'.IsOf below →
      tree.label = tree'.label → tree = tree') : trees = trees' := by
  induction labels generalizing trees trees' with
  | nil => rw [unfolds_nil.mp h, unfolds_nil.mp h']
  | cons label labels ihl =>
    obtain ⟨children, rest, rfl, hchildren, hrest⟩ := unfolds_cons.mp h
    obtain ⟨children', rest', rfl, hchildren', hrest'⟩ := unfolds_cons.mp h'
    rw [ih _ List.mem_cons_self _ (isOf_node_iff.mpr hchildren) (isOf_node_iff.mpr hchildren') rfl,
      ihl hrest hrest' fun tree htree => ih tree (List.mem_cons_of_mem _ htree)]

theorem isOf_unique {tree tree' : Unfolding α} (h : tree.IsOf below) (h' : tree'.IsOf below)
    (hlabel : tree.label = tree'.label) : tree = tree' := by
  induction tree generalizing tree' with
  | node label children ih =>
    obtain ⟨label', children'⟩ := tree'
    obtain rfl : label = label' := hlabel
    rw [unfolds_unique_of (isOf_node_iff.mp h) (isOf_node_iff.mp h')
      fun tree htree _ => ih tree htree]

theorem unfolds_unique {labels : List α} {trees trees' : List (Unfolding α)}
    (h : Unfolds below labels trees) (h' : Unfolds below labels trees') : trees = trees' :=
  unfolds_unique_of h h' fun _ _ _ => isOf_unique

theorem exists_unfolds_of {labels : List α}
    (h : ∀ label ∈ labels, ∃ children, Unfolds below (below label) children) :
    ∃ trees, Unfolds below labels trees := by
  induction labels with
  | nil => exact ⟨[], unfolds_nil.mpr rfl⟩
  | cons label labels ih =>
    obtain ⟨children, hchildren⟩ := h label List.mem_cons_self
    obtain ⟨rest, hrest⟩ := ih fun label hlabel => h label (List.mem_cons_of_mem _ hlabel)
    exact ⟨_, unfolds_cons.mpr ⟨children, rest, rfl, hchildren, hrest⟩⟩

/-- Where every way down ends, there is an unfolding. -/
theorem exists_unfolds (hwf : WellFounded fun lower upper => lower ∈ below upper)
    (labels : List α) : ∃ trees, Unfolds below labels trees := by
  have hbelow : ∀ label, ∃ children, Unfolds below (below label) children := by
    intro label
    induction label using hwf.induction with
    | h label ih => exact exists_unfolds_of ih
  exact exists_unfolds_of fun label _ => hbelow label

end Of

section Describe
variable {β : Type*} (describe : α → List β → Option β)

mutual

/-- What is described from the leaves on. -/
def fold : Unfolding α → Option β
  | node label children => (folds children).bind (describe label)

def folds : List (Unfolding α) → Option (List β)
  | [] => some []
  | tree :: trees => tree.fold.bind fun value => (folds trees).map (value :: ·)

end

@[simp] theorem fold_node (label : α) (children : List (Unfolding α)) :
    (node label children).fold describe = (folds describe children).bind (describe label) := by
  rw [fold]

@[simp] theorem folds_nil : folds describe [] = some [] := by rw [folds]

@[simp] theorem folds_cons (tree : Unfolding α) (trees : List (Unfolding α)) :
    folds describe (tree :: trees) =
      (tree.fold describe).bind fun value => (folds describe trees).map (value :: ·) := by
  rw [folds]

variable {describe}

theorem isSome_folds_of {p : α → Prop} {trees : List (Unfolding α)}
    (h : ∀ tree ∈ trees, (tree.fold describe).isSome ↔ ∀ label ∈ tree.labels, p label) :
    (folds describe trees).isSome ↔ ∀ label ∈ forestLabels trees, p label := by
  induction trees with
  | nil => simp
  | cons tree trees ih =>
    have hrest := ih fun other hother => h other (List.mem_cons_of_mem _ hother)
    rw [forestLabels_cons, List.forall_mem_append, ← h tree List.mem_cons_self, ← hrest, folds_cons]
    cases tree.fold describe with
    | none => simp
    | some value => simp

/-- A forest has a description iff each of its labels has one. -/
theorem isSome_folds_iff {p : α → Prop}
    (h : ∀ label nested, (describe label nested).isSome ↔ p label) (trees : List (Unfolding α)) :
    (folds describe trees).isSome ↔ ∀ label ∈ forestLabels trees, p label := by
  have hfold : ∀ tree : Unfolding α, (tree.fold describe).isSome ↔ ∀ label ∈ tree.labels, p label := by
    intro tree
    induction tree with
    | node label children ih =>
      rw [fold_node, labels_node, List.forall_mem_cons, ← isSome_folds_of ih]
      cases folds describe children with
      | none => simp
      | some nested => simp [h label nested]
  exact isSome_folds_of fun tree _ => hfold tree

end Describe

end Unfolding
