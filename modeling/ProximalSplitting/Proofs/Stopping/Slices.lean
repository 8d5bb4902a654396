import ProximalSplitting.Proofs.Effects.Outcomes
import ProximalSplitting.Proofs.Exact.Building

/-!
Slices of vectors in nested powers. A power projects and measures a vector slice by slice, and if
its base is a power too, it does the same with every slice. Where a vector has fewer slices than
there are copies, its last slice is taken again.
-/

namespace ProximalSplitting

open Compute Tensor

variable {S : Type} {inner levels counts : List Nat} {extent copies count : Nat}

namespace Tensor

def clamped (tensor : Tensor S) (position : Nat) : Tensor S :=
  tensor.slices.getD (min position (tensor.slices.length - 1)) tensor

section Slices

variable {tensor : Tensor S} {position : Nat}

theorem clamped_of_lt (inside : position < tensor.slices.length) :
    tensor.clamped position = tensor.slices[position] := by
  have same : min position (tensor.slices.length - 1) = position := by omega
  rw [clamped, same, ← List.getElem_eq_getD (h := inside)]

theorem clamped_of_ge (outside : tensor.slices.length ≤ position)
    (some : tensor.slices.length - 1 < tensor.slices.length) :
    tensor.clamped position = tensor.slices[tensor.slices.length - 1] := by
  have same : min position (tensor.slices.length - 1) = tensor.slices.length - 1 := by omega
  rw [clamped, same, ← List.getElem_eq_getD (h := some)]

variable (some : 0 < extent) (shaped : tensor.hasShape (extent :: inner) = true)
include shaped

theorem slices_of_hasShape :
    tensor = stack tensor.slices ∧ tensor.slices.length = extent ∧
      ∀ slice ∈ tensor.slices, slice.hasShape inner = true := by
  cases tensor with
  | scalar _ => simp [hasShape] at shaped
  | stack slices =>
      simp only [hasShape, Bool.and_eq_true, decide_eq_true_eq, allHaveShape_iff] at shaped
      exact ⟨rfl, shaped⟩

include some

theorem clamped_mem (position : Nat) : tensor.clamped position ∈ tensor.slices := by
  obtain ⟨_, length, _⟩ := slices_of_hasShape shaped
  have inside : min position (tensor.slices.length - 1) < tensor.slices.length := by omega
  rw [clamped, ← List.getElem_eq_getD (h := inside)]
  exact List.getElem_mem inside

theorem hasShape_clamped (position : Nat) : (tensor.clamped position).hasShape inner = true :=
  (slices_of_hasShape shaped).2.2 _ (clamped_mem some shaped position)

theorem gives_clamped (position : Nat) :
    (tensor.component position).Gives (tensor.clamped position) := by
  obtain ⟨_, length, _⟩ := slices_of_hasShape shaped
  have taken : (tensor.slices[position]? <|> tensor.slices.getLast?) =
      Option.some (tensor.clamped position) := by
    by_cases inside : position < tensor.slices.length
    · rw [clamped_of_lt inside, List.getElem?_eq_getElem inside]
      rfl
    · have last : tensor.slices.length - 1 < tensor.slices.length := by omega
      rw [clamped_of_ge (by omega) last, List.getElem?_eq_none (by omega),
        List.getLast?_eq_getElem?, List.getElem?_eq_getElem last]
      rfl
  rw [component, taken]
  exact gives_pure _

end Slices

mutual

theorem zipWith_self (combine : S → S → S) : ∀ tensor : Tensor S,
    zipWith combine tensor tensor = tensor.map fun entry => combine entry entry
  | scalar _ => rfl
  | stack slices => by rw [zipWith, map, zipAll_self combine slices]

theorem zipAll_self (combine : S → S → S) : ∀ slices : List (Tensor S),
    zipAll combine slices slices = mapAll (fun entry => combine entry entry) slices
  | [] => rfl
  | first :: rest => by rw [zipAll, mapAll, zipWith_self combine first, zipAll_self combine rest]

end

end Tensor

namespace Power

def resliced (copies : Nat) (vector : Point S) : Point S := point copies vector.clamped

theorem resliced_self {vector : Point S} (shaped : vector.hasShape (copies :: inner) = true) :
    resliced copies vector = vector := by
  obtain ⟨stacked, length, _⟩ := slices_of_hasShape shaped
  conv_rhs => rw [stacked]
  rw [resliced, point, ← length]
  congr 1
  refine List.ext_getElem (by simp) fun position _ inside => ?_
  rw [List.getElem_map, List.getElem_range, clamped_of_lt inside]

/-- As many slices as the outermost power has copies, of each as many as the next one has, and so on,
always the last one again where they run out. -/
def sliced : List Nat → Point S → Point S
  | [], vector => vector
  | count :: counts, vector => point count fun position => sliced counts (vector.clamped position)

def squares [Scalar S] : List Nat → Point S → S
  | [], vector => (vector.map Scalar.square).sum
  | count :: counts, vector => (List.range count).foldl
      (fun sum position => sum + squares counts (vector.clamped position)) Scalar.zero

def nestedLength [Scalar S] (counts : List Nat) (vector : Point S) : S :=
  Scalar.sqrt (squares counts vector)

/-- If an operation fails for every slice, it fails. -/
theorem each_fails [Scalar S] (some : 0 < copies) {operation : Nat → Compute S (Point S)}
    {fault : Fault S}
    (refused : ∀ position, (operation position).Ensures (· = fault) fun _ => False) :
    (each copies operation).Ensures (· = fault) fun _ => False := by
  refine (ensures_mapM_all fun position _ => refused position).bind
    fun values ⟨length, impossible⟩ => ?_
  -- A list of slices would be as long as there are copies, and none of them is in it.
  obtain rfl := List.eq_nil_iff_forall_not_mem.mpr impossible
  rw [List.length_nil, List.length_range] at length
  omega

structure Slices (counts levels : List Nat) (vector : Point S) : Prop where
  enough : counts.length ≤ levels.length
  positive : ∀ extent ∈ levels, 0 < extent
  shaped : vector.hasShape levels = true

namespace Slices

variable {vector : Point S}

theorem clamped (slices : Slices (count :: counts) levels vector) (position : Nat) :
    (vector.component position).Gives (vector.clamped position) ∧
      Slices counts levels.tail (vector.clamped position) := by
  obtain ⟨enough, positive, shaped⟩ := slices
  cases levels with
  | nil => simp at enough
  | cons extent below =>
      obtain ⟨extentPositive, belowPositive⟩ := List.forall_mem_cons.mp positive
      exact ⟨gives_clamped extentPositive shaped position, Nat.le_of_succ_le_succ enough,
        belowPositive, hasShape_clamped extentPositive shaped position⟩

theorem hasShape_sliced (slices : Slices counts levels vector) :
    (sliced counts vector).hasShape (counts ++ levels.drop counts.length) = true := by
  induction counts generalizing levels vector with
  | nil => exact slices.shaped
  | cons count rest ih =>
      have deeper := hasShape_point fun position (_ : position < count) =>
        ih (slices.clamped position).2
      rwa [List.drop_tail] at deeper

theorem sliced_eq (slices : Slices counts (counts ++ inner) vector) :
    sliced counts vector = vector := by
  induction counts generalizing vector with
  | nil => rfl
  | cons count rest ih =>
      have same : sliced (count :: rest) vector = resliced count vector :=
        point_congr fun position _ => ih (slices.clamped position).2
      rw [same]
      exact resliced_self slices.shaped

theorem positive_sliced (slices : Slices counts levels vector) (some : ∀ count ∈ counts, 0 < count) :
    ∀ extent ∈ counts ++ levels.drop counts.length, 0 < extent :=
  List.forall_mem_append.mpr
    ⟨some, fun extent member => slices.positive extent (List.mem_of_mem_drop member)⟩

end Slices

end Power

namespace Manifold

open Power

variable [Scalar S] {strictness : Strictness} {space base : Manifold S} {point vector : Point S}

def tower (space : Manifold S) (counts : List Nat) : Manifold S :=
  counts.foldr (fun count base => .power base count (.integer count)) space

theorem powersOf_eq (built : powersOf strictness space counts = .ok base) :
    base = space.tower counts ∧ ∀ count ∈ counts, 0 < count := by
  induction counts generalizing base with
  | nil =>
      cases built
      exact ⟨rfl, by simp⟩
  | cons count rest ih =>
      rw [powersOf, List.foldrM_cons, ← powersOf] at built
      cases below : powersOf strictness space rest with
      | error _ =>
          rw [below] at built
          cases built
      | ok lower =>
          rw [below] at built
          change powerOf strictness (.inl lower) (.integer count) = .ok base at built
          obtain ⟨rfl, restPositive⟩ := ih below
          rw [powerOf_integer] at built
          split at built
          · cases built
          · rename_i some
            cases built
            exact ⟨rfl, List.forall_mem_cons.mpr ⟨Nat.pos_of_ne_zero some, restPositive⟩⟩

theorem gives_proj_tower (plain : ∀ point vector, (space.geometry.proj point vector).Gives vector)
    (some : ∀ count ∈ counts, 0 < count) {pointLevels : List Nat}
    (pointSlices : Slices counts pointLevels point) (slices : Slices counts levels vector) :
    ((space.tower counts).geometry.proj point vector).Gives (sliced counts vector) := by
  induction counts generalizing point vector pointLevels levels with
  | nil => exact plain point vector
  | cons count rest ih =>
      obtain ⟨countPositive, restPositive⟩ := List.forall_mem_cons.mp some
      have below : Slices rest levels.tail (vector.clamped 0) := (slices.clamped 0).2
      refine gives_each (below.positive_sliced restPositive) countPositive (fun position _ => ?_)
        fun position _ => (slices.clamped position).2.hasShape_sliced
      obtain ⟨pointFound, pointBelow⟩ := pointSlices.clamped position
      obtain ⟨found, vectorBelow⟩ := slices.clamped position
      exact pointFound.bind (found.bind (ih restPositive pointBelow vectorBelow))

theorem gives_inner_tower (plain : ∀ point vector,
      (space.geometry.inner point vector vector).Gives (vector.map Scalar.square).sum)
    {pointLevels : List Nat} (pointSlices : Slices counts pointLevels point)
    (slices : Slices counts levels vector) :
    ((space.tower counts).geometry.inner point vector vector).Gives (squares counts vector) := by
  induction counts generalizing point vector pointLevels levels with
  | nil => exact plain point vector
  | cons count rest ih =>
      refine gives_foldlM (fun sum position _ => ?_) _
      obtain ⟨pointFound, pointBelow⟩ := pointSlices.clamped position
      obtain ⟨found, below⟩ := slices.clamped position
      exact (pointFound.bind (found.bind (found.bind (ih pointBelow below)))).bind (gives_pure _)

/-- Where the innermost manifold refuses to project, the tower does so too. -/
theorem proj_tower_fails {fault : Fault S} (some : ∀ count ∈ counts, 0 < count)
    (pointSlices : Slices counts levels point) (slices : Slices counts levels vector)
    (refused : ∀ point vector : Point S, point.hasShape (levels.drop counts.length) = true →
      vector.hasShape (levels.drop counts.length) = true →
      (space.geometry.proj point vector).Ensures (· = fault) fun _ => False) :
    ((space.tower counts).geometry.proj point vector).Ensures (· = fault) fun _ => False := by
  induction counts generalizing point vector levels with
  | nil => exact refused point vector pointSlices.shaped slices.shaped
  | cons count rest ih =>
      obtain ⟨countPositive, restPositive⟩ := List.forall_mem_cons.mp some
      refine each_fails countPositive fun position => ?_
      obtain ⟨pointFound, pointBelow⟩ := pointSlices.clamped position
      obtain ⟨found, below⟩ := slices.clamped position
      exact pointFound.bind_ensures (found.bind_ensures
        (ih restPositive pointBelow below (by simpa using refused)))

end Manifold

end ProximalSplitting
