import FiniteGroups.Arithmetic
import FiniteGroups.Position

/-!
# Permutations

A permutation of the points `1, …, n` is the list of its images: `p.images[i - 1]` is the image
of `i`. The type holds only genuine permutations; `Perm.read` is the gate through which other
data enters and says what is wrong with it.

* `Perm.mul` : composition, the right factor acts first; `Perm.inverse`; integer powers;
* `Perm.order` : the number of factors after which the powers return to the identity;
* `Perm.before` : the order by degree, then by images.
-/

namespace FiniteGroups

/-- A permutation of `1, …, n`, as the images of the points in turn. -/
structure Perm where
  images : Array Nat
  degree_pos : 0 < images.size
  in_range : ∀ j ∈ images, 1 ≤ j ∧ j ≤ images.size
  distinct : images.toList.Nodup
deriving DecidableEq

namespace Perm

/-- The number of points. -/
def degree (p : Perm) : Nat := p.images.size

/-- The image of a point. -/
def image (p : Perm) (i : Nat) : Nat := p.images.getD (i - 1) 0

/-- The points `1, …, n`. -/
def points (p : Perm) : List Nat := List.range' 1 p.degree

/-- Permutations with the same images are equal. -/
@[ext]
theorem ext {p q : Perm} (h : p.images = q.images) : p = q := by
  cases p; cases q; cases h; rfl

instance : Hashable Perm := ⟨fun p => hash p.images⟩

/-- The points are the numbers from `1` to the degree. -/
theorem mem_points {p : Perm} {i : Nat} : i ∈ p.points ↔ 1 ≤ i ∧ i ≤ p.degree := by
  simp only [points, List.mem_range'_1]
  omega

/-- The image of a point is an entry of the images. -/
theorem image_eq (p : Perm) {i : Nat} (h : i - 1 < p.images.size) :
    p.image i = p.images[i - 1] := by
  simp [image, h]

/-- The image of a point is among the images. -/
theorem image_mem (p : Perm) {i : Nat} (h : i ∈ p.points) : p.image i ∈ p.images := by
  rw [mem_points, degree] at h
  rw [p.image_eq (by omega)]
  exact Array.getElem_mem _

/-- The image of a point is a point. -/
theorem image_mem_points (p : Perm) {i : Nat} (h : i ∈ p.points) : p.image i ∈ p.points :=
  mem_points.2 (p.in_range _ (p.image_mem h))

/-- Different points have different images. -/
theorem image_injective (p : Perm) {i j : Nat} (hi : i ∈ p.points) (hj : j ∈ p.points)
    (h : p.image i = p.image j) : i = j := by
  rw [mem_points, degree] at hi hj
  have hi' : i - 1 < p.images.toList.length := by simp; omega
  have hj' : j - 1 < p.images.toList.length := by simp; omega
  rw [p.image_eq (by simpa using hi'), p.image_eq (by simpa using hj')] at h
  have := (@List.getElem_inj _ (i - 1) (j - 1) _ hi' hj' p.distinct).1 (by simpa using h)
  omega

/-- A list of `n` distinct numbers from `1, …, n` leaves none out. -/
theorem mem_images (p : Perm) {j : Nat} (h : j ∈ p.points) : j ∈ p.images := by
  apply Classical.byContradiction
  intro hj
  have nodup : (j :: p.images.toList).Nodup := List.nodup_cons.2 ⟨by simpa using hj, p.distinct⟩
  have sub : j :: p.images.toList ⊆ p.points := by
    intro i hi
    rcases List.mem_cons.1 hi with rfl | hi
    · exact h
    · exact mem_points.2 (p.in_range i (by simpa using hi))
  have len := nodup.length_le_of_subset sub
  rw [List.length_cons, points, List.length_range', degree, Array.length_toList] at len
  omega

/-! ## Building -/

/-- The identity on `n + 1` points. -/
def one (n : Nat) : Perm where
  images := Array.range' 1 (n + 1)
  degree_pos := by simp
  in_range := by
    intro j hj
    simp [Array.mem_range'] at hj ⊢
    omega
  distinct := by simpa using List.nodup_range' (s := 1) (n := n + 1)

/-- The identity on the points `1, …, n`. -/
def identity (n : Int) : Except Fault Perm :=
  if n < 1 then .error (.degreeTooSmall (toString n)) else .ok (one (n.toNat - 1))

/-- The first entry that is no point of `1, …, n`, or that came before. Entries are read by
`entry` and reported by `label`. -/
def firstFlaw {α : Type} (entry : α → Option Int) (label : α → String) (all : String)
    (n : Nat) : List Int → List α → Option Fault
  | _, [] => none
  | seen, x :: xs =>
    match entry x with
    | some i =>
      if ¬ (1 ≤ i ∧ i ≤ n) then some (.imageOutOfRange (label x) all)
      else if i ∈ seen then some (.imageRepeated (label x) all)
      else firstFlaw entry label all n (i :: seen) xs
    | none => some (.imageOutOfRange (label x) all)

/-- Entries without a flaw are distinct points, none of which came before. -/
theorem firstFlaw_eq_none {α : Type} {entry : α → Option Int} {label : α → String}
    {all : String} {n : Nat} {seen : List Int} {xs : List α}
    (h : firstFlaw entry label all n seen xs = none) :
    (∀ i ∈ xs.filterMap entry, 1 ≤ i ∧ i ≤ n) ∧
      (xs.filterMap entry).length = xs.length ∧
      (xs.filterMap entry).Nodup ∧ ∀ i ∈ xs.filterMap entry, i ∉ seen := by
  induction xs generalizing seen with
  | nil => simp
  | cons x xs ih =>
    rw [firstFlaw] at h
    split at h
    · rename_i i hi
      split at h
      · contradiction
      split at h
      · contradiction
      obtain ⟨range, len, nodup, fresh⟩ := ih h
      rw [List.filterMap_cons_some hi]
      refine ⟨?_, by simp [len], List.nodup_cons.2 ⟨fun hm => ?_, nodup⟩, ?_⟩
      · intro j hj
        rcases List.mem_cons.1 hj with rfl | hj
        · omega
        · exact range j hj
      · exact fresh i hm (by simp)
      · intro j hj
        rcases List.mem_cons.1 hj with rfl | hj
        · assumption
        · exact fun hs => fresh j hj (by simp [hs])
    · contradiction

/-- The permutation with the given images, if they are the points `1, …, n` in some order. -/
def read {α : Type} (entry : α → Option Int) (label : α → String) (all : String)
    (xs : List α) : Except Fault Perm :=
  match flaw : firstFlaw entry label all xs.length [] xs with
  | some fault => .error fault
  | none =>
    if empty : xs.length = 0 then .error .emptyPermutation
    else
      have valid := firstFlaw_eq_none flaw
      .ok {
        images := ((xs.filterMap entry).map Int.toNat).toArray
        degree_pos := by simp [valid.2.1]; omega
        in_range := by
          intro j hj
          simp only [List.mem_toArray, List.mem_map] at hj
          obtain ⟨i, hi, rfl⟩ := hj
          have := valid.1 i hi
          simp only [List.size_toArray, List.length_map, valid.2.1]
          omega
        distinct := by
          refine List.pairwise_map.2 (valid.2.2.1.imp_of_mem ?_)
          intro i j hi hj hij h
          have := valid.1 i hi
          have := valid.1 j hj
          exact hij (by omega) }

/-! ## Composition, inverses and powers -/

/-- The product of permutations of the same points: first `q`, then `p`. -/
def comp (p q : Perm) (h : q.degree = p.degree) : Perm where
  images := q.images.map p.image
  degree_pos := by simpa using q.degree_pos
  in_range := by
    intro j hj
    obtain ⟨i, hi, rfl⟩ := Array.mem_map.1 hj
    have := p.image_mem_points (i := i) (mem_points.2 (h ▸ q.in_range i hi))
    rw [mem_points, ← h] at this
    simpa [degree] using this
  distinct := by
    rw [Array.toList_map]
    refine List.pairwise_map.2 (q.distinct.imp_of_mem ?_)
    intro i j hi hj hij heq
    refine hij (p.image_injective ?_ ?_ heq) <;>
      exact mem_points.2 (h ▸ q.in_range _ (Array.mem_toList_iff.1 ‹_›))

/-- The product `p * q`, which sends `i` to `p (q i)`. -/
def mul (p q : Perm) : Except Fault Perm :=
  if h : q.degree = p.degree then .ok (p.comp q h)
  else .error (.degreeMismatch p.degree q.degree)

/-- The place at which a point occurs among the images. -/
def preimage (p : Perm) (j : Nat) : Nat := p.images.toList.idxOf j + 1

/-- Every point stands at some place. -/
theorem preimage_mem (p : Perm) {j : Nat} (h : j ∈ p.points) : p.preimage j ∈ p.points := by
  have := List.idxOf_lt_length_of_mem (Array.mem_toList_iff.2 (p.mem_images h))
  rw [mem_points, preimage, degree]
  simp at this
  omega

/-- The place of a point is sent to that point. -/
theorem image_preimage (p : Perm) {j : Nat} (h : j ∈ p.points) : p.image (p.preimage j) = j := by
  have lt := List.idxOf_lt_length_of_mem (Array.mem_toList_iff.2 (p.mem_images h))
  rw [p.image_eq (by simpa [preimage] using lt)]
  simp only [preimage, Nat.add_sub_cancel]
  exact List.getElem_idxOf lt

/-- The inverse permutation. -/
def inverse (p : Perm) : Perm where
  images := p.points.toArray.map p.preimage
  degree_pos := by simpa [points, degree] using p.degree_pos
  in_range := by
    intro j hj
    obtain ⟨i, hi, rfl⟩ := Array.mem_map.1 hj
    have := mem_points.1 (p.preimage_mem (by simpa using hi))
    simpa [points] using this
  distinct := by
    rw [Array.toList_map, List.toList_toArray]
    refine List.pairwise_map.2 (List.Pairwise.imp_of_mem ?_ (List.nodup_range' (s := 1)))
    intro i j hi hj hij heq
    exact hij (by rw [← p.image_preimage hi, heq, p.image_preimage hj])

/-- Whether every point is fixed. -/
def isIdentity (p : Perm) : Bool := p.points.all fun i => p.image i == i

/-- The identity on the points of `p`. -/
def unit (p : Perm) : Perm := one (p.degree - 1)

/-- The identity keeps the number of points. -/
theorem degree_unit (p : Perm) : p.unit.degree = p.degree := by
  have := p.degree_pos
  simp [unit, one, degree]
  omega

/-- A product keeps the number of points. -/
theorem degree_comp (p q : Perm) (h : q.degree = p.degree) : (p.comp q h).degree = p.degree := by
  simpa [comp, degree] using h

/-- Multiplying `k` times by `p` on the left. -/
def iterate (p : Perm) : Nat → (q : Perm) → q.degree = p.degree → Perm
  | 0, q, _ => q
  | k + 1, q, h => iterate p k (p.comp q h) (p.degree_comp q h)

/-- The power `p ^ k` for a natural number `k`, one factor at a time. -/
def pow (p : Perm) (k : Nat) : Perm := p.iterate k p.unit p.degree_unit

/-- The inverse keeps the number of points. -/
theorem degree_inverse (p : Perm) : p.inverse.degree = p.degree := by
  simp [inverse, degree, points]

/-- The power `p ^ k`; a negative exponent takes powers of the inverse. -/
def zpow (p : Perm) (k : Int) : Perm := if k < 0 then p.inverse.pow k.natAbs else p.pow k.natAbs

/-- The number of further factors `p` after which `q` becomes the identity. -/
def countdown (p : Perm) : (fuel : Nat) → (q : Perm) → q.degree = p.degree → Nat
  | 0, _, _ => 0
  | fuel + 1, q, h =>
    if q.isIdentity then 0 else countdown p fuel (p.comp q h) (p.degree_comp q h) + 1

/-- The least positive exponent whose power is the identity. There are `n!` permutations, so
the powers are back at the identity before that many steps. -/
def order (p : Perm) : Nat := countdown p (factorial p.degree) p rfl + 1

/-! ## Comparison and application -/

/-- Whether one list of numbers comes before another in the order of words. -/
def wordBefore : List Nat → List Nat → Bool
  | _, [] => false
  | [], _ :: _ => true
  | x :: xs, y :: ys => x < y || (x == y && wordBefore xs ys)

/-- The order by degree, then by images. -/
def before (p q : Perm) : Bool :=
  p.degree < q.degree || (p.degree == q.degree && wordBefore p.images.toList q.images.toList)

/-- The entry that stands `i` places along the images, the first being number `1`; places from
`0` downwards count from the end. -/
def apply (p : Perm) (i : Int) : Except Fault Nat := Position.entry p.images.toList (i - 1)

end Perm

end FiniteGroups
