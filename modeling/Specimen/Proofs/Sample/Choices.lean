import Specimen.Proofs.Sample.Soundness
/-!
Sequences and repetitions as Cartesian products. Cutting every partial product to the limit comes to the same
as cutting the whole product once.
-/

namespace Specimen

variable {α β : Type}

def choices : List (List α) → List (List α)
  | [] => [[]]
  | entries :: rest => entries.flatMap fun a => (choices rest).map (a :: ·)

def Sample.joinBehind (front : Sample) (samples : List Sample) : Sample :=
  samples.foldl Sample.append front

def joined (before : List Sample) (lists : List (List Sample)) : List Sample :=
  before.flatMap fun front => (choices lists).map front.joinBehind

def productAll (limit : Nat) (before : List Sample) (lists : List (List Sample)) : List Sample :=
  lists.foldl (product limit) before

theorem take_flatMap_of_ne_nil {f : α → List β} (h : ∀ a, f a ≠ []) {count limit : Nat}
    (hcount : count ≤ limit) (as : List α) :
    ((as.take limit).flatMap f).take count = (as.flatMap f).take count := by
  induction as generalizing count limit with
  | nil => rw [List.take_nil]
  | cons a rest ih =>
      cases limit with
      | zero => rw [Nat.le_zero.1 hcount, List.take_zero, List.take_zero]
      | succ limit =>
          have hlength := List.length_pos_iff.2 (h a)
          rw [List.take_succ_cons, List.flatMap_cons, List.flatMap_cons, List.take_append,
            List.take_append, ih (by omega)]

variable {limit : Nat} {before : List Sample} {lists : List (List Sample)}

theorem joined_nil (before : List Sample) : joined before [] = before := by
  simp [joined, choices, Sample.joinBehind]

theorem joined_cons (before right : List Sample) (lists : List (List Sample)) :
    joined before (right :: lists) = joined (fullProduct before right) lists := by
  simp only [joined, choices, fullProduct, List.map_flatMap, List.flatMap_assoc, List.flatMap_map,
    List.map_map]
  rfl

theorem take_joined_take (limit : Nat) (before : List Sample) (lists : List (List Sample)) :
    (joined (before.take limit) lists).take limit = (joined before lists).take limit := by
  by_cases hnone : choices lists = []
  · have hempty (before : List Sample) : joined before lists = [] :=
      List.flatMap_eq_nil_iff.2 fun front _ => by rw [hnone, List.map_nil]
    rw [hempty, hempty]
  · refine take_flatMap_of_ne_nil (fun front => ?_) (Nat.le_refl limit) before
    rwa [Ne, List.map_eq_nil_iff]

theorem productAll_eq_take (first : List Sample) (rest : List (List Sample)) :
    productAll limit before (first :: rest) = (joined before (first :: rest)).take limit := by
  induction rest generalizing before first with
  | nil => rw [joined_cons, joined_nil]; exact product_eq_take limit before first
  | cons second rest ih =>
      have hnext : productAll limit before (first :: second :: rest) =
          productAll limit (product limit before first) (second :: rest) := rfl
      rw [hnext, ih, product_eq_take, take_joined_take, joined_cons before first]

theorem product_nil (limit : Nat) (right : List Sample) : product limit [] right = [] := by
  rw [product_eq_take, fullProduct, List.flatMap_nil, List.take_nil]

theorem productAll_nil (limit : Nat) (lists : List (List Sample)) : productAll limit [] lists = [] := by
  induction lists with
  | nil => rfl
  | cons right rest ih => rw [productAll, List.foldl_cons, product_nil]; exact ih

theorem catSamples_eq_productAll (limits : Limits) (before : List Sample) (items : List Node) :
    catSamples limits before items =
      productAll limits.totalResults before (items.map (·.samples limits)) := by
  induction items generalizing before with
  | nil => rfl
  | cons item rest ih =>
      rw [catSamples, List.map_cons, productAll, List.foldl_cons]
      split
      · next hempty => rw [List.isEmpty_iff.1 hempty, product_nil]; exact (productAll_nil _ _).symm
      · exact ih _

theorem power_eq_productAll (limit : Nat) (inner before : List Sample) (count : Nat) :
    power limit inner count before = productAll limit before (List.replicate count inner) := by
  induction count generalizing before with
  | zero => rfl
  | succ count ih =>
      rw [power, List.replicate_succ, productAll, List.foldl_cons]
      split
      · next hempty => rw [List.isEmpty_iff.1 hempty, product_nil]; exact (productAll_nil _ _).symm
      · exact ih _

end Specimen
