import HeaderVault.Proofs.Argon2.Fill

/-!
The order in which segments are filled, whatever filling one of them is.

`traverse` has the loops over passes, slices, workers and lanes around the filling of one segment,
which may be any computation: one that can refuse, one that stops where an operation has no result,
or one that writes down what it does. Whatever it is, the four loops are one loop over
`Geometry.positions` (`traverse_eq`), from which the number of workers has gone. A map between
computations that keeps sequences (`Follows`) carries a filling of one kind to one of the other
(`Follows.traverse`).
-/

namespace HeaderVault.Argon2

variable {m n : Type → Type} [Monad m] [Monad n] {σ τ α β : Type}

/-! ### Loops -/

/-- A loop over parts is a loop of loops. -/
theorem foldlM_flatMap [LawfulMonad m] {step : σ → β → m σ} {parts : α → List β} (list : List α)
    (state : σ) :
    (list.flatMap parts).foldlM step state =
      list.foldlM (fun state part => (parts part).foldlM step state) state := by
  induction list generalizing state with
  | nil => rfl
  | cons part rest ih => simp only [List.flatMap_cons, List.foldlM_append, List.foldlM_cons, ih]

/-- A loop runs inside of another state when its steps do. -/
theorem foldlM_within [LawfulMonad m] {outer : σ → τ} {step : σ → α → m σ} {step' : τ → α → m τ}
    (each : ∀ state part, step' (outer state) part = outer <$> step state part) (list : List α)
    (state : σ) : list.foldlM step' (outer state) = outer <$> list.foldlM step state := by
  induction list generalizing state with
  | nil => exact (map_pure outer state).symm
  | cons part rest ih =>
      simp only [List.foldlM_cons, map_bind, each, bind_map_left, ih]

/-- A map between computations that keeps results and sequences. -/
structure Follows (φ : (α : Type) → m α → n α) : Prop where
  pure : ∀ {α : Type} (value : α), φ α (pure value) = Pure.pure value
  bind : ∀ {α β : Type} (first : m α) (next : α → m β),
    φ β (first >>= next) = φ α first >>= fun value => φ β (next value)

theorem Follows.foldlM {φ : (α : Type) → m α → n α} (follows : Follows φ) (step : σ → α → m σ)
    (list : List α) (state : σ) :
    φ σ (list.foldlM step state) = list.foldlM (fun state part => φ σ (step state part)) state := by
  induction list generalizing state with
  | nil => exact follows.pure state
  | cons part rest ih =>
      rw [List.foldlM_cons, List.foldlM_cons, follows.bind]
      congr 1
      funext state
      exact ih state

/-! ### The order of filling -/

/-- The positions in the order of filling. -/
def Geometry.positions (g : Geometry) : List Position :=
  (List.range g.passes.toNat).flatMap fun pass =>
    (List.range slices.toNat).flatMap fun slice =>
      g.allLanes.map fun lane => ⟨.ofNat pass, lane, .ofNat slice⟩

theorem Geometry.mem_positions {g : Geometry} {position : Position} :
    position ∈ g.positions ↔ g.contains position := by
  obtain ⟨pass, lane, slice⟩ := position
  simp only [positions, contains, List.mem_flatMap, List.mem_map, mem_allLanes, Bool.and_eq_true,
    decide_eq_true_eq, Position.mk.injEq]
  rw [lt_iff_exists_mem_range (n := pass), lt_iff_exists_mem_range (n := slice)]
  constructor
  · rintro ⟨k, pass, l, slice, lane, within, first, rfl, last⟩
    exact ⟨⟨⟨k, pass, first⟩, within⟩, l, slice, last⟩
  · rintro ⟨⟨⟨k, pass, first⟩, within⟩, l, slice, last⟩
    exact ⟨k, pass, l, slice, lane, within, first, rfl, last⟩

variable {g : Geometry}

/-- All segments, with each of them filled in a given way. -/
def traverse (g : Geometry) (threads : UInt32) (fill : Matrix g → Position → m (Matrix g))
    (matrix : Matrix g) : m (Matrix g) :=
  (List.range g.passes.toNat).foldlM
    (fun matrix pass =>
      (List.range slices.toNat).foldlM
        (fun matrix slice =>
          (Instance.shares g.lanes.toNat (workers g.lanes threads).toNat).foldlM
            (fun matrix lanes =>
              lanes.foldlM (fun matrix lane => fill matrix ⟨.ofNat pass, lane, .ofNat slice⟩)
                matrix) matrix) matrix) matrix

/-- Whatever filling a segment is, the workers do not change the order. -/
theorem traverse_eq [LawfulMonad m] (threads : UInt32) (fill : Matrix g → Position → m (Matrix g))
    (matrix : Matrix g) : traverse g threads fill matrix = g.positions.foldlM fill matrix := by
  have all : (Instance.shares g.lanes.toNat (workers g.lanes threads).toNat).flatten = g.allLanes :=
    Instance.flatten_shares g.lanes.toNat (Instance.workers_pos g.lanes threads)
  simp only [traverse, Geometry.positions, foldlM_flatMap, List.foldlM_map, ← all,
    ← List.flatMap_id']

theorem Follows.traverse {φ : (α : Type) → m α → n α} (follows : Follows φ) (threads : UInt32)
    (fill : Matrix g → Position → m (Matrix g)) (matrix : Matrix g) :
    φ _ (Argon2.traverse g threads fill matrix) =
      Argon2.traverse g threads (fun matrix position => φ _ (fill matrix position)) matrix := by
  simp only [Argon2.traverse, follows.foldlM]

/-- Filling the memory is filling its segments, each as it is. -/
theorem Instance.fillMemory_eq_traverse (g : Geometry) (threads : UInt32) (matrix : Matrix g) :
    fillMemory ⟨g, threads, matrix⟩ =
      Instance.mk g threads <$> traverse g threads Segment.fill matrix := by
  refine foldlM_within (fun matrix pass => ?_) _ matrix
  refine foldlM_within (fun matrix slice => ?_) _ matrix
  refine foldlM_within (fun matrix lanes => ?_) _ matrix
  refine foldlM_within (fun matrix lane => ?_) _ matrix
  exact bind_pure_comp _ _

end HeaderVault.Argon2
