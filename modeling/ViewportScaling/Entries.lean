/-!
# Entries

Values are entered under keys. The entries stay in the order in which their keys first occurred, and a
key that is repeated takes its last value.
-/

namespace ViewportScaling

/-- Enters a value under a key: in place of the entry with that key, or else at the end. -/
def enter {α β : Type} [BEq α] (entries : List (α × β)) (key : α) (value : β) : List (α × β) :=
  if entries.any (·.1 == key) then
    entries.map fun entry => if entry.1 == key then (key, value) else entry
  else entries ++ [(key, value)]

/-- The entries given by pairs in order: a repeated key keeps its first place and takes its last
value. -/
def entriesOf {α β : Type} [BEq α] (pairs : List (α × β)) : List (α × β) :=
  pairs.foldl (fun entries pair => enter entries pair.1 pair.2) []

/-- The keys stay, and a new one comes last. -/
theorem map_fst_enter {α β : Type} [BEq α] [LawfulBEq α] (entries : List (α × β)) (key : α)
    (value : β) :
    (enter entries key value).map Prod.fst =
      if key ∈ entries.map Prod.fst then entries.map Prod.fst
      else entries.map Prod.fst ++ [key] := by
  have known : entries.any (·.1 == key) = true ↔ key ∈ entries.map Prod.fst := by
    simp [List.any_eq_true]
  unfold enter
  by_cases h : key ∈ entries.map Prod.fst
  · rw [if_pos (known.2 h), if_pos h, List.map_map]
    refine List.map_congr_left fun entry _ => ?_
    by_cases same : entry.1 = key <;> simp [same]
  · rw [if_neg (mt known.1 h), if_neg h, List.map_append]
    rfl

/-- No key is entered twice. -/
theorem nodup_keys_entriesOf {α β : Type} [BEq α] [LawfulBEq α] (pairs : List (α × β)) :
    ((entriesOf pairs).map Prod.fst).Nodup := by
  suffices ∀ entries : List (α × β), (entries.map Prod.fst).Nodup →
      ((pairs.foldl (fun entries pair => enter entries pair.1 pair.2) entries).map
        Prod.fst).Nodup from this [] (by simp)
  induction pairs with
  | nil => exact fun _ distinct => distinct
  | cons pair pairs ih =>
    intro entries distinct
    refine ih _ ?_
    rw [map_fst_enter]
    split
    · exact distinct
    · rename_i new
      rw [List.nodup_append]
      exact ⟨distinct, by simp, fun key old _ last same => new (by simp_all)⟩

example : entriesOf [("a", 1), ("b", 2), ("a", 3)] = [("a", 3), ("b", 2)] := by decide

end ViewportScaling
