import ViewportScaling.Proofs.Document.Merging

/-!
# Grouped entries

Grouping lists each selector once and under it all that was listed before, in order. So entries that agree
in their selectors, and whose declarations are related one by one, are grouped in the same way. A list of
declarations may also come about by interleaving two others, each of which keeps its order; interleavings
that are put together one behind the other make up an interleaving.
-/

namespace ViewportScaling.Document

open Css

/-! ### Looking up grouped entries -/

/-- What the first entry lists under a selector stands before what the others do. -/
theorem declarationsOf_cons (entry : String × List Declaration)
    (entries : List (String × List Declaration)) (selector : String) :
    declarationsOf (entry :: entries) selector =
      (if entry.1 = selector then entry.2 else []) ++ declarationsOf entries selector := by
  have split := declarationsOf_append [entry] entries selector
  rwa [declarationsOf_singleton, List.singleton_append] at split

/-- Entries with one selector list their declarations under it and under no other one. -/
theorem declarationsOf_labelled (selector : String) (parts : List (List Declaration)) (other : String) :
    declarationsOf (parts.map fun part => (selector, part)) other =
      if selector = other then parts.flatten else [] := by
  induction parts with
  | nil => exact (ite_self []).symm
  | cons part parts ih =>
    rw [List.map_cons, declarationsOf_cons, ih]
    split
    · rw [List.flatten_cons]
    · rfl

/-- What an entry holds is listed under its selector. -/
theorem mem_declarationsOf {entries : List (String × List Declaration)}
    {entry : String × List Declaration} {declaration : Declaration} (mem : entry ∈ entries)
    (inside : declaration ∈ entry.2) : declaration ∈ declarationsOf entries entry.1 := by
  rw [declarationsOf, List.mem_flatMap]
  refine ⟨entry, List.mem_filter.2 ⟨mem, ?_⟩, inside⟩
  rw [decide_eq_true_eq]

/-- What a grouped entry holds comes from an entry with the same selector. -/
theorem exists_of_mem_grouped {entries : List (String × List Declaration)}
    {entry : String × List Declaration} {declaration : Declaration} (mem : entry ∈ grouped entries)
    (inside : declaration ∈ entry.2) :
    ∃ other ∈ entries, other.1 = entry.1 ∧ declaration ∈ other.2 := by
  obtain ⟨selector, -, rfl⟩ := List.mem_map.1 mem
  obtain ⟨other, kept, holds⟩ := List.mem_flatMap.1 inside
  obtain ⟨listed, same⟩ := List.mem_filter.1 kept
  exact ⟨other, listed, of_decide_eq_true same, holds⟩

@[simp] theorem grouped_nil : grouped [] = [] := rfl

/-- The selectors of grouped entries are the selectors of the entries, each once. -/
theorem map_fst_grouped (entries : List (String × List Declaration)) :
    (grouped entries).map Prod.fst = (entries.map Prod.fst).eraseDups := by
  rw [grouped, List.map_map]
  exact List.map_id _

/-- Each selector is listed once. -/
theorem nodup_map_fst_grouped (entries : List (String × List Declaration)) :
    ((grouped entries).map Prod.fst).Nodup := by
  rw [map_fst_grouped]
  exact nodup_eraseDups _

/-- Grouping loses no selector and makes up none. -/
theorem mem_map_fst_grouped {entries : List (String × List Declaration)} {selector : String} :
    selector ∈ (grouped entries).map Prod.fst ↔ selector ∈ entries.map Prod.fst := by
  rw [map_fst_grouped, List.mem_eraseDups]

/-- Of entries with different selectors, at most one is about a selector. -/
theorem declarationsOf_map_of_nodup {keys : List String} (nodup : keys.Nodup)
    (contents : String → List Declaration) (selector : String) :
    declarationsOf (keys.map fun key => (key, contents key)) selector =
      if selector ∈ keys then contents selector else [] := by
  induction keys with
  | nil => rfl
  | cons key keys ih =>
    have ⟨notMem, nodup⟩ := List.nodup_cons.1 nodup
    rw [List.map_cons, declarationsOf_cons, ih nodup]
    dsimp only
    by_cases same : key = selector
    · subst same
      rw [if_pos rfl, if_neg notMem, if_pos List.mem_cons_self, List.append_nil]
    · rw [if_neg same, List.nil_append]
      have others : selector ∈ key :: keys ↔ selector ∈ keys := by
        rw [List.mem_cons]
        exact or_iff_right fun same' => same same'.symm
      simp only [others]

/-- Grouping changes nothing about what is listed under a selector. -/
theorem declarationsOf_grouped (entries : List (String × List Declaration)) (selector : String) :
    declarationsOf (grouped entries) selector = declarationsOf entries selector := by
  rw [grouped, declarationsOf_map_of_nodup (nodup_eraseDups _)]
  split
  · rfl
  · rename_i absent
    rw [List.mem_eraseDups] at absent
    exact (declarationsOf_of_notMem absent).symm

/-! ### Grouping again -/

/-- Keys that are distinct already stay as they are. -/
theorem eraseDups_eraseDups (keys : List String) : keys.eraseDups.eraseDups = keys.eraseDups := by
  induction keys using List.reverseRecOn with
  | nil => rfl
  | append_singleton keys key ih =>
    rw [eraseDups_concat]
    split
    · exact ih
    · rename_i new
      rw [eraseDups_concat, if_neg fun old => new (List.mem_eraseDups.1 old), ih]

/-- Keys that occur twice may be left out of the parts of a list before they are left out of the whole. -/
theorem eraseDups_append_eraseDups (first second : List String) :
    (first.eraseDups ++ second.eraseDups).eraseDups = (first ++ second).eraseDups := by
  induction second using List.reverseRecOn with
  | nil =>
    rw [List.eraseDups_nil, List.append_nil, List.append_nil]
    exact eraseDups_eraseDups first
  | append_singleton second key ih =>
    rw [eraseDups_concat, ← List.append_assoc, eraseDups_concat]
    by_cases known : key ∈ second
    · rw [if_pos known, if_pos (List.mem_append_right _ known)]
      exact ih
    · rw [if_neg known, ← List.append_assoc, eraseDups_concat, ih]
      simp only [List.mem_append, List.mem_eraseDups]

/-- Grouping parts of a list and then the whole is grouping the whole. -/
theorem grouped_append (first second : List (String × List Declaration)) :
    grouped (grouped first ++ grouped second) = grouped (first ++ second) := by
  have keys : ((grouped first ++ grouped second).map Prod.fst).eraseDups =
      ((first ++ second).map Prod.fst).eraseDups := by
    rw [List.map_append, map_fst_grouped, map_fst_grouped, eraseDups_append_eraseDups,
      List.map_append]
  have contents : declarationsOf (grouped first ++ grouped second) =
      declarationsOf (first ++ second) := by
    funext selector
    rw [declarationsOf_append, declarationsOf_grouped, declarationsOf_grouped, declarationsOf_append]
  rw [grouped, grouped.eq_def (first ++ second), keys, contents]

/-- There is nothing to group exactly if there are no entries. -/
theorem grouped_eq_nil_iff {entries : List (String × List Declaration)} :
    grouped entries = [] ↔ entries = [] := by
  constructor
  · intro none
    cases entries with
    | nil => rfl
    | cons entry entries =>
      have first : entry.1 ∈ (grouped (entry :: entries)).map Prod.fst :=
        mem_map_fst_grouped.2 List.mem_cons_self
      rw [none] at first
      cases first
  · rintro rfl
    rfl

/-! ### Related entries -/

/-- A member of a list is related to a member of a related one. -/
theorem exists_mem_of_forall₂ {α β : Type} {R : α → β → Prop} {items : List α} {others : List β}
    (related : List.Forall₂ R items others) {item : α} (mem : item ∈ items) :
    ∃ other ∈ others, R item other := by
  induction related with
  | nil => cases mem
  | cons here _ ih =>
    rcases List.mem_cons.1 mem with rfl | mem
    · exact ⟨_, List.mem_cons_self, here⟩
    · obtain ⟨other, inside, there⟩ := ih mem
      exact ⟨other, List.mem_cons_of_mem _ inside, there⟩

/-- Entries agree in their selectors, and their declarations are related one by one. -/
def Related (R : String → Declaration → Declaration → Prop)
    (first second : List (String × List Declaration)) : Prop :=
  List.Forall₂ (fun entry other => other.1 = entry.1 ∧ List.Forall₂ (R entry.1) entry.2 other.2)
    first second

namespace Related

variable {R : String → Declaration → Declaration → Prop}
  {first second : List (String × List Declaration)}

/-- Related entries have the same selectors. -/
theorem map_fst_eq (related : Related R first second) :
    second.map Prod.fst = first.map Prod.fst := by
  unfold Related at related
  induction related with
  | nil => rfl
  | cons entry _ ih => rw [List.map_cons, List.map_cons, ih, entry.1]

/-- Related entries are missing together. -/
theorem eq_nil_iff (related : Related R first second) : second = [] ↔ first = [] := by
  unfold Related at related
  cases related with
  | nil => exact Iff.rfl
  | cons _ _ => simp

/-- What related entries list under a selector is related. -/
theorem declarationsOf (related : Related R first second) (selector : String) :
    List.Forall₂ (R selector) (declarationsOf first selector) (declarationsOf second selector) := by
  unfold Related at related
  induction related with
  | nil => exact .nil
  | @cons entry other entries others here _ ih =>
    rw [declarationsOf_cons, declarationsOf_cons, here.1]
    refine List.rel_append ?_ ih
    split
    · rename_i same
      subst same
      exact here.2
    · exact .nil

/-- Related entries are related when they are grouped. -/
theorem grouped (related : Related R first second) :
    Related R (grouped first) (grouped second) := by
  unfold Related Document.grouped
  rw [related.map_fst_eq, List.forall₂_map_left_iff, List.forall₂_map_right_iff, List.forall₂_same]
  intro selector _
  exact ⟨rfl, related.declarationsOf selector⟩

end Related

/-! ### Interleavings -/

/-- A list is made of the members of two others, which keep their order. -/
inductive Interleaves {α : Type} : List α → List α → List α → Prop
  /-- Nothing is made of nothing. -/
  | nil : Interleaves [] [] []
  /-- The next member is one of the first list. -/
  | left {item : α} {first second result : List α} (rest : Interleaves first second result) :
      Interleaves (item :: first) second (item :: result)
  /-- The next member is one of the second list. -/
  | right {item : α} {first second result : List α} (rest : Interleaves first second result) :
      Interleaves first (item :: second) (item :: result)

namespace Interleaves

variable {α : Type} {first second result first' second' result' : List α}

/-- A list interleaves itself with nothing. -/
theorem of_left (items : List α) : Interleaves items [] items := by
  induction items with
  | nil => exact .nil
  | cons item items ih => exact .left ih

/-- A list interleaves nothing with itself. -/
theorem of_right (items : List α) : Interleaves [] items items := by
  induction items with
  | nil => exact .nil
  | cons item items ih => exact .right ih

/-- Interleavings one behind the other. -/
theorem append (front : Interleaves first second result) (back : Interleaves first' second' result') :
    Interleaves (first ++ first') (second ++ second') (result ++ result') := by
  induction front with
  | nil => exact back
  | left _ ih => exact .left ih
  | right _ ih => exact .right ih

/-- A list behind another one is an interleaving of the two. -/
theorem of_append (first second : List α) : Interleaves first second (first ++ second) := by
  have both := (of_left first).append (of_right second)
  rwa [List.append_nil, List.nil_append] at both

end Interleaves

end ViewportScaling.Document
