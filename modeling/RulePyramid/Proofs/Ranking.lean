import Mathlib.Order.Bounds.Defs
import RulePyramid.Proofs.Order

/-!
The order of a ranking. Sorting is stable, so the entries of a list stand by display order and then
by position (`ascending_entries`). Of those with one name the first gives the name its rank
(`leaders`), and its standing is the least one of the name (`isLeast_standing`). So the names with a
rank are those of the entries (`mem_names_ofGroups`), ranks and names determine each other
(`ordinal?_eq_some_iff`), and of two names the one with the lesser least standing has the lower rank
(`ordinal?_lt_iff`). In particular a name that some entry puts before all entries of another one has
the lower rank (`Precedes.ordinal?_lt`).
-/

namespace RulePyramid
namespace Ranking

variable {groups : List Group} {a b name : String} {ordinal i j : Nat} {r : Ranking}

/-! ## Ranks and names -/

theorem isSome_ordinal?_iff : (r.ordinal? name).isSome ↔ name ∈ r.names := by
  rw [ordinal?, Option.isSome_map, List.isSome_idxOf?]

theorem mem_names_ofGroups :
    name ∈ (ofGroups groups).names ↔ ∃ g ∈ groups, g.normalizedName = name := by
  rw [ofGroups, List.mem_eraseDups, List.mem_map]
  simp only [List.mem_mergeSort]

theorem nodup_names_ofGroups (groups : List Group) : (ofGroups groups).names.Nodup :=
  nodup_eraseDups _

theorem groupAt?_eq_some_iff :
    r.groupAt? ordinal = some name ↔ ∃ i, i + 1 = ordinal ∧ r.names[i]? = some name := by
  cases ordinal with
  | zero => simp [groupAt?]
  | succ i => simp [groupAt?]

/-- No name comes twice, so the name in a place is first found there. -/
theorem ordinal?_eq_some_iff (hnames : r.names.Nodup) :
    r.ordinal? name = some ordinal ↔ r.groupAt? ordinal = some name := by
  rw [groupAt?_eq_some_iff, ordinal?, Option.map_eq_some_iff]
  refine exists_congr fun i => and_comm.trans (and_congr_right fun _ => ?_)
  rw [List.idxOf?_eq_some_iff, List.getElem?_eq_some_iff]
  refine exists_congr fun hi => and_iff_left_of_imp fun hname j hj hsame => hj.ne ?_
  exact (hnames.getElem_inj_iff).mp (hsame.trans hname.symm)

theorem mem_toList : (name, ordinal) ∈ r.toList ↔ r.groupAt? ordinal = some name := by
  rw [toList, List.mem_zipIdx_iff_le_and_getElem?_sub, groupAt?_eq_some_iff]
  constructor
  · rintro ⟨hle, hname⟩
    exact ⟨ordinal - 1, Nat.sub_add_cancel hle, hname⟩
  · rintro ⟨i, rfl, hname⟩
    exact ⟨Nat.le_add_left 1 i, hname⟩

/-! ## Leading entries -/

/-- Where an entry with its position stands among all: by display order, then by position. -/
def standing (entry : Group × Nat) : Int ×ₗ Nat := toLex (entry.1.displayOrder, entry.2)

/-- The standings of the entries with a name. -/
def standings (groups : List Group) (name : String) : Set (Int ×ₗ Nat) :=
  {s | ∃ g i, groups[i]? = some g ∧ g.normalizedName = name ∧ s = toLex (g.displayOrder, i)}

/-- The entries with their positions in the order of their standings. -/
def entries (groups : List Group) : List (Group × Nat) :=
  groups.zipIdx.mergeSort (List.zipIdxLE (·.displayOrder ≤ ·.displayOrder))

/-- The entries that give the names their ranks: those that are the first ones with their name. -/
def leaders (groups : List Group) : List (Group × Nat) :=
  (entries groups).eraseDupsBy fun later earlier =>
    later.1.normalizedName == earlier.1.normalizedName

variable {entry : Group × Nat}

theorem mem_entries : entry ∈ entries groups ↔ groups[entry.2]? = some entry.1 := by
  rw [entries, List.mem_mergeSort, List.mem_zipIdx_iff_getElem?]

theorem mem_standings {s : Int ×ₗ Nat} : s ∈ standings groups name ↔
    ∃ entry ∈ entries groups, entry.1.normalizedName = name ∧ standing entry = s := by
  simp only [standings, Set.mem_ofPred_eq, Prod.exists, mem_entries, standing, @eq_comm _ s]

theorem ascending_entries (groups : List Group) : Ascending standing (entries groups) :=
  ascending_mergeSort_zipIdx Group.displayOrder groups

theorem ascending_leaders (groups : List Group) : Ascending standing (leaders groups) :=
  (ascending_entries groups).sublist (sublist_eraseDupsBy _)

theorem names_ofGroups (groups : List Group) :
    (ofGroups groups).names = (leaders groups).map (·.1.normalizedName) := by
  have hsorted : (entries groups).map (·.1) = groups.mergeSort (·.displayOrder ≤ ·.displayOrder) :=
    List.mergeSort_zipIdx
  rw [leaders, ← eraseDups_map, ofGroups, ← hsorted, List.map_map, Function.comp_def]

/-- No entry with its name stands before a leading one. -/
theorem isLeast_standing (h : entry ∈ leaders groups) :
    IsLeast (standings groups entry.1.normalizedName) (standing entry) := by
  have hfind := (mem_eraseDupsBy_key _).mp h
  refine ⟨mem_standings.mpr ⟨entry, List.mem_of_find?_eq_some hfind, rfl, rfl⟩, ?_⟩
  intro s hs
  obtain ⟨other, hother, hname, rfl⟩ := mem_standings.mp hs
  exact le_of_find?_eq_some ((ascending_entries groups).imp le_of_lt) hfind hother
    (decide_eq_true hname)

/-- A name with a rank has a leading entry in that place. -/
theorem exists_leader_of_ordinal?_eq_some (h : (ofGroups groups).ordinal? name = some ordinal) :
    ∃ (i : Nat) (hi : i < (leaders groups).length), i + 1 = ordinal ∧
      (leaders groups)[i].1.normalizedName = name := by
  obtain ⟨i, hi, hordinal⟩ := Option.map_eq_some_iff.mp h
  obtain ⟨hlt, hname, -⟩ := List.idxOf?_eq_some_iff.mp hi
  simp only [names_ofGroups, List.length_map, List.getElem_map] at hlt hname
  exact ⟨i, hlt, hordinal, hname⟩

/-! ## The order of the ranks -/

/-- Ranks are in the order of the least standings. -/
theorem ordinal?_lt_iff (ha : (ofGroups groups).ordinal? a = some i)
    (hb : (ofGroups groups).ordinal? b = some j) :
    ∃ s t, IsLeast (standings groups a) s ∧ IsLeast (standings groups b) t ∧ (i < j ↔ s < t) := by
  obtain ⟨k, hk, rfl, rfl⟩ := exists_leader_of_ordinal?_eq_some ha
  obtain ⟨l, hl, rfl, rfl⟩ := exists_leader_of_ordinal?_eq_some hb
  refine ⟨_, _, isLeast_standing (List.getElem_mem hk), isLeast_standing (List.getElem_mem hl), ?_⟩
  rw [(ascending_leaders groups).key_lt_key_iff hk hl, Nat.add_lt_add_iff_right]

/-- Some entry with the name `a` comes before all entries with the name `b`, of which there is
one. Where names are listed once this is the order of their display orders. -/
structure Precedes (groups : List Group) (a b : String) : Prop where
  exists_lt : ∃ g ∈ groups, g.normalizedName = a ∧
    ∀ h ∈ groups, h.normalizedName = b → g.displayOrder < h.displayOrder
  exists_entry : ∃ h ∈ groups, h.normalizedName = b

theorem Precedes.ordinal?_lt (H : Precedes groups a b) :
    ∃ i j, (ofGroups groups).ordinal? a = some i ∧ (ofGroups groups).ordinal? b = some j ∧
      i < j := by
  obtain ⟨g, hg, hga, hlt⟩ := H.exists_lt
  obtain ⟨i, hi⟩ := Option.isSome_iff_exists.mp
    (isSome_ordinal?_iff.mpr (mem_names_ofGroups.mpr ⟨g, hg, hga⟩))
  obtain ⟨j, hj⟩ := Option.isSome_iff_exists.mp
    (isSome_ordinal?_iff.mpr (mem_names_ofGroups.mpr H.exists_entry))
  obtain ⟨s, t, hs, ht, hiff⟩ := ordinal?_lt_iff hi hj
  refine ⟨i, j, hi, hj, hiff.mpr ?_⟩
  obtain ⟨k, hk⟩ := List.mem_iff_getElem?.mp hg
  obtain ⟨h, l, hl, hhb, rfl⟩ := ht.1
  calc s ≤ toLex (g.displayOrder, k) := hs.2 ⟨g, k, hk, hga, rfl⟩
    _ < toLex (h.displayOrder, l) :=
      Prod.Lex.toLex_lt_toLex.mpr (.inl (hlt h (List.mem_of_getElem? hl) hhb))

/-! ## The table -/

/-- A ranking is the table of the ranks that some groups have. -/
structure Tabulates (r : Ranking) (groups : List Group) : Prop where
  /-- The names with a rank are those of the entries. -/
  isSome_ordinal? : ∀ name, (r.ordinal? name).isSome ↔ ∃ g ∈ groups, g.normalizedName = name
  /-- The ranks are counted from one and leave out none. -/
  exists_ordinal? : ∀ ordinal, (∃ name, r.ordinal? name = some ordinal) ↔
    1 ≤ ordinal ∧ ordinal ≤ r.size
  /-- Names and ranks lead to each other. -/
  groupAt? : ∀ name ordinal, r.ordinal? name = some ordinal ↔ r.groupAt? ordinal = some name
  mem_toList : ∀ name ordinal, (name, ordinal) ∈ r.toList ↔ r.ordinal? name = some ordinal
  /-- The names are listed by rank, and each is listed once. -/
  toList_ascending : Ascending Prod.snd r.toList
  /-- The lesser the display order of the first entry with a name, the lower is its rank; of two
  that are equal the one that is listed first counts. -/
  lt_iff : ∀ a b i j, r.ordinal? a = some i → r.ordinal? b = some j →
    ∃ s t, IsLeast (standings groups a) s ∧ IsLeast (standings groups b) t ∧ (i < j ↔ s < t)

theorem exists_groupAt?_iff :
    (∃ name, r.groupAt? ordinal = some name) ↔ 1 ≤ ordinal ∧ ordinal ≤ r.size := by
  cases ordinal with
  | zero => simp [groupAt?]
  | succ i =>
    have hsome : (∃ name, r.names[i]? = some name) ↔ i < r.names.length := by
      simp [List.getElem?_eq_some_iff]
    rw [groupAt?, hsome, size]
    omega

theorem ascending_toList (r : Ranking) : Ascending Prod.snd r.toList := by
  rw [Ascending, ← List.pairwise_map, toList, List.zipIdx_map_snd]
  exact List.pairwise_lt_range'

/-- **A ranking is a table of names and ranks in the order of the groups.** -/
theorem tabulates_ofGroups (groups : List Group) : (ofGroups groups).Tabulates groups where
  isSome_ordinal? _ := isSome_ordinal?_iff.trans mem_names_ofGroups
  exists_ordinal? ordinal := by
    simp only [ordinal?_eq_some_iff (nodup_names_ofGroups groups)]
    exact exists_groupAt?_iff
  groupAt? _ _ := ordinal?_eq_some_iff (nodup_names_ofGroups groups)
  mem_toList _ _ := mem_toList.trans (ordinal?_eq_some_iff (nodup_names_ofGroups groups)).symm
  toList_ascending := ascending_toList _
  lt_iff _ _ _ _ := ordinal?_lt_iff

end Ranking
end RulePyramid
