import Mathlib.Data.List.Perm.Subperm
import Mathlib.Logic.Equiv.Basic
import Propositional.Proofs.Dependence
import Propositional.Proofs.Listing
import Propositional.Proofs.Substitution
import Propositional.Proofs.Verdicts

set_option autoImplicit false

/-!
# Other names for the variables

Under other names the variables may be in another order, and then another bit of a row's number
is the value of each, so that the rows come in another order as well.  As long as no two names
become one, they are still the same rows: those of the one table, with their inputs in the order
that the new names are in, are those of the other.
-/

namespace Propositional

/-! ## Lists in another order -/

/-- The items at these places, in the order in which the places are given. -/
def rearrange {α : Type} [Inhabited α] (order : List Nat) (list : List α) : List α :=
  order.map fun j => list.getD j default

section

variable {α : Type} [Inhabited α] {order : List Nat}

theorem length_rearrange (list : List α) : (rearrange order list).length = order.length :=
  List.length_map _

/-- Each place once and in its turn gives the list as it was. -/
theorem rearrange_range (list : List α) : rearrange (List.range list.length) list = list := by
  refine List.ext_getElem ?_ ?_
  · rw [length_rearrange, List.length_range]
  · intro j _ inside
    simp only [rearrange, List.getElem_map, List.getElem_range]
    exact List.getD_eq_getElem list default inside

/-- With each place given once, the items are the same. -/
theorem rearrange_perm {list : List α} (places : order.Perm (List.range list.length)) :
    (rearrange order list).Perm list := by
  have inOrder := places.map fun j => list.getD j default
  rw [← rearrange, ← rearrange, rearrange_range] at inOrder
  exact inOrder

/-- A list of the same distinct items is a rearrangement. -/
theorem exists_rearrange_eq [DecidableEq α] {list other : List α} (distinct : list.Nodup)
    (same : other.Perm list) :
    ∃ order : List Nat, order.Perm (List.range list.length) ∧ other = rearrange order list := by
  refine ⟨other.map list.idxOf, ?_, ?_⟩
  · have places : list.map list.idxOf = List.range list.length := by
      refine List.ext_getElem ?_ ?_
      · rw [List.length_map, List.length_range]
      · intro j _ inside
        rw [List.length_range] at inside
        rw [List.getElem_map, List.getElem_range, distinct.idxOf_getElem]
    rw [← places]
    exact same.map list.idxOf
  · rw [rearrange, List.map_map]
    refine (List.map_id'' (fun x => rfl) other).symm.trans (List.map_congr_left fun x among => ?_)
    have inside : list.idxOf x < list.length := List.idxOf_lt_length_iff.2 (same.mem_iff.1 among)
    rw [Function.comp_apply, List.getD_eq_getElem list default inside, List.getElem_idxOf]

/-- No two lists have the same rearrangement. -/
theorem eq_of_rearrange_eq {list other : List α} (length : list.length = other.length)
    (places : order.Perm (List.range list.length))
    (same : rearrange order list = rearrange order other) : list = other := by
  refine List.ext_getElem length ?_
  intro j inside insideOther
  have among : j ∈ order := places.mem_iff.2 (List.mem_range.2 inside)
  have items : list.getD j default = other.getD j default := List.map_inj_left.1 same j among
  rw [List.getD_eq_getElem list default inside, List.getD_eq_getElem other default insideOther]
    at items
  exact items

end

/-- Rearranging all lists of truth values gives all of them again. -/
theorem map_rearrange_allValues {n : Nat} {order : List Nat} (places : order.Perm (List.range n)) :
    ((allValues n).map (rearrange order)).Perm (allValues n) := by
  have distinct : ((allValues n).map (rearrange order)).Nodup := by
    refine List.Nodup.map_on ?_ (nodup_allValues n)
    intro values hv others ho same
    obtain rfl := mem_allValues.1 hv
    exact eq_of_rearrange_eq (mem_allValues.1 ho).symm places same
  have among : (allValues n).map (rearrange order) ⊆ allValues n := by
    intro values hv
    obtain ⟨before, _, rfl⟩ := List.mem_map.1 hv
    rw [mem_allValues, length_rearrange, places.length_eq, List.length_range]
  refine (List.subperm_of_subset distinct among).perm_of_length_le ?_
  rw [List.length_map]

/-- Names and values that are rearranged alike belong together as before. -/
theorem valueIn_rearrange {names : List String} {order : List Nat} (distinct : names.Nodup)
    (places : order.Perm (List.range names.length)) {name : String} (listed : name ∈ names)
    (values : List Bool) :
    valueIn (rearrange order names) (rearrange order values) name = valueIn names values name := by
  obtain ⟨j, inside, rfl⟩ := List.mem_iff_getElem.1 listed
  obtain ⟨k, within, rfl⟩ := List.mem_iff_getElem.1 (places.mem_iff.2 (List.mem_range.2 inside))
  have length : k < (rearrange order names).length := by rwa [length_rearrange]
  have here : (rearrange order names)[k] = names[order[k]] := by
    simp only [rearrange, List.getElem_map]
    exact List.getD_eq_getElem names default inside
  have value : (rearrange order values).getD k false = values.getD order[k] false := by
    have lengthValues : k < (rearrange order values).length := by rwa [length_rearrange]
    rw [List.getD_eq_getElem _ false lengthValues]
    exact List.getElem_map _
  rw [valueIn_getElem distinct, ← here,
    valueIn_getElem ((rearrange_perm places).nodup_iff.2 distinct) length, value]

/-- Other names for the same columns give them the same values. -/
theorem valueIn_map {names : List String} {g : String → String} (distinct : (names.map g).Nodup)
    {name : String} (listed : name ∈ names) (values : List Bool) :
    valueIn (names.map g) values (g name) = valueIn names values name := by
  obtain ⟨j, inside, rfl⟩ := List.mem_iff_getElem.1 listed
  have length : j < (names.map g).length := by rwa [List.length_map]
  have here : (names.map g)[j] = g names[j] := List.getElem_map g
  rw [← here, valueIn_getElem distinct length, valueIn_getElem distinct.of_map]

/-- The row with its inputs rearranged. -/
def Row.rearranged (order : List Nat) (row : Row) : Row := ⟨rearrange order row.inputs, row.result⟩

namespace Formula

variable {f : Formula} {g : String → String}

/-- The formula with other names at its leaves. -/
def rename (g : String → String) (f : Formula) : Formula := f.bind fun name => .var (g name)

theorem leaves_rename (g : String → String) (f : Formula) :
    (f.rename g).leaves = f.leaves.map g := by
  rw [rename, leaves_bind, List.map_eq_flatMap]
  rfl

theorem eval_rename (g : String → String) (f : Formula) (valuation : String → Bool) :
    (f.rename g).eval valuation = f.eval fun name => valuation (g name) :=
  eval_bind _ valuation f

/-! ## Columns -/

/-- As long as no two names become one, the columns are those of the new names. -/
theorem names_rename_perm (distinct : (f.names.map g).Nodup) :
    (f.rename g).names.Perm (f.names.map g) := by
  refine (List.perm_ext_iff_of_nodup (nodup_names _) distinct).2 fun y => ?_
  rw [mem_names, leaves_rename, List.mem_map, List.mem_map]
  simp only [mem_names]

/-- New names in the order of the old ones are in the right order. -/
theorem names_rename_of_rising (rising : ∀ x ∈ f.names, ∀ y ∈ f.names, x < y → g x < g y) :
    (f.rename g).names = f.names.map g := by
  refine names_eq_of_pairwise ?_ fun y => ?_
  · refine List.pairwise_map.2 ((pairwise_names f).imp_of_mem ?_)
    intro x y hx hy less
    exact rising x hx y hy less
  · rw [leaves_rename, List.mem_map, List.mem_map]
    simp only [mem_names]

/-! ## Rows -/

/-- A row under the new names is one under the old names, with its inputs in the order of the
new columns. -/
theorem rowAt_rename {order : List Nat} (distinct : (f.names.map g).Nodup)
    (places : order.Perm (List.range f.names.length))
    (columns : (f.rename g).names = rearrange order (f.names.map g)) (values : List Bool) :
    (f.rename g).rowAt (rearrange order values) = (f.rowAt values).rearranged order := by
  have placesNew : order.Perm (List.range (f.names.map g).length) := by rwa [List.length_map]
  unfold rowAt Row.rearranged
  rw [Row.mk.injEq, eval_rename, columns]
  refine ⟨rfl, eval_congr ?_⟩
  intro x among
  have listed : x ∈ f.names := mem_names.2 among
  rw [valueIn_rearrange distinct placesNew (List.mem_map_of_mem listed),
    valueIn_map distinct listed]

/-- Where the new names are in the order of the old ones, nothing changes in the rows. -/
theorem rows_rename_of_rising (rising : ∀ x ∈ f.names, ∀ y ∈ f.names, x < y → g x < g y) :
    (f.rename g).rows = f.rows := by
  have names := names_rename_of_rising rising
  have distinct : (f.names.map g).Nodup := by
    rw [← names]
    exact nodup_names _
  have length : (f.rename g).names.length = f.names.length := by rw [names, List.length_map]
  have columns : (f.rename g).names =
      rearrange (List.range f.names.length) (f.names.map g) := by
    rw [names, ← List.length_map (f := g), rearrange_range]
  unfold rows
  simp only [row_ofIndex_eq_rowAt, length]
  congr 1
  funext index
  have inOrder : rearrange (List.range f.names.length) (bits f.names.length index.toNat) =
      bits f.names.length index.toNat := by
    have whole := rearrange_range (bits f.names.length index.toNat)
    rwa [length_bits] at whole
  have row := rowAt_rename distinct (.refl _) columns (bits f.names.length index.toNat)
  rw [inOrder] at row
  rw [row, Row.rearranged]
  exact congrArg (Row.mk · _) inOrder

/-- The rows of a narrow table under other names are the same, with their inputs in the order of
the new columns, and come in another order. -/
theorem toList_rows_rename_perm {order : List Nat} (narrow : f.names.length < 64)
    (distinct : (f.names.map g).Nodup) (places : order.Perm (List.range f.names.length))
    (columns : (f.rename g).names = rearrange order (f.names.map g)) :
    (f.rename g).rows.toList.Perm (f.rows.toList.map (Row.rearranged order)) := by
  have length : (f.rename g).names.length = f.names.length := by
    rw [columns, length_rearrange, places.length_eq, List.length_range]
  have rows : f.rows.toList.map (Row.rearranged order) =
      ((allValues f.names.length).map (rearrange order)).map (f.rename g).rowAt := by
    rw [toList_rows narrow, List.map_map, List.map_map]
    refine List.map_congr_left fun values _ => ?_
    exact (rowAt_rename distinct places columns values).symm
  rw [rows, toList_rows (by rwa [length]), length]
  exact ((map_rearrange_allValues places).map _).symm

/-- Under other names, no two of them the same, a formula has the same rows if the new names are
in the order of the old ones, however many there are.  In any other order a table of at most 63
names keeps its verdict, and its rows are those from before: each has its inputs moved to the
places to which sorting moves the new names, and its result as it was. -/
theorem rows_rename (f : Formula) (g : String → String) (injective : Function.Injective g) :
    ((∀ x ∈ f.names, ∀ y ∈ f.names,
        Text.bytes x < Text.bytes y → Text.bytes (g x) < Text.bytes (g y)) →
      (f.rename g).rows = f.rows) ∧
    (f.names.length ≤ 63 →
      (f.rename g).verdict = f.verdict ∧
      ∃ order : List Nat, order.Perm (List.range f.names.length) ∧
        (f.rename g).names = rearrange order (f.names.map g) ∧
        ∃ before after : List Row, f.rows.Yields before ∧ (f.rename g).rows.Yields after ∧
          after.Perm (before.map (Row.rearranged order))) := by
  have distinct : (f.names.map g).Nodup := (nodup_names f).map injective
  constructor
  · intro rising
    simp only [Text.bytes_lt_bytes_iff] at rising
    exact rows_rename_of_rising rising
  · intro narrow
    obtain ⟨order, places, columns⟩ := exists_rearrange_eq distinct (names_rename_perm distinct)
    rw [List.length_map] at places
    have perm := toList_rows_rename_perm (Nat.lt_succ_of_le narrow) distinct places columns
    refine ⟨?_, order, places, columns, _, _, f.rows.yields_toList, Enumeration.yields_toList _,
      perm⟩
    refine verdict_eq_of_mem_results fun b => ?_
    have results := perm.map Row.result
    rw [List.map_map] at results
    exact results.mem_iff

/-- With the same letter put before both names, the rows of an implication are the same ones in the
same order; with its names exchanged, the columns are, and the rows come in another order. -/
theorem rows_rename_imply :
    Function.Injective (fun name : String => "x" ++ name) ∧
      ((binary .imply (.var "p") (.var "q")).rename fun name => "x" ++ name).rows =
        (binary .imply (.var "p") (.var "q")).rows ∧
      Function.Injective (Equiv.swap "p" "q") ∧
      (binary .imply (.var "p") (.var "q")).names.length ≤ 63 ∧
      ∃ order : List Nat, order.Perm (List.range 2) ∧
        ((binary .imply (.var "p") (.var "q")).rename (Equiv.swap "p" "q")).names =
          rearrange order ["q", "p"] ∧
        ∃ before after : List Row, (binary .imply (.var "p") (.var "q")).rows.Yields before ∧
          ((binary .imply (.var "p") (.var "q")).rename (Equiv.swap "p" "q")).rows.Yields after ∧
          after.Perm (before.map (Row.rearranged order)) := by
  have lengthen : Function.Injective fun name : String => "x" ++ name :=
    fun x y same => (String.append_right_inj "x").1 same
  have exchange : Function.Injective (Equiv.swap "p" "q") := (Equiv.swap "p" "q").injective
  have rising : ∀ x ∈ (binary .imply (.var "p") (.var "q")).names,
      ∀ y ∈ (binary .imply (.var "p") (.var "q")).names,
      Text.bytes x < Text.bytes y → Text.bytes ("x" ++ x) < Text.bytes ("x" ++ y) := by
    simp only [Text.bytes_lt_bytes_iff]
    decide
  have narrow : (binary .imply (.var "p") (.var "q")).names.length ≤ 63 := by decide
  obtain ⟨_, moved⟩ := (rows_rename _ (Equiv.swap "p" "q") exchange).2 narrow
  exact ⟨lengthen, (rows_rename _ _ lengthen).1 rising, exchange, narrow, moved⟩

end Formula

end Propositional
