import Propositional.Proofs.Iteration
import Propositional.Session.Walk
import Propositional.Table.Basic

set_option autoImplicit false

/-!
# Walks as marks on a row of items

To go through an enumeration by requests is to move a mark along a row of items.  Whatever was
asked before, all that counts is the place of the mark and the place that was kept.  The mark
moves over natural numbers; that the numbers of a cursor have 64 bits is never noticed, since
the mark does not go past the limit.
-/

namespace Propositional

/-! ## Requests and answers -/

namespace Found

variable {α β : Type}

/-- The answer with what `g` makes of each item. -/
def map (g : α → β) : Found α → Found β
  | .items list => .items (list.map g)
  | .item x? => .item (x?.map g)
  | .remaining count => .remaining count
  | .done => .done

/-- The items that an answer hands out. -/
def handed : Found α → List α
  | .items list => list
  | .item x? => x?.toList
  | .remaining _ | .done => []

/-- The request was for more items than the answer has. -/
def FallsShort : Found α → Move → Prop
  | .items list, .next count => list.length < count
  | .item x?, .skip _ => x? = none
  | _, _ => False

theorem handed_map (g : α → β) (found : Found α) : (found.map g).handed = found.handed.map g := by
  cases found with
  | items list => rfl
  | item x? => cases x? <;> rfl
  | remaining count => rfl
  | done => rfl

theorem fallsShort_map_iff {g : α → β} {found : Found α} {move : Move} :
    (found.map g).FallsShort move ↔ found.FallsShort move := by
  cases found <;> cases move <;> simp [map, FallsShort]

end Found

namespace Move

variable {σ α β : Type} {move? : σ → Move → Option (Found α × σ)}

/-- The answers to requests that are made one after the other, and where they lead.  A request
that is refused changes nothing. -/
def run (move? : σ → Move → Option (Found α × σ)) :
    σ → List Move → List (Option (Found α)) × σ
  | s, [] => ([], s)
  | s, move :: rest =>
    match move? s move with
    | none => (none :: (run move? s rest).1, (run move? s rest).2)
    | some (found, after) => (some found :: (run move? after rest).1, (run move? after rest).2)

/-- All items that are handed out, in order. -/
def handed (answers : List (Option (Found α))) : List α :=
  answers.flatMap fun answer => (answer.map Found.handed).getD []

theorem handed_map (g : α → β) (answers : List (Option (Found α))) :
    handed (answers.map (Option.map (Found.map g))) = (handed answers).map g := by
  induction answers with
  | nil => rfl
  | cons answer rest ih =>
    unfold handed at ih ⊢
    rw [List.map_cons, List.flatMap_cons, List.flatMap_cons, List.map_append, ih]
    cases answer with
    | none => rfl
    | some found => exact congrArg (· ++ _) (Found.handed_map g found)

/-- Requests are answered in two goes as they are in one. -/
theorem run_append (front back : List Move) : ∀ s : σ,
    run move? s (front ++ back) =
      ((run move? s front).1 ++ (run move? (run move? s front).2 back).1,
        (run move? (run move? s front).2 back).2) := by
  induction front with
  | nil =>
    intro s
    rfl
  | cons move rest ih =>
    intro s
    cases answer : move? s move with
    | none => simp only [List.cons_append, run, answer, ih]
    | some pair => simp only [List.cons_append, run, answer, ih]

end Move

/-! ## Marks -/

/-- A place in a row of items, counted from zero, and the place that was kept. -/
structure Mark where
  place : Nat
  kept : Option Nat
  deriving DecidableEq, Repr

namespace Mark

/-- Before the first item, with no place kept. -/
def start : Mark := ⟨0, none⟩

/-- What a request does among `limit` items.  Items are answered by their places. -/
def move? (limit : Nat) (m : Mark) : Move → Option (Found Nat × Mark)
  | .next count =>
    some (.items (List.range' m.place (min count (limit - m.place))),
      { m with place := min (m.place + count) limit })
  | .skip count =>
    if m.place + count < limit then
      some (.item (some (m.place + count)), { m with place := m.place + count + 1 })
    else some (.item none, { m with place := limit })
  | .count => some (.remaining (limit - m.place), m)
  | .save => some (.done, { m with kept := some m.place })
  | .restore => m.kept.map fun place => (.done, { m with place := place })

/-- What a request that is met can do: the answer, and where the mark stands afterwards. -/
inductive Moves (limit : Nat) (m : Mark) : Move → Found Nat → Mark → Prop where
  | next (count : Nat) :
      Moves limit m (.next count) (.items (List.range' m.place (min count (limit - m.place))))
        { m with place := min (m.place + count) limit }
  | skip {count : Nat} (inside : m.place + count < limit) :
      Moves limit m (.skip count) (.item (some (m.place + count)))
        { m with place := m.place + count + 1 }
  | past {count : Nat} (outside : limit ≤ m.place + count) :
      Moves limit m (.skip count) (.item none) { m with place := limit }
  | count : Moves limit m .count (.remaining (limit - m.place)) m
  | save : Moves limit m .save .done { m with kept := some m.place }
  | restore {place : Nat} (kept : m.kept = some place) :
      Moves limit m .restore .done { m with place := place }

/-- No place lies past the limit. -/
structure Within (limit : Nat) (m : Mark) : Prop where
  place_le : m.place ≤ limit
  kept_le : ∀ place, m.kept = some place → place ≤ limit

variable {limit : Nat} {m after : Mark} {move : Move} {moves : List Move} {found : Found Nat}

theorem moves_of_move? (h : m.move? limit move = some (found, after)) :
    Moves limit m move found after := by
  cases move with
  | next count =>
    obtain ⟨rfl, rfl⟩ := Prod.mk.inj (Option.some.inj h)
    exact .next count
  | skip count =>
    simp only [move?] at h
    split at h
    · rename_i inside
      obtain ⟨rfl, rfl⟩ := Prod.mk.inj (Option.some.inj h)
      exact .skip inside
    · rename_i outside
      obtain ⟨rfl, rfl⟩ := Prod.mk.inj (Option.some.inj h)
      exact .past (Nat.le_of_not_lt outside)
  | count =>
    obtain ⟨rfl, rfl⟩ := Prod.mk.inj (Option.some.inj h)
    exact .count
  | save =>
    obtain ⟨rfl, rfl⟩ := Prod.mk.inj (Option.some.inj h)
    exact .save
  | restore =>
    obtain ⟨place, kept, same⟩ := Option.map_eq_some_iff.1 h
    obtain ⟨rfl, rfl⟩ := Prod.mk.inj same
    exact .restore kept

theorem within_start (limit : Nat) : Within limit start where
  place_le := Nat.zero_le limit
  kept_le := by
    intro place none
    cases none

/-- No request leads past the limit. -/
theorem Moves.within (h : Moves limit m move found after) (within : Within limit m) :
    Within limit after := by
  cases h with
  | next count => exact ⟨Nat.min_le_right _ _, within.kept_le⟩
  | skip inside => exact ⟨inside, within.kept_le⟩
  | past outside => exact ⟨Nat.le_refl _, within.kept_le⟩
  | count => exact within
  | save =>
    refine ⟨within.place_le, ?_⟩
    rintro place same
    obtain rfl := Option.some.inj same
    exact within.place_le
  | restore kept => exact ⟨within.kept_le _ kept, within.kept_le⟩

/-- Without a return, a request hands out rising places between the mark and where it goes. -/
theorem Moves.places (h : Moves limit m move found after) (within : Within limit m)
    (onward : move ≠ .restore) :
    m.place ≤ after.place ∧ found.handed.Pairwise (· < ·) ∧
      ∀ i ∈ found.handed, m.place ≤ i ∧ i < after.place := by
  have bound := within.place_le
  cases h with
  | next count =>
    refine ⟨Nat.le_min.2 ⟨Nat.le_add_right _ _, bound⟩, List.pairwise_lt_range', ?_⟩
    intro i among
    have inside := List.mem_range'_1.1 among
    simp only
    omega
  | skip inside =>
    refine ⟨Nat.le_succ_of_le (Nat.le_add_right _ _), List.pairwise_singleton _ _, ?_⟩
    intro i among
    obtain rfl := List.mem_singleton.1 among
    exact ⟨Nat.le_add_right _ _, Nat.lt_succ_self _⟩
  | past outside => exact ⟨bound, .nil, fun i among => nomatch among⟩
  | count => exact ⟨Nat.le_refl _, .nil, fun i among => nomatch among⟩
  | save => exact ⟨Nat.le_refl _, .nil, fun i among => nomatch among⟩
  | restore kept => exact absurd rfl onward

/-- A request that is answered with fewer items than it asked for leads to the limit. -/
theorem Moves.place_of_fallsShort (h : Moves limit m move found after) (within : Within limit m)
    (short : found.FallsShort move) : after.place = limit := by
  have bound := within.place_le
  cases h with
  | next count =>
    simp only [Found.FallsShort, List.length_range'] at short
    simp only
    omega
  | skip inside => cases short
  | past outside => rfl
  | count => exact short.elim
  | save => exact short.elim
  | restore kept => exact short.elim

/-- Only keeping a place changes the one that was kept. -/
theorem Moves.kept_eq (h : Moves limit m move found after) (unsaved : move ≠ .save) :
    after.kept = m.kept := by
  cases h with
  | save => exact absurd rfl unsaved
  | _ => rfl

/-! ## Marks after many requests -/

theorem within_run (moves : List Move) : ∀ m : Mark, Within limit m →
    Within limit (Move.run (move? limit) m moves).2 := by
  induction moves with
  | nil =>
    intro m within
    exact within
  | cons move rest ih =>
    intro m within
    cases answer : m.move? limit move with
    | none =>
      simp only [Move.run, answer]
      exact ih m within
    | some pair =>
      simp only [Move.run, answer]
      exact ih pair.2 ((moves_of_move? answer).within within)

/-- Between two returns the places that are handed out rise, from the mark up to the limit. -/
theorem places_run (onward : .restore ∉ moves) : ∀ m : Mark, Within limit m →
    (Move.handed (Move.run (move? limit) m moves).1).Pairwise (· < ·) ∧
      ∀ i ∈ Move.handed (Move.run (move? limit) m moves).1, m.place ≤ i ∧ i < limit := by
  induction moves with
  | nil =>
    intro m within
    exact ⟨.nil, fun i among => nomatch among⟩
  | cons move rest ih =>
    intro m within
    rw [List.mem_cons, not_or] at onward
    obtain ⟨notRestore, others⟩ := onward
    cases answer : m.move? limit move with
    | none =>
      simp only [Move.run, answer]
      exact ih others m within
    | some pair =>
      obtain ⟨found, after⟩ := pair
      have step := moves_of_move? answer
      have next := step.within within
      obtain ⟨forward, rising, between⟩ := step.places within (Ne.symm notRestore)
      obtain ⟨risingRest, betweenRest⟩ := ih others after next
      simp only [Move.run, answer]
      constructor
      · refine List.pairwise_append.2 ⟨rising, risingRest, ?_⟩
        intro i first k later
        exact Nat.lt_of_lt_of_le (between i first).2 (betweenRest k later).1
      · intro i among
        rcases List.mem_append.1 among with first | later
        · exact ⟨(between i first).1, Nat.lt_of_lt_of_le (between i first).2 next.place_le⟩
        · exact ⟨Nat.le_trans forward (betweenRest i later).1, (betweenRest i later).2⟩

/-- At the limit, nothing is handed out without a return. -/
theorem handed_run_of_place_eq (within : Within limit m) (onward : .restore ∉ moves)
    (done : m.place = limit) : Move.handed (Move.run (move? limit) m moves).1 = [] := by
  refine List.eq_nil_iff_forall_not_mem.2 ?_
  intro i among
  have between := (places_run onward m within).2 i among
  omega

theorem kept_run (unsaved : .save ∉ moves) : ∀ m : Mark,
    (Move.run (move? limit) m moves).2.kept = m.kept := by
  induction moves with
  | nil =>
    intro m
    rfl
  | cons move rest ih =>
    intro m
    rw [List.mem_cons, not_or] at unsaved
    obtain ⟨notSave, others⟩ := unsaved
    cases answer : m.move? limit move with
    | none =>
      simp only [Move.run, answer]
      exact ih others m
    | some pair =>
      obtain ⟨found, after⟩ := pair
      simp only [Move.run, answer]
      rw [ih others after, (moves_of_move? answer).kept_eq (Ne.symm notSave)]

end Mark

/-! ## Enumerations from a place on -/

namespace Enumeration

variable {α : Type} {e : Enumeration α} {item : Nat → α}

theorem drop_add (m k : Nat) : ∀ e : Enumeration α, e.drop (m + k) = (e.drop m).drop k := by
  induction m with
  | zero =>
    intro e
    rw [Nat.zero_add]
    rfl
  | succ m ih =>
    intro e
    cases step : e.next? with
    | none => rw [drop_of_next?_eq_none step, drop_of_next?_eq_none step, drop_of_next?_eq_none step]
    | some pair =>
      rw [drop_succ step, Nat.succ_add_eq_add_succ, Nat.add_succ, drop_succ step, ih]

theorem remaining_drop (e : Enumeration α) (p : Nat) :
    (e.drop p).remaining = e.remaining - p := by
  rw [← length_toList, ← length_toList, toList_drop, List.length_drop]

/-- From a place on, the next item is the one at that place. -/
theorem next?_drop (e : Enumeration α) (p : Nat) :
    (e.drop p).next? = e.toList[p]?.map fun x => (x, e.drop (p + 1)) := by
  have left : (e.drop p).toList.head? = e.toList[p]? := by
    rw [toList_drop, List.head?_drop]
  cases step : (e.drop p).next? with
  | none =>
    rw [toList_of_next?_eq_none step] at left
    rw [← left]
    rfl
  | some pair =>
    obtain ⟨x, after⟩ := pair
    rw [toList_of_next? step] at left
    rw [← left, drop_add, drop_succ step]
    rfl

/-- Past the last item there is no further to go. -/
theorem drop_min (e : Enumeration α) (p : Nat) : e.drop (min p e.remaining) = e.drop p := by
  rcases Nat.le_total p e.remaining with inside | past
  · rw [Nat.min_eq_left inside]
  · rw [Nat.min_eq_right past]
    have ended : (e.drop e.remaining).next? = none := by
      rw [next?_drop, List.getElem?_eq_none (Nat.le_of_eq (length_toList e))]
      rfl
    have same : e.remaining + (p - e.remaining) = p := Nat.add_sub_of_le past
    rw [← same, drop_add, drop_of_next?_eq_none ended]

/-- So many items from a place on, as far as there are any. -/
theorem take_toList_drop (items : ∀ p < e.remaining, e.toList[p]? = some (item p)) (p count : Nat) :
    (e.drop p).toList.take count =
      (List.range' p (min count (e.remaining - p))).map item := by
  apply List.ext_getElem?
  intro i
  rw [toList_drop, List.getElem?_map]
  by_cases inside : i < min count (e.remaining - p)
  · rw [List.getElem?_take_of_lt (by omega), List.getElem?_drop, items (p + i) (by omega),
      List.getElem?_range' inside]
    simp
  · have few : (e.toList.drop p |>.take count).length ≤ i := by
      rw [List.length_take, List.length_drop, length_toList]
      omega
    rw [List.getElem?_eq_none few, List.getElem?_eq_none (by rw [List.length_range']; omega)]
    rfl

end Enumeration

/-! ## Walks -/

namespace Mark

variable {α : Type} {e : Enumeration α} {item : Nat → α}

/-- The walk through an enumeration that stands at the places of the mark. -/
def walk (e : Enumeration α) (m : Mark) : Walk α :=
  ⟨e.drop m.place, m.kept.map fun place => e.drop place⟩

/-- A walk does at a request what its mark does. -/
theorem move?_walk (items : ∀ p < e.remaining, e.toList[p]? = some (item p)) (m : Mark)
    (move : Move) :
    (m.walk e).move? move =
      (m.move? e.remaining move).map fun (found, after) => (found.map item, after.walk e) := by
  cases move with
  | next count =>
    simp only [Walk.move?, walk, move?, Enumeration.take_eq, Option.map_some, Found.map,
      Enumeration.take_toList_drop items, ← Enumeration.drop_add, Enumeration.drop_min]
  | skip count =>
    have next := Enumeration.next?_drop e (m.place + count)
    by_cases inside : m.place + count < e.remaining
    · rw [items _ inside] at next
      simp only [Walk.move?, walk, move?, Enumeration.skip?, ← Enumeration.drop_add, next, inside,
        Option.map_some, if_true, Found.map]
    · have none : e.toList[m.place + count]? = none :=
        List.getElem?_eq_none (by rw [Enumeration.length_toList]; omega)
      have last : e.drop e.remaining = e.drop (m.place + count) := by
        rw [← Enumeration.drop_min e (m.place + count), Nat.min_eq_right (by omega)]
      rw [none] at next
      simp only [Walk.move?, walk, move?, Enumeration.skip?, ← Enumeration.drop_add, next, inside,
        Option.map_none, Option.map_some, if_false, Found.map, last]
  | count =>
    simp only [Walk.move?, walk, move?, Enumeration.remaining_drop, Option.map_some, Found.map]
  | save => rfl
  | restore => cases kept : m.kept <;> simp [Walk.move?, walk, move?, kept, Found.map]

/-- A walk follows its mark through all requests. -/
theorem run_walk (items : ∀ p < e.remaining, e.toList[p]? = some (item p)) (moves : List Move) :
    ∀ m : Mark, Move.run Walk.move? (m.walk e) moves =
      ((Move.run (move? e.remaining) m moves).1.map (Option.map (Found.map item)),
        (Move.run (move? e.remaining) m moves).2.walk e) := by
  induction moves with
  | nil =>
    intro m
    rfl
  | cons move rest ih =>
    intro m
    have step := move?_walk items m move
    cases answer : m.move? e.remaining move with
    | none =>
      rw [answer] at step
      simp only [Move.run, answer, step, Option.map_none, ih, List.map_cons]
    | some pair =>
      rw [answer] at step
      simp only [Move.run, answer, step, Option.map_some, ih, List.map_cons]

end Mark

/-! ## What a walk is -/

/-- Where a walk through an enumeration stands when these requests were made. -/
def Walk.reached {α : Type} (e : Enumeration α) (moves : List Move) : Walk α :=
  (Move.run Walk.move? (.start e) moves).2

/-- Where the mark among `limit` items stands when these requests were made. -/
def Mark.reached (limit : Nat) (moves : List Move) : Mark :=
  (Move.run (Mark.move? limit) .start moves).2

/-- To walk through an enumeration is to move a mark among `limit` items, of which `item` gives
the one at each place. -/
structure Tracks {α : Type} (e : Enumeration α) (limit : Nat) (item : Nat → α) : Prop where
  /-- 64 bits can hold every place up to the limit. -/
  limit_lt : limit < UInt64.size
  /-- The answers are those of the mark, with the items at their places, and the walk stands
  where the mark does. -/
  follows : ∀ moves : List Move, Move.run Walk.move? (.start e) moves =
    ((Move.run (Mark.move? limit) .start moves).1.map (Option.map (Found.map item)),
      (Mark.reached limit moves).walk e)
  /-- The number that the cursor keeps is the place of the mark, and never past the limit. -/
  number : ∀ moves : List Move, (Mark.reached limit moves).place ≤ limit ∧
    (Walk.reached e moves).current.cursor.next.toNat = (Mark.reached limit moves).place
  /-- Asking for a single item gives the one at the place of the mark, and moves on by one. -/
  next : ∀ moves : List Move, (Walk.reached e moves).current.next? =
    if (Mark.reached limit moves).place < limit then
      some (item (Mark.reached limit moves).place, e.drop ((Mark.reached limit moves).place + 1))
    else none
  /-- Between two returns, the places of the items that are handed out rise. -/
  rising : ∀ before moves : List Move, .restore ∉ moves →
    (Move.handed (Move.run (Mark.move? limit) (Mark.reached limit before) moves).1).Pairwise (· < ·)
  /-- Where there were too few items for a request, there are none until a return. -/
  ended : ∀ (before : List Move) (move : Move) (found : Found α) (after : Walk α)
    (more : List Move), (Walk.reached e before).move? move = some (found, after) →
    found.FallsShort move → .restore ∉ more → Move.handed (Move.run Walk.move? after more).1 = []
  /-- A return leads to where the place was kept, whatever was asked for in between. -/
  kept : ∀ before more : List Move, .save ∉ more →
    (Walk.reached e (before ++ .save :: (more ++ [.restore]))).current =
      (Walk.reached e before).current

namespace Mark

variable {limit : Nat}

theorem reached_append (limit : Nat) (front back : List Move) :
    reached limit (front ++ back) = (Move.run (move? limit) (reached limit front) back).2 := by
  unfold reached
  rw [Move.run_append]

theorem within_reached (limit : Nat) (moves : List Move) : Within limit (reached limit moves) :=
  within_run moves start (within_start limit)

/-- Back at the place that was kept, the mark stands where it did. -/
theorem place_reached_restore {more : List Move} (unsaved : .save ∉ more) (before : List Move) :
    (reached limit (before ++ .save :: (more ++ [.restore]))).place =
      (reached limit before).place := by
  rw [reached_append]
  generalize reached limit before = m
  have saved : (Move.run (move? limit) { m with kept := some m.place } more).2.kept =
      some m.place := kept_run unsaved _
  simp only [Move.run, move?, Move.run_append, saved, Option.map_some]

end Mark

section

variable {α : Type} {e : Enumeration α} {item : Nat → α}

/-- The walk after some requests stands at the mark after them. -/
theorem Walk.reached_eq (items : ∀ p < e.remaining, e.toList[p]? = some (item p))
    (moves : List Move) : Walk.reached e moves = (Mark.reached e.remaining moves).walk e :=
  congrArg Prod.snd (Mark.run_walk items moves .start)

/-- Every enumeration is walked through by a mark, if its cursor begins at zero. -/
theorem Tracks.of_items (items : ∀ p < e.remaining, e.toList[p]? = some (item p))
    (first : e.cursor.next = 0) : Tracks e e.remaining item where
  limit_lt := Nat.lt_of_le_of_lt (Nat.sub_le _ _) e.cursor.limit.toNat_lt
  follows := fun moves => Mark.run_walk items moves .start
  number := by
    intro moves
    have within := (Mark.within_reached e.remaining moves).place_le
    have limit : e.remaining = e.cursor.limit.toNat := by
      unfold Enumeration.remaining Cursor.remaining
      rw [first]
      exact Nat.sub_zero _
    have moved := Cursor.toNat_next_drop (Mark.reached e.remaining moves).place e.cursor
    rw [first, ← limit] at moved
    refine ⟨within, ?_⟩
    rw [Walk.reached_eq items]
    exact moved.trans (by rw [UInt64.toNat_zero, Nat.zero_add, Nat.min_eq_left within])
  next := by
    intro moves
    rw [Walk.reached_eq items]
    refine (Enumeration.next?_drop e _).trans ?_
    split
    · rename_i inside
      rw [items _ inside]
      rfl
    · rename_i outside
      rw [List.getElem?_eq_none (by rw [Enumeration.length_toList]; exact Nat.le_of_not_lt outside)]
      rfl
  rising := fun before moves onward =>
    (Mark.places_run onward _ (Mark.within_reached e.remaining before)).1
  ended := by
    intro before move found after more answer short onward
    rw [Walk.reached_eq items, Mark.move?_walk items] at answer
    obtain ⟨⟨place, mark⟩, step, same⟩ := Option.map_eq_some_iff.1 answer
    obtain ⟨rfl, rfl⟩ := Prod.mk.inj same
    have moves := Mark.moves_of_move? step
    have within := Mark.within_reached e.remaining before
    have done := moves.place_of_fallsShort within (Found.fallsShort_map_iff.1 short)
    rw [Mark.run_walk items, Move.handed_map,
      Mark.handed_run_of_place_eq (moves.within within) onward done]
    rfl
  kept := by
    intro before more unsaved
    rw [Walk.reached_eq items, Walk.reached_eq items]
    exact congrArg e.drop (Mark.place_reached_restore unsaved before)

end

/-- How many items there are over `n` names: as many as there are assignments, or, when 64 bits
cannot hold their number, the greatest that they can hold. -/
def limitOver (n : Nat) : Nat := ((rowCount? n).map UInt64.toNat).getD (UInt64.size - 1)

theorem Cursor.remaining_start_eq_limitOver (n : Nat) : (start n).remaining = limitOver n := by
  have limit : (start n).remaining = ((rowCount? n).getD greatestIndex).toNat := Nat.sub_zero _
  rw [limit, limitOver]
  cases rowCount? n <;> rfl

theorem Tracks.overNames {α : Type} (n : Nat) (item : UInt64 → α) :
    Tracks (Enumeration.overNames n item) (limitOver n) fun i => item (UInt64.ofNat i) := by
  have limit : (Enumeration.overNames n item).remaining = limitOver n :=
    Cursor.remaining_start_eq_limitOver n
  rw [← limit]
  refine .of_items ?_ rfl
  intro p inside
  have counted : p < (Cursor.start n).remaining := inside
  rw [Enumeration.toList_overNames, List.getElem?_map, List.getElem?_range counted]
  rfl

/-- Assignments over any names, and the rows of any formula, are walked through by a mark: each
answer is told by the place that the requests before it led to, and the numbers of 64 bits never
run over. -/
theorem Walk.tracks_assignments_and_rows :
    (∀ names : List String, Tracks (Assignment.enumerate names) (limitOver names.length)
      fun i => Assignment.ofIndex names (UInt64.ofNat i)) ∧
    ∀ f : Formula, Tracks f.rows (limitOver f.names.length)
      fun i => f.row f.names (Assignment.ofIndex f.names (UInt64.ofNat i)) :=
  ⟨fun names => .overNames names.length _, fun f => .overNames f.names.length _⟩

end Propositional
