import Mathlib.Data.List.Nodup
namespace Storage
variable {Row Value ε : Type}

-- The rows of the ranks from `first` on, `size` of them.
def slice (first size : Nat) (rows : List Row) : List Row := (rows.drop first).take size

-- Each row is read, or skipped, or ends the reading.
def collect (read : Row → Except ε (Option Value)) : List Row → Except ε (List Value)
  | [] => .ok []
  | row :: rows =>
      match read row with
      | .error err => .error err
      | .ok value => (collect read rows).map (value.toList ++ ·)

-- A client that asks for one page after the other while it is told that there are more.
def walk (ask : Nat → Option (List Value × Bool)) : Nat → Nat → Option (List Value)
  | 0,_ => none
  | fuel+1,page =>
      match ask page with
      | none => none
      | some (values,false) => some values
      | some (values,true) => (walk ask fuel (page+1)).map (values ++ ·)

theorem slice_after (first size : Nat) (rows : List Row) : rows.take first ++ slice first size rows = rows.take (first+size) := by
  unfold slice
  exact List.take_add.symm

-- Page after page, the slices are the rows in their order, each of them once.
theorem slices_join (count size : Nat) (rows : List Row) :
    (List.range count).flatMap (fun page => slice (page*size) size rows) = rows.take (count*size) := by
  induction count with
  | zero => simp
  | succ count ih =>
      have last : (count+1)*size = count*size+size := Nat.succ_mul count size
      rw [List.range_succ,List.flatMap_append,List.flatMap_singleton,ih,last]
      exact slice_after _ _ _

section Reading
variable {read : Row → Except ε (Option Value)}

theorem collect_append (one other : List Row) :
    collect read (one ++ other) = do
      let values ← collect read one
      let others ← collect read other
      return values ++ others := by
  induction one with
  | nil =>
      simp only [List.nil_append,collect]
      cases collect read other <;> rfl
  | cons row one ih =>
      simp only [List.cons_append,collect]
      cases read row with
      | error err => rfl
      | ok value =>
          simp only [ih]
          cases collect read one with
          | error err => rfl
          | ok values =>
              cases collect read other with
              | error err => rfl
              | ok others => simp [Except.map,bind,Except.bind,pure,Except.pure]

-- What is read page by page is what is read of the rows of all these pages at once.
theorem collect_pages {rows : List Row} {size count : Nat} {pages : Nat → List Value}
    (answered : ∀ page < count, collect read (slice (page*size) size rows) = .ok (pages page)) :
    collect read (rows.take (count*size)) = .ok ((List.range count).flatMap pages) := by
  induction count with
  | zero => simp [collect]
  | succ count ih =>
      have last : (count+1)*size = count*size+size := Nat.succ_mul count size
      have earlier := ih fun page before => answered page (Nat.lt_succ_of_lt before)
      rw [last,← slice_after,collect_append,earlier,answered count (Nat.lt_succ_self count),List.range_succ,
        List.flatMap_append,List.flatMap_singleton]
      rfl

-- Rows that can all be read are read one by one.
theorem collect_all {rows : List Row} {value : Row → Value} (readable : ∀ row ∈ rows, read row = .ok (some (value row))) :
    collect read rows = .ok (rows.map value) := by
  induction rows with
  | nil => rfl
  | cons row rows ih =>
      obtain ⟨first,rest⟩ := List.forall_mem_cons.mp readable
      simp only [collect,first,ih rest]
      rfl

end Reading

section Client
variable {ask : Nat → Option (List Value × Bool)}

theorem walk_more {fuel first : Nat} {values : List Value} (found : walk ask fuel first = some values) (extra : Nat) :
    walk ask (fuel+extra) first = some values := by
  induction fuel generalizing first values with
  | zero => cases found
  | succ fuel ih =>
      rw [show fuel+1+extra = (fuel+extra)+1 by omega]
      unfold walk at found ⊢
      cases answered : ask first with
      | none =>
          rw [answered] at found
          cases found
      | some answer =>
          obtain ⟨values',more⟩ := answer
          rw [answered] at found
          cases more with
          | false => exact found
          | true =>
              obtain ⟨rest,later,rfl⟩ := Option.map_eq_some_iff.mp found
              simp only
              rw [ih later]
              rfl

-- However long it is given, a client that ends receives the same.
theorem walk_unique {fuel other first : Nat} {values values' : List Value} (one : walk ask fuel first = some values)
    (two : walk ask other first = some values') : values = values' := by
  have first := walk_more one other
  have second := walk_more two fuel
  rw [Nat.add_comm] at second
  exact Option.some.inj (first.symm.trans second)

theorem walk_ends {first count : Nat} {pages : Nat → List Value}
    (more : ∀ page < count, ask (first+page) = some (pages page,true)) (last : ask (first+count) = some (pages count,false)) :
    walk ask (count+1) first = some ((List.range (count+1)).flatMap pages) := by
  induction count generalizing first pages with
  | zero =>
      rw [Nat.add_zero] at last
      simp [walk,last]
  | succ count ih =>
      have here := more 0 (Nat.succ_pos count)
      rw [Nat.add_zero] at here
      have rest := @ih (first+1) (fun page => pages (page+1))
        (fun page before => by
          have later := more (page+1) (Nat.succ_lt_succ before)
          rwa [show first+1+page = first+(page+1) by omega])
        (by rwa [show first+1+count = first+(count+1) by omega])
      rw [walk,here,List.range_succ_eq_map,List.flatMap_cons,List.flatMap_map]
      simp only
      rw [rest]
      rfl

-- A server that serves `served` rows a page, and a client that counts `counted` of them: the
-- client ends, with as many pages as it counts.
theorem walk_counted {rows : List Value} {served counted : Nat} (positive : 0 < counted)
    (answers : ∀ page, page*counted ≤ rows.length-1 →
      ask (page+1) = some (slice (page*served) served rows,decide ((page+1)*counted < rows.length))) :
    walk ask ((rows.length-1)/counted+1) 1 = some (rows.take (((rows.length-1)/counted+1)*served)) := by
  have reached : ∀ page ≤ (rows.length-1)/counted, page*counted ≤ rows.length-1 :=
    fun page within => (Nat.le_div_iff_mul_le positive).mp within
  rw [← slices_join]
  refine @walk_ends Value ask 1 _ (fun page => slice (page*served) served rows) (fun page before => ?_) ?_
  · have next := reached (page+1) before
    have more : (page+1)*counted < rows.length := by
      have some_rows : 0 < (page+1)*counted := Nat.mul_pos (Nat.succ_pos page) positive
      omega
    rw [Nat.add_comm 1 page,answers page (reached page (Nat.le_of_lt before)),decide_eq_true more]
  · have done : ¬((rows.length-1)/counted+1)*counted < rows.length := by
      have past : rows.length-1 < ((rows.length-1)/counted+1)*counted := by
        rw [← Nat.div_lt_iff_lt_mul positive]
        exact Nat.lt_succ_self _
      omega
    rw [Nat.add_comm 1,answers _ (reached _ (Nat.le_refl _)),decide_eq_false done]

theorem walk_never {first : Nat} (always : ∀ page values, ask page ≠ some (values,false)) (fuel : Nat) :
    walk ask fuel first = none := by
  induction fuel generalizing first with
  | zero => rfl
  | succ fuel ih =>
      unfold walk
      cases answered : ask first with
      | none => rfl
      | some answer =>
          obtain ⟨values,more⟩ := answer
          cases more with
          | false => exact (always first values answered).elim
          | true =>
              simp only
              rw [ih]
              rfl

end Client
end Storage
