import Mathlib.Data.List.Forall2
namespace Storage
variable {Raw Row Err : Type} (decode : Raw → Except Err Row)

-- Every stored record reads back, as the row at its place.
def Encodes : List Raw → List Row → Prop := List.Forall₂ fun raw row => decode raw = .ok row

-- What a reader makes of the records that it meets: one that `skips` is passed over,
-- any other that cannot be read ends the reading.
def readAll (skips : Err → Bool) : List Raw → Except Err (List Row)
  | [] => .ok []
  | raw :: rest => match decode raw with
    | .ok row => (readAll skips rest).map (row :: ·)
    | .error err => if skips err then readAll skips rest else .error err

namespace Encodes
variable {decode} {raws : List Raw} {rows : List Row} {here : Raw → Bool} {there : Row → Bool}

theorem append {raw : Raw} {row : Row} (encodes : Encodes decode raws rows) (read : decode raw = .ok row) :
    Encodes decode (raws ++ [raw]) (rows ++ [row]) := List.rel_append encodes (.cons read .nil)

-- A change of a record that reads as the change of its row, where one is made.
theorem map {change : Raw → Raw} {become : Row → Row} (encodes : Encodes decode raws rows)
    (same : ∀ raw row, raw ∈ raws → decode raw = .ok row → decode (change raw) = .ok (become row)) :
    Encodes decode (raws.map change) (rows.map become) := by
  induction encodes with
  | nil => exact .nil
  | cons read _ ih =>
      refine .cons (same _ _ List.mem_cons_self read) (ih ?_)
      intro raw row member
      exact same raw row (List.mem_cons_of_mem _ member)

theorem filter (encodes : Encodes decode raws rows) (same : ∀ raw row, decode raw = .ok row → here raw = there row) :
    Encodes decode (raws.filter here) (rows.filter there) := by
  induction encodes with
  | nil => exact .nil
  | @cons raw row raws rows read _ ih =>
      rw [List.filter_cons,List.filter_cons,same raw row read]
      split
      · exact .cons read ih
      · exact ih

-- A search among the records finds the record of the row that the search among rows finds.
theorem find (encodes : Encodes decode raws rows) (same : ∀ raw row, decode raw = .ok row → here raw = there row) :
    (raws.find? here).map decode = (rows.find? there).map .ok := by
  induction encodes with
  | nil => rfl
  | @cons raw row raws rows read _ ih =>
      rw [List.find?_cons,List.find?_cons,same raw row read]
      cases there row with
      | true => simp only [Option.map_some,read]
      | false => exact ih

theorem readAll (encodes : Encodes decode raws rows) (skips : Err → Bool) : readAll decode skips raws = .ok rows := by
  induction encodes with
  | nil => rfl
  | cons read _ ih =>
      simp only [Storage.readAll,read,ih]
      rfl

theorem reads {raw : Raw} (encodes : Encodes decode raws rows) (member : raw ∈ raws) : ∃ row ∈ rows, decode raw = .ok row := by
  induction encodes with
  | nil => cases member
  | cons read _ ih =>
      cases member with
      | head => exact ⟨_,List.mem_cons_self,read⟩
      | tail _ later =>
          obtain ⟨row,present,found⟩ := ih later
          exact ⟨row,List.mem_cons_of_mem _ present,found⟩

end Encodes

variable {decode}

-- Every row that a reading comes to is one of the records read.
theorem readAll_origin {raws : List Raw} {skips : Err → Bool} {rows : List Row} (read : readAll decode skips raws = .ok rows) :
    ∀ row ∈ rows, ∃ raw ∈ raws, decode raw = .ok row := by
  induction raws generalizing rows with
  | nil =>
      cases read
      simp
  | cons head rest ih =>
      unfold readAll at read
      have later : ∀ {rows}, readAll decode skips rest = .ok rows → ∀ row ∈ rows, ∃ raw ∈ head :: rest, decode raw = .ok row := by
        intro rows found row member
        obtain ⟨raw,present,decoded⟩ := ih found row member
        exact ⟨raw,List.mem_cons_of_mem _ present,decoded⟩
      cases first : decode head with
      | ok row =>
          rw [first] at read
          cases others : readAll decode skips rest with
          | error err =>
              rw [others] at read
              cases read
          | ok found =>
              rw [others] at read
              cases read
              intro row' member
              cases member with
              | head => exact ⟨head,List.mem_cons_self,first⟩
              | tail _ behind => exact later others row' behind
      | error err =>
          rw [first] at read
          cases passed : skips err with
          | true => exact later (by simpa [passed] using read)
          | false => simp [passed] at read

-- A record that neither reads nor is passed over ends every reading that meets it.
theorem readAll_blocked {raws : List Raw} {raw : Raw} {skips : Err → Bool} {rows : List Row} (member : raw ∈ raws)
    (blocked : ∀ row, decode raw ≠ .ok row) (unskipped : ∀ err, decode raw = .error err → skips err = false) :
    readAll decode skips raws ≠ .ok rows := by
  induction raws generalizing rows with
  | nil => cases member
  | cons head rest ih =>
      unfold readAll
      cases read : decode head with
      | ok row =>
          have later : raw ∈ rest := by
            cases member with
            | head => exact absurd read (blocked row)
            | tail _ later => exact later
          cases others : readAll decode skips rest with
          | error err => simp [Except.map]
          | ok found => exact absurd others (ih later)
      | error err =>
          cases passed : skips err with
          | true =>
              cases member with
              | head => rw [unskipped err read] at passed; cases passed
              | tail _ later => simpa [passed] using ih later
          | false => simp [passed]

end Storage
