import ReactorOS.Pagination
import Mathlib.Data.Int.Interval
namespace ReactorOS
open Wire Storage

-- What `audit list` shows of a page: its events, and whether there is a next page.
def auditList (codec : AuditCodec) (table : ControlEventTable) (permitted : Except AppError Unit) (pageSize : Nat)
    (eventType : Option String) (page : Nat) : Option (List ControlEventRecord × Bool) :=
  match auditLogs codec table permitted ⟨some page,some pageSize,eventType⟩ with
  | .ok (some data) =>
      let hasMore := min (page*pageSize) (2^64-1) < data.total
      some (data.events,hasMore)
  | _ => none

-- Keys of SQLite are positive 64-bit integers.
def ControlEventTable.SqlKeys (table : ControlEventTable) : Prop := ∀ row ∈ table.rows, 0 < row.id ∧ row.id < 2^63

def recordOf (codec : AuditCodec) (row : ControlEventRow) : ControlEventRecord :=
  ⟨row,(codec.parseRfc3339 row.createdAt).getD 0⟩

-- The events that a filter asks for, as they are read.
def matchingEvents (codec : AuditCodec) (table : ControlEventTable) (eventType : Option String) : List ControlEventRecord :=
  (table.matching (AuditQuery.filter ⟨none,none,eventType⟩)).map (recordOf codec)

theorem rows_below {rows : List ControlEventRow} (ordered : rows.Pairwise (·.id < ·.id))
    (keys : ∀ row ∈ rows, 0 < row.id ∧ row.id < 2^63) : rows.length < 2^63 := by
  have nodup : (rows.map (·.id)).Nodup := by
    rw [List.Nodup,List.pairwise_map]
    exact ordered.imp fun before => Int.ne_of_lt before
  have inside : (rows.map (·.id)).toFinset ⊆ Finset.Ioo 0 (2^63) := by
    intro id member
    obtain ⟨row,stored,rfl⟩ := List.mem_map.mp (List.mem_toFinset.mp member)
    exact Finset.mem_Ioo.mpr (keys row stored)
  have bound := Finset.card_le_card inside
  rw [List.toFinset_card_of_nodup nodup,List.length_map,Int.card_Ioo] at bound
  omega

section Listing
variable {codec : AuditCodec} {table : ControlEventTable}

theorem readEventRow_readable {row : ControlEventRow} (readable : ∃ event, controlEventFromRow codec row = .ok event) :
    readEventRow codec row = .ok (some (recordOf codec row)) := by
  obtain ⟨event,read⟩ := readable
  unfold controlEventFromRow at read
  unfold readEventRow recordOf
  cases parsed : codec.parseRfc3339 row.createdAt with
  | none => simp [parsed] at read
  | some moment =>
      rw [parsed] at read
      obtain ⟨_,valid,_⟩ := bind_ok read
      simp only [valid]
      rfl

theorem matching_rows (eventType : Option String) : ∀ row ∈ table.matching eventType, row ∈ table.rows :=
  fun _ member => List.mem_of_mem_filter member

theorem chain_readable (readable : ∀ row ∈ table.rows, ∃ event, controlEventFromRow codec row = .ok event) :
    ∃ chain, auditChainStatus codec table = .ok chain := by
  have hashed : ∀ row ∈ table.hashed.drop (table.hashed.length-auditChainCheckLimit), row ∈ table.rows :=
    fun row member => List.mem_of_mem_filter (List.mem_of_mem_drop member)
  generalize rows_eq : table.hashed.drop (table.hashed.length-auditChainCheckLimit) = rows at hashed
  have events : ∃ events, rows.mapM (controlEventFromRow codec) = .ok events := by
    clear rows_eq
    induction rows with
    | nil => exact ⟨[],rfl⟩
    | cons row rows ih =>
        obtain ⟨event,read⟩ := readable row (hashed row List.mem_cons_self)
        obtain ⟨events,rest⟩ := ih fun other member => hashed other (List.mem_cons_of_mem _ member)
        refine ⟨event :: events,?_⟩
        rw [List.mapM_cons,ok_bind read,ok_bind rest]
        rfl
  obtain ⟨events,read⟩ := events
  refine ⟨auditChainStatusFromEvents codec events table.hashed.length auditChainCheckLimit
    (auditChainCheckLimit < table.hashed.length),?_⟩
  simp only [auditChainStatus,rows_eq]
  rw [ok_bind read]
  rfl

-- The answer to a page, while its offset is small.
theorem auditLogs_served (readable : ∀ row ∈ table.rows, ∃ event, controlEventFromRow codec row = .ok event)
    (pageSize page : Nat) (eventType : Option String) (bound : page*pageRows 50 (some pageSize) < 2^63) :
    ∃ data, auditLogs codec table (.ok ()) ⟨some (page+1),some pageSize,eventType⟩ = .ok (some data) ∧
      data.total = (matchingEvents codec table eventType).length ∧
      data.events = slice (page*pageRows 50 (some pageSize)) (pageRows 50 (some pageSize))
        (matchingEvents codec table eventType).reverse := by
  obtain ⟨chain,status⟩ := chain_readable readable
  have size := pageRows_bounds 50 (some pageSize)
  have rank := firstRank_page page (pageRows 50 (some pageSize))
  have read : collect (readEventRow codec) (slice (page*pageRows 50 (some pageSize)) (pageRows 50 (some pageSize))
      (table.matching (AuditQuery.filter ⟨some (page+1),some pageSize,eventType⟩)).reverse) =
      .ok (slice (page*pageRows 50 (some pageSize)) (pageRows 50 (some pageSize)) (matchingEvents codec table eventType).reverse) := by
    have each := @collect_all ControlEventRow ControlEventRecord Failure (readEventRow codec)
      (slice (page*pageRows 50 (some pageSize)) (pageRows 50 (some pageSize))
        (table.matching (AuditQuery.filter ⟨some (page+1),some pageSize,eventType⟩)).reverse) (recordOf codec)
      fun row member => readEventRow_readable (readable row
        (matching_rows _ row (List.mem_reverse.mp (List.mem_of_mem_drop (List.mem_of_mem_take member)))))
    rw [each]
    simp only [slice,matchingEvents,List.map_take,List.map_drop,List.map_reverse,AuditQuery.filter]
  refine ⟨⟨page+1,pageRows 50 (some pageSize),(matchingEvents codec table eventType).length,
    slice (page*pageRows 50 (some pageSize)) (pageRows 50 (some pageSize)) (matchingEvents codec table eventType).reverse,
    chain⟩,?_,rfl,rfl⟩
  · rw [auditLogs_page status]
    simp only [rank]
    rw [if_neg (by omega),sqlPage_slice (by omega) bound,read]
    simp [Except.mapError,Except.map,auditEventCount,matchingEvents,AuditQuery.filter]

-- A page of the list, while its offset is small: a slice of the events, newest first.
theorem auditList_page (readable : ∀ row ∈ table.rows, ∃ event, controlEventFromRow codec row = .ok event)
    (pageSize page : Nat) (eventType : Option String) (bound : page*pageRows 50 (some pageSize) < 2^63) :
    auditList codec table (.ok ()) pageSize eventType (page+1) =
      some (slice (page*pageRows 50 (some pageSize)) (pageRows 50 (some pageSize)) (matchingEvents codec table eventType).reverse,
        decide (min ((page+1)*pageSize) (2^64-1) < (matchingEvents codec table eventType).length)) := by
  obtain ⟨data,answered,total,events⟩ := auditLogs_served readable pageSize page eventType bound
  unfold auditList
  rw [answered]
  simp only [total,events]

theorem matchingEvents_below (keys : table.SqlKeys) (eventType : Option String) :
    (matchingEvents codec table eventType).length < 2^63 := by
  have few := rows_below table.ordered keys
  have fewer : (table.matching (AuditQuery.filter ⟨none,none,eventType⟩)).length ≤ table.rows.length :=
    List.length_filter_le _ _
  unfold matchingEvents
  rw [List.length_map]
  omega

-- With pages of no rows there is a next page for ever, once there is an event.
theorem auditList_empty_pages {eventType : Option String} (present : 0 < (matchingEvents codec table eventType).length)
    (page : Nat) (values : List ControlEventRecord) : auditList codec table (.ok ()) 0 eventType page ≠ some (values,false) := by
  intro shown
  unfold auditList at shown
  split at shown
  · rename_i data answered
    have total : data.total = (matchingEvents codec table eventType).length := by
      obtain ⟨_,_,answered⟩ := bind_ok answered
      simp only at answered
      split at answered
      · cases answered
      · obtain ⟨events,_,answered⟩ := bind_ok answered
        obtain ⟨chain,_,answered⟩ := bind_ok answered
        cases answered
        simp [auditEventCount,matchingEvents,AuditQuery.filter]
    obtain ⟨_,stopped⟩ := Prod.mk.inj (Option.some.inj shown)
    have exhausted := of_decide_eq_false stopped
    rw [Nat.mul_zero,total] at exhausted
    omega
  · cases shown

theorem auditList_walk (readable : ∀ row ∈ table.rows, ∃ event, controlEventFromRow codec row = .ok event)
    (keys : table.SqlKeys) (eventType : Option String) {pageSize : Nat} (positive : 0 < pageSize) :
    walk (auditList codec table (.ok ()) pageSize eventType) (((matchingEvents codec table eventType).length-1)/pageSize+1) 1 =
      some ((matchingEvents codec table eventType).reverse.take
        ((((matchingEvents codec table eventType).length-1)/pageSize+1)*pageRows 50 (some pageSize))) := by
  have few := @matchingEvents_below codec table keys eventType
  have smaller : pageRows 50 (some pageSize) ≤ pageSize := by
    unfold pageRows
    rw [Option.getD_some]
    omega
  have ended := @walk_counted _ (auditList codec table (.ok ()) pageSize eventType) (matchingEvents codec table eventType).reverse
    (pageRows 50 (some pageSize)) pageSize positive
  rw [List.length_reverse] at ended
  refine ended fun page within => ?_
  have offset : page*pageRows 50 (some pageSize) ≤ page*pageSize := Nat.mul_le_mul_left page smaller
  rw [auditList_page readable pageSize page eventType (by omega)]
  -- a product that saturates is beyond every total
  have unsaturated : min ((page+1)*pageSize) (2^64-1) < (matchingEvents codec table eventType).length ↔
      (page+1)*pageSize < (matchingEvents codec table eventType).length := by
    rw [min_lt_iff]
    constructor
    · intro below
      rcases below with product | limit
      · exact product
      · omega
    · exact Or.inl
  rw [decide_eq_decide.mpr unsaturated]

-- So many pages as the client counts hold all the rows.
theorem pages_enough {total pageSize : Nat} (positive : 0 < pageSize) :
    total ≤ ((total-1)/pageSize+1)*pageRows 50 (some pageSize) ↔
      (500 < pageSize → total ≤ 500*((total+pageSize-1)/pageSize)) := by
  rcases Nat.eq_zero_or_pos total with rfl | present
  · simp
  · have rounded : (total+pageSize-1)/pageSize = (total-1)/pageSize+1 := by
      rw [show total+pageSize-1 = (total-1)+pageSize by omega,Nat.add_div_right _ positive]
    rcases Nat.lt_or_ge 500 pageSize with wide | narrow
    · have served : pageRows 50 (some pageSize) = 500 := by
        unfold pageRows
        rw [Option.getD_some]
        omega
      rw [served,rounded,Nat.mul_comm]
      exact ⟨fun fits _ => fits,fun fits => fits wide⟩
    · have served : pageRows 50 (some pageSize) = pageSize := by
        unfold pageRows
        rw [Option.getD_some]
        omega
      have past : total-1 < ((total-1)/pageSize+1)*pageSize := by
        rw [← Nat.div_lt_iff_lt_mul positive]
        exact Nat.lt_succ_self _
      rw [served]
      refine iff_of_true (by omega) fun wide => ?_
      omega

-- A client that starts at page 1 and goes on while there is a next page ends with every
-- matching event, each once, exactly for these page sizes.
theorem audit_list_complete (readable : ∀ row ∈ table.rows, ∃ event, controlEventFromRow codec row = .ok event)
    (keys : table.SqlKeys) (eventType : Option String) (pageSize : Nat) :
    (∃ fuel received, walk (auditList codec table (.ok ()) pageSize eventType) fuel 1 = some received ∧
      received.Perm (matchingEvents codec table eventType)) ↔
    (pageSize = 0 → (matchingEvents codec table eventType).length = 0) ∧
    (500 < pageSize → (matchingEvents codec table eventType).length ≤
      500*(((matchingEvents codec table eventType).length+pageSize-1)/pageSize)) := by
  rcases Nat.eq_zero_or_pos pageSize with rfl | positive
  · rcases Nat.eq_zero_or_pos (matchingEvents codec table eventType).length with nothing | present
    · have only := auditList_page readable 0 0 eventType (by omega)
      refine iff_of_true ⟨1,[],?_,?_⟩ ⟨fun _ => nothing,by omega⟩
      · rw [List.length_eq_zero_iff] at nothing
        simp [walk,only,nothing,slice]
      · rw [List.length_eq_zero_iff.mp nothing]
    · refine iff_of_false ?_ ?_
      · rintro ⟨fuel,received,ended,_⟩
        rw [walk_never (auditList_empty_pages present) fuel] at ended
        cases ended
      · intro fits
        have nothing := fits.1 rfl
        omega
  · have ended := auditList_walk readable keys eventType positive
    have all := @pages_enough (matchingEvents codec table eventType).length pageSize positive
    constructor
    · intro complete
      obtain ⟨fuel,received,walked,whole⟩ := complete
      obtain rfl := walk_unique walked ended
      have counted := whole.length_eq
      rw [List.length_take,List.length_reverse] at counted
      exact ⟨by omega,all.mp (by omega)⟩
    · intro fits
      refine ⟨_,_,ended,?_⟩
      rw [List.take_of_length_le]
      · exact List.reverse_perm _
      · rw [List.length_reverse]
        exact all.mpr fits.2

end Listing

-- A table of logins, `count` of them.
def loginRow (place : Nat) : ControlEventRow :=
  ⟨place+1,none,"login",none,none,none,"","","","1970-01-01T00:00:00+00:00",none,none⟩

def logins (count : Nat) : ControlEventTable where
  rows := (List.range count).map loginRow
  nextId := count+1
  ordered := by
    rw [List.pairwise_map]
    exact (List.pairwise_lt_range).imp fun before => Int.add_lt_add_right (Int.ofNat_lt.mpr before) 1
  below := by
    intro row member
    obtain ⟨place,within,rfl⟩ := List.mem_map.mp member
    exact Int.add_lt_add_right (Int.ofNat_lt.mpr (List.mem_range.mp within)) 1

theorem logins_readable (count : Nat) : ∀ row ∈ (logins count).rows, ∃ event, controlEventFromRow benchCodec row = .ok event := by
  intro row member
  obtain ⟨place,_,rfl⟩ := List.mem_map.mp member
  exact ⟨⟨loginRow place,0⟩,rfl⟩

theorem logins_keys {count : Nat} (few : count < 2^63) : (logins count).SqlKeys := by
  intro row member
  obtain ⟨place,within,rfl⟩ := List.mem_map.mp member
  have before := List.mem_range.mp within
  change 0 < (place : Int)+1 ∧ (place : Int)+1 < 2^63
  omega

theorem logins_matching (count : Nat) : (matchingEvents benchCodec (logins count) none).length = count := by
  simp [matchingEvents,ControlEventTable.matching,AuditQuery.filter,logins]

-- Of 501 logins a client with pages of 501 is shown 500 and told that there are no more.
theorem wide_page_drops_a_login :
    ¬∃ fuel received, walk (auditList benchCodec (logins 501) (.ok ()) 501 none) fuel 1 = some received ∧
      received.Perm (matchingEvents benchCodec (logins 501) none) := by
  rintro ⟨fuel,received,walked,whole⟩
  have ended := auditList_walk (logins_readable 501) (logins_keys (by decide)) none (show 0 < 501 by decide)
  have counted := whole.length_eq
  rw [walk_unique walked ended,List.length_take,List.length_reverse,logins_matching] at counted
  revert counted
  decide

theorem default_pages_complete : (∀ row ∈ (logins 45).rows, ∃ event, controlEventFromRow benchCodec row = .ok event) ∧
    (logins 45).SqlKeys ∧
    ∃ fuel received, walk (auditList benchCodec (logins 45) (.ok ()) 20 none) fuel 1 = some received ∧
      received.Perm (matchingEvents benchCodec (logins 45) none) :=
  ⟨logins_readable 45,logins_keys (by decide),
    (audit_list_complete (logins_readable 45) (logins_keys (by decide)) none 20).mpr ⟨by decide,by decide⟩⟩

end ReactorOS
