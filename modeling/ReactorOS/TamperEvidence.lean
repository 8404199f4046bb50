import ReactorOS.AuditInserts
import Mathlib.Data.List.Nodup
namespace ReactorOS
open Wire HashChain

-- A stored field and what it is changed to.
inductive Modification where
  | id (value : Int)
  | time (value : String)
  | kind (value : String)
  | batch (value : Option Int)
  | temperature (value : Option ℚ)
  | stirrer (value : Option ℚ)
  | shake (value : Option ℚ)
  | reason (value : String)
  | actor (value : String)
  | role (value : String)
  | previousHash (value : Option String)

def Modification.apply (row : ControlEventRow) : Modification → ControlEventRow
  | .id value => { row with id := value }
  | .time value => { row with createdAt := value }
  | .kind value => { row with eventType := value }
  | .batch value => { row with batchId := value }
  | .temperature value => { row with targetTemperatureC := value }
  | .stirrer value => { row with targetStirrerRpm := value }
  | .shake value => { row with targetShakeSpeedCpm := value }
  | .reason value => { row with reason := value }
  | .actor value => { row with actor := value }
  | .role value => { row with role := value }
  | .previousHash value => { row with previousHash := value }

-- One modification of the hashed events of a table. A row is read in its place by id.
inductive Tampering (table tampered : ControlEventTable) : Prop where
  | changed (modification : Modification) (row : ControlEventRow) (stored : row ∈ table.hashed)
      (rows : tampered.rows.Perm (modification.apply row :: table.rows.erase row))
  | deleted (row : ControlEventRow) (stored : row ∈ table.hashed) (inner : table.hashed.getLast? ≠ some row)
      (rows : tampered.rows = table.rows.erase row)
  | exchanged (one two : ControlEventRow) (stored : one ∈ table.hashed) (stored' : two ∈ table.hashed)
      (different : one ≠ two) (rows : tampered.rows.Perm
        ({ one with id := two.id } :: { two with id := one.id } :: (table.rows.erase one).erase two))

section Codec
variable (codec : AuditCodec)

-- A row that is read back.
def Reads (row : ControlEventRow) : Prop :=
  (codec.parseRfc3339 row.createdAt).isSome = true ∧
    validateControlEventTargets row.targetTemperatureC row.targetStirrerRpm row.targetShakeSpeedCpm = .ok ()

-- What of a row is hashed or is a hash: not its id, actor and role, nor how its time is written.
def ControlEventRow.link (row : ControlEventRow) : AuditLink :=
  ⟨row.previousHash,row.eventHash,⟨row.batchId,row.eventType,row.targetTemperatureC,row.targetStirrerRpm,
    row.targetShakeSpeedCpm,row.reason,(codec.parseRfc3339 row.createdAt).getD 0⟩⟩

def ControlEventTable.links (table : ControlEventTable) : List AuditLink := table.hashed.map (ControlEventRow.link codec)

def ControlEventTable.windowLinks (table : ControlEventTable) : List AuditLink :=
  table.window.map (ControlEventRow.link codec)

def ReportsBroken (verifier : ControlEventTable → Except String AuditChainStatus) (table : ControlEventTable) : Prop :=
  ∃ status, verifier table = .ok status ∧ 0 < status.brokenEvents

variable {codec}

theorem readable_link {row : ControlEventRow} {link : AuditLink} :
    Readable codec row link ↔ Reads codec row ∧ link = row.link codec := by
  rw [readable_iff]
  unfold Reads ControlEventRow.link
  constructor
  · intro read
    obtain ⟨time,valid,shape⟩ := read
    rw [time]
    exact ⟨⟨rfl,valid⟩,shape⟩
  · intro read
    obtain ⟨⟨time,valid⟩,rfl⟩ := read
    obtain ⟨moment,parsed⟩ := Option.isSome_iff_exists.mp time
    rw [parsed]
    exact ⟨rfl,valid,rfl⟩

theorem readable_links {rows : List ControlEventRow} {links : List AuditLink} :
    List.Forall₂ (Readable codec) rows links ↔ (∀ row ∈ rows, Reads codec row) ∧ links = rows.map (ControlEventRow.link codec) := by
  induction rows generalizing links with
  | nil => simp [List.forall₂_nil_left_iff]
  | cons row rows ih =>
      rw [List.forall₂_cons_left_iff]
      constructor
      · intro parts
        obtain ⟨link,others,first,later,rfl⟩ := parts
        obtain ⟨reads,rfl⟩ := readable_link.mp first
        obtain ⟨all,rfl⟩ := ih.mp later
        exact ⟨List.forall_mem_cons.mpr ⟨reads,all⟩,rfl⟩
      · intro parts
        obtain ⟨all,rfl⟩ := parts
        obtain ⟨reads,others⟩ := List.forall_mem_cons.mp all
        exact ⟨_,_,readable_link.mpr ⟨reads,rfl⟩,ih.mpr ⟨others,rfl⟩,rfl⟩

theorem validChain_links {table : ControlEventTable} : ValidChain codec table ↔
    (∀ row ∈ table.hashed, Reads codec row) ∧ Intact codec.seal none (table.links codec) := by
  rw [validChain_iff]
  constructor
  · intro chain
    obtain ⟨links,readable,intact⟩ := chain
    obtain ⟨reads,rfl⟩ := readable_links.mp readable
    exact ⟨reads,intact⟩
  · intro chain
    exact ⟨_,readable_links.mpr ⟨chain.1,rfl⟩,chain.2⟩

theorem reportsBroken_full {table : ControlEventTable} :
    ReportsBroken (fullAuditChainStatusForDiagnostics codec) table ↔
      (∀ row ∈ table.hashed, Reads codec row) ∧ ¬Intact codec.seal none (table.links codec) := by
  unfold ReportsBroken
  rw [full_spec (0 < ·)]
  simp only [readable_links,Nat.pos_iff_ne_zero,ne_eq,broken_zero]
  constructor
  · intro chain
    obtain ⟨links,⟨reads,rfl⟩,broken⟩ := chain
    exact ⟨reads,broken⟩
  · intro chain
    exact ⟨_,⟨chain.1,rfl⟩,chain.2⟩

theorem reportsBroken_window {table : ControlEventTable} :
    ReportsBroken (auditChainStatus codec) table ↔ (∀ row ∈ table.window, Reads codec row) ∧
      ¬Intact codec.seal (windowStart table.truncated (table.windowLinks codec)) (table.windowLinks codec) := by
  unfold ReportsBroken
  rw [window_spec (0 < ·)]
  simp only [readable_links,Nat.pos_iff_ne_zero,ne_eq,broken_zero]
  constructor
  · intro chain
    obtain ⟨links,⟨reads,same⟩,broken⟩ := chain
    rw [same] at broken
    exact ⟨reads,broken⟩
  · intro chain
    obtain ⟨reads,broken⟩ := chain
    exact ⟨table.windowLinks codec,⟨reads,rfl⟩,broken⟩

theorem optionalInt_injective {one two : Option Int} (same : optionalInt one = optionalInt two) : one = two := by
  cases one <;> cases two <;> simp only [optionalInt,JsonValue.number.injEq,reduceCtorEq] at same
  · rfl
  · rw [int_text_injective same]

theorem optionalText_injective {one two : Option String} (same : optionalText one = optionalText two) : one = two := by
  cases one <;> cases two <;> simp only [optionalText,JsonValue.string.injEq,reduceCtorEq] at same
  · rfl
  · rw [same]

theorem toRfc3339_injective {one two : Instant} (same : codec.toRfc3339 one = codec.toRfc3339 two) : one = two := by
  have back := codec.parse_toRfc3339 one
  rw [same,codec.parse_toRfc3339] at back
  exact (Option.some.inj back).symm

theorem numbers_injective : Function.Injective (Option.map Double.number) := Option.map_injective fun _ _ => Double.number.inj

-- Without collisions a hash determines the hash before it and the sealed event.
theorem seal_free (collisionFree : Function.Injective codec.digest) (previous : Option String) (event : SealedEvent)
    (previous' : Option String) (event' : SealedEvent) (same : codec.seal previous event = codec.seal previous' event') :
    previous = previous' ∧ event = event' := by
  obtain ⟨texts,temperature,stirrer,shake⟩ := controlEventHash_injective collisionFree same
  simp only [List.cons.injEq,JsonValue.string.injEq,and_true] at texts
  obtain ⟨batch,time,kind,link,reason⟩ := texts
  refine ⟨optionalText_injective link,?_⟩
  cases event with
  | mk batchId eventType targetTemperatureC targetStirrerRpm targetShakeSpeedCpm reason moment =>
      cases event'
      simp only [SealedEvent.mk.injEq]
      exact ⟨optionalInt_injective batch,kind,numbers_injective temperature,numbers_injective stirrer,
        numbers_injective shake,reason,toRfc3339_injective time⟩

@[simp] theorem apply_eventHash (modification : Modification) (row : ControlEventRow) :
    (modification.apply row).eventHash = row.eventHash := by cases modification <;> rfl

theorem hashed_length (table : ControlEventTable) : table.hashed.length = table.rows.countP (·.eventHash.isSome) :=
  List.countP_eq_length_filter.symm

theorem hashed_perm {table : ControlEventTable} {row : ControlEventRow} (stored : row ∈ table.hashed) :
    table.rows.Perm (row :: table.rows.erase row) := List.perm_cons_erase (List.mem_filter.mp stored).1

theorem changed_length {table tampered : ControlEventTable} {modification : Modification} {row : ControlEventRow}
    (stored : row ∈ table.hashed) (rows : tampered.rows.Perm (modification.apply row :: table.rows.erase row)) :
    tampered.hashed.length = table.hashed.length := by
  rw [hashed_length,hashed_length,rows.countP_eq,(hashed_perm stored).countP_eq,List.countP_cons,List.countP_cons,
    apply_eventHash]

theorem deleted_length {table tampered : ControlEventTable} {row : ControlEventRow} (stored : row ∈ table.hashed)
    (rows : tampered.rows = table.rows.erase row) : tampered.hashed.length+1 = table.hashed.length := by
  have hashed : row.eventHash.isSome = true := (List.mem_filter.mp stored).2
  rw [hashed_length,hashed_length,rows,(hashed_perm stored).countP_eq,List.countP_cons,if_pos hashed]

theorem exchanged_perm {table : ControlEventTable} {one two : ControlEventRow} (stored : one ∈ table.hashed)
    (stored' : two ∈ table.hashed) (different : one ≠ two) :
    table.rows.Perm (one :: two :: (table.rows.erase one).erase two) := by
  have other : two ∈ table.rows.erase one :=
    (List.mem_erase_of_ne different.symm).mpr (List.mem_filter.mp stored').1
  exact (hashed_perm stored).trans ((List.perm_cons_erase other).cons one)

theorem exchanged_length {table tampered : ControlEventTable} {one two : ControlEventRow} (stored : one ∈ table.hashed)
    (stored' : two ∈ table.hashed) (different : one ≠ two) (rows : tampered.rows.Perm
      ({ one with id := two.id } :: { two with id := one.id } :: (table.rows.erase one).erase two)) :
    tampered.hashed.length = table.hashed.length := by
  rw [hashed_length,hashed_length,rows.countP_eq,(exchanged_perm stored stored' different).countP_eq]
  simp only [List.countP_cons]

-- Each hash in the table that was tampered with is one of the chain.
theorem tampered_hashes {table tampered : ControlEventTable} (tampering : Tampering table tampered) :
    ∀ row ∈ tampered.hashed, ∃ row' ∈ table.hashed, row.eventHash = row'.eventHash := by
  intro row member
  obtain ⟨within,hashed⟩ := List.mem_filter.mp member
  have kept : ∀ removed, row ∈ table.rows.erase removed → ∃ row' ∈ table.hashed, row.eventHash = row'.eventHash :=
    fun removed rest => ⟨row,List.mem_filter.mpr ⟨List.mem_of_mem_erase rest,hashed⟩,rfl⟩
  cases tampering with
  | changed modification old stored rows =>
      rcases List.mem_cons.mp (rows.mem_iff.mp within) with rfl | rest
      · exact ⟨old,stored,apply_eventHash _ _⟩
      · exact kept old rest
  | deleted old stored inner rows =>
      rw [rows] at within
      exact kept old within
  | exchanged one two stored stored' different rows =>
      rcases List.mem_cons.mp (rows.mem_iff.mp within) with rfl | rest
      · exact ⟨one,stored,rfl⟩
      · rcases List.mem_cons.mp rest with rfl | rest
        · exact ⟨two,stored',rfl⟩
        · exact kept one (List.mem_of_mem_erase rest)

section CollisionFree
variable (collisionFree : Function.Injective codec.digest)
include collisionFree

theorem tampered_made {table tampered : ControlEventTable} (valid : ValidChain codec table)
    (tampering : Tampering table tampered) {rows : List ControlEventRow} (within : ∀ row ∈ rows, row ∈ tampered.hashed)
    {start : Option String} (holds : Intact codec.seal start (rows.map (ControlEventRow.link codec))) :
    ∀ link ∈ rows.map (ControlEventRow.link codec), link ∈ table.links codec := by
  intro link member
  obtain ⟨row,stored,rfl⟩ := List.mem_map.mp member
  obtain ⟨row',stored',same⟩ := tampered_hashes tampering row (within row stored)
  have original : row'.link codec ∈ table.links codec := List.mem_map_of_mem stored'
  rw [intact_replaced (seal_free collisionFree) (validChain_links.mp valid).2 original holds member same]
  exact original

theorem tampered_intact {table tampered : ControlEventTable} (valid : ValidChain codec table)
    (tampering : Tampering table tampered) (holds : Intact codec.seal none (tampered.links codec)) :
    tampered.links codec = table.links codec := by
  have free := seal_free collisionFree
  have chain := (validChain_links.mp valid).2
  have made := tampered_made collisionFree valid tampering (fun _ member => member) holds
  have beginning : tampered.links codec <+: table.links codec := intact_prefix free chain made holds
  cases tampering with
  | changed modification row stored rows =>
      exact beginning.eq_of_length (by simpa [ControlEventTable.links] using changed_length stored rows)
  | exchanged one two stored stored' different rows =>
      exact beginning.eq_of_length (by simpa [ControlEventTable.links] using exchanged_length stored stored' different rows)
  | deleted row stored inner rows =>
      -- The last event is still there, but the beginning that is left ends before it.
      have shorter := deleted_length stored rows
      cases hashed : table.hashed using List.reverseRecOn with
      | nil =>
          rw [hashed] at stored
          cases stored
      | append_singleton older last =>
          have other : last ≠ row := by
            intro same
            apply inner
            rw [hashed,List.getLast?_concat,same]
          have member : last ∈ table.hashed := by simp [hashed]
          have left : last ∈ tampered.hashed := by
            obtain ⟨within,isHashed⟩ := List.mem_filter.mp member
            apply List.mem_filter.mpr
            rw [rows]
            exact ⟨(List.mem_erase_of_ne other).mpr within,isHashed⟩
          have parts : table.links codec = older.map (ControlEventRow.link codec) ++ [last.link codec] := by
            rw [ControlEventTable.links,hashed,List.map_append]
            rfl
          have before : tampered.links codec = older.map (ControlEventRow.link codec) := by
            rw [parts] at beginning
            apply List.IsPrefix.eq_of_length
            · apply List.prefix_of_prefix_length_le beginning (List.prefix_append _ _)
              rw [hashed] at shorter
              simp [ControlEventTable.links] at shorter ⊢
              omega
            · rw [hashed] at shorter
              simp [ControlEventTable.links] at shorter ⊢
              omega
          have twice : last.link codec ∈ older.map (ControlEventRow.link codec) := by
            rw [←before]
            exact List.mem_map_of_mem left
          have once := intact_nodup free chain
          rw [parts,List.nodup_append] at once
          exact absurd rfl (once.2.2 _ twice _ (by simp))

theorem window_intact {table tampered : ControlEventTable} (valid : ValidChain codec table)
    (tampering : Tampering table tampered) :
    Intact codec.seal (windowStart true (tampered.windowLinks codec)) (tampered.windowLinks codec) ↔
      tampered.windowLinks codec <:+: table.links codec := by
  have chain := (validChain_links.mp valid).2
  constructor
  · intro holds
    have within : ∀ row ∈ tampered.window, row ∈ tampered.hashed := fun _ member => List.mem_of_mem_drop member
    exact intact_infix (seal_free collisionFree) chain (tampered_made collisionFree valid tampering within holds) holds
  · intro piece
    obtain ⟨older,newer,whole⟩ := piece
    rw [←whole] at chain
    generalize tampered.windowLinks codec = links at chain
    cases links with
    | nil => trivial
    | cons link links => exact intact_window (intact_append.mp chain).1

end CollisionFree

theorem window_whole {table : ControlEventTable} (whole : table.truncated = false) : table.window = table.hashed := by
  rw [ControlEventTable.window,within_limit whole,List.drop_zero]

-- Rows that are replaced under their ids keep their places.
theorem replaced_links {table tampered : ControlEventTable} (replace : ControlEventRow → ControlEventRow)
    (ids : ∀ row, (replace row).id = row.id) (hashes : ∀ row, (replace row).eventHash.isSome = row.eventHash.isSome)
    (rows : tampered.rows.Perm (table.rows.map replace)) :
    tampered.links codec = table.hashed.map (fun row => (replace row).link codec) := by
  have ordered : (table.rows.map replace).Pairwise (·.id < ·.id) := by
    rw [List.pairwise_map]
    exact table.ordered.imp fun before => by rwa [ids,ids]
  have same : tampered.rows = table.rows.map replace := by
    apply List.Perm.eq_of_pairwise _ tampered.ordered ordered rows
    intro one two _ _ before after
    omega
  have kept : (fun row : ControlEventRow => row.eventHash.isSome) ∘ replace = fun row => row.eventHash.isSome :=
    funext hashes
  rw [ControlEventTable.links,ControlEventTable.hashed,same,List.filter_map,kept,List.map_map]
  rfl

theorem rows_nodup (table : ControlEventTable) : table.rows.Nodup :=
  table.ordered.imp fun before same => by rw [same] at before; exact lt_irrefl _ before

theorem map_off {rows : List ControlEventRow} {replace : ControlEventRow → ControlEventRow}
    (off : ∀ row ∈ rows, replace row = row) : rows.map replace = rows := by
  rw [List.map_congr_left off,List.map_id']

-- A field other than the id is read where the hash is over it: not the actor, the role or
-- another way to write the time.
theorem change_read {table tampered : ControlEventTable} {modification : Modification} {row : ControlEventRow}
    (stored : row ∈ table.hashed) (placed : ∀ row, (modification.apply row).id = row.id)
    (rows : tampered.rows.Perm (modification.apply row :: table.rows.erase row)) :
    tampered.links codec = table.links codec ↔ (modification.apply row).link codec = row.link codec := by
  let replace := fun other => if other = row then modification.apply row else other
  have kept : (table.rows.erase row).map replace = table.rows.erase row := by
    apply map_off
    intro other rest
    exact if_neg ((rows_nodup table).mem_erase_iff.mp rest).1
  have whole : tampered.rows.Perm (table.rows.map replace) := by
    have split := (hashed_perm stored).map replace
    rw [List.map_cons,kept,show replace row = modification.apply row from if_pos rfl] at split
    exact rows.trans split.symm
  rw [replaced_links replace _ _ whole,ControlEventTable.links,List.map_inj_left]
  · constructor
    · intro same
      simpa [replace] using same row stored
    · intro same other _
      by_cases equal : other = row
      · simp [replace,equal,same]
      · simp [replace,equal]
  · intro other
    by_cases equal : other = row
    · simp [replace,equal,placed]
    · simp [replace,equal]
  · intro other
    by_cases equal : other = row
    · simp [replace,equal]
    · simp [replace,equal]

theorem deletion_read {table tampered : ControlEventTable} {row : ControlEventRow} (stored : row ∈ table.hashed)
    (rows : tampered.rows = table.rows.erase row) : tampered.links codec ≠ table.links codec := by
  intro same
  have lengths := congrArg List.length same
  have shorter := deleted_length stored rows
  simp only [ControlEventTable.links,List.length_map] at lengths
  omega

theorem exchange_read (collisionFree : Function.Injective codec.digest) {table tampered : ControlEventTable}
    (valid : ValidChain codec table) {one two : ControlEventRow} (stored : one ∈ table.hashed) (stored' : two ∈ table.hashed)
    (different : one ≠ two) (rows : tampered.rows.Perm
      ({ one with id := two.id } :: { two with id := one.id } :: (table.rows.erase one).erase two)) :
    tampered.links codec ≠ table.links codec := by
  let replace : ControlEventRow → ControlEventRow := fun other =>
    if other = one then { two with id := one.id } else if other = two then { one with id := two.id } else other
  have nodup := rows_nodup table
  have kept : ((table.rows.erase one).erase two).map replace = (table.rows.erase one).erase two := by
    apply map_off
    intro other rest
    obtain ⟨second,before⟩ := (nodup.erase one).mem_erase_iff.mp rest
    simp [replace,second,(nodup.mem_erase_iff.mp before).1]
  have whole : tampered.rows.Perm (table.rows.map replace) := by
    have split := (exchanged_perm stored stored' different).map replace
    rw [List.map_cons,List.map_cons,kept,show replace one = { two with id := one.id } from if_pos rfl,
      show replace two = { one with id := two.id } by simp [replace,different.symm]] at split
    exact rows.trans ((List.Perm.swap _ _ _).trans split.symm)
  rw [replaced_links replace _ _ whole,ControlEventTable.links,ne_eq,List.map_inj_left]
  · intro same
    have links : two.link codec = one.link codec := by simpa [replace,ControlEventRow.link] using same one stored
    have once := intact_nodup (seal_free collisionFree) (validChain_links.mp valid).2
    exact different (List.inj_on_of_nodup_map once stored stored' links.symm)
  · intro other
    by_cases first : other = one
    · simp [replace,first]
    · by_cases second : other = two
      · simp [replace,second,different.symm]
      · simp [replace,first,second]
  · intro other
    have hashed := (List.mem_filter.mp stored).2
    have hashed' := (List.mem_filter.mp stored').2
    by_cases first : other = one
    · simp [replace,first,hashed,hashed']
    · by_cases second : other = two
      · simp [replace,second,different.symm,hashed,hashed']
      · simp [replace,first,second]

-- A modification that was made of a valid chain is reported exactly if every row can still
-- be read and what the verifier reads of them differs: never for the actor and the role.
theorem tamper_evident_iff (collisionFree : Function.Injective codec.digest) {table tampered : ControlEventTable}
    (valid : ValidChain codec table) (tampering : Tampering table tampered) :
    (ReportsBroken (fullAuditChainStatusForDiagnostics codec) tampered ↔
      (∀ row ∈ tampered.hashed, Reads codec row) ∧ tampered.links codec ≠ table.links codec) ∧
    (ReportsBroken (auditChainStatus codec) tampered ↔ (∀ row ∈ tampered.window, Reads codec row) ∧
      if tampered.truncated = true then ¬tampered.windowLinks codec <:+: table.links codec
      else tampered.links codec ≠ table.links codec) := by
  have whole : Intact codec.seal none (tampered.links codec) ↔ tampered.links codec = table.links codec := by
    constructor
    · exact tampered_intact collisionFree valid tampering
    · intro same
      rw [same]
      exact (validChain_links.mp valid).2
  constructor
  · rw [reportsBroken_full,whole]
  · rw [reportsBroken_window]
    cases truncated : tampered.truncated with
    | true => rw [window_intact collisionFree valid tampering,if_pos rfl]
    | false =>
        rw [windowStart,if_neg (by simp),ControlEventTable.windowLinks,window_whole truncated,if_neg (by simp)]
        rw [←ControlEventTable.links,whole]

end Codec

def seededTable : ControlEventTable := ControlEventTable.empty.store benchCodec seedEvent none

-- The seed's row under another actor and with another reason.
def forgedTable : ControlEventTable :=
  ControlEventTable.empty.insert (fun id => (Modification.actor "operator").apply (controlEventRow benchCodec seedEvent none id))
    fun _ => rfl

def rewrittenTable : ControlEventTable :=
  ControlEventTable.empty.insert (fun id => (Modification.reason "seeded").apply (controlEventRow benchCodec seedEvent none id))
    fun _ => rfl

theorem seeded_valid : ValidChain benchCodec seededTable := (chainGiven_store rfl).kept (empty_valid _) ⟨rfl,seedEvent_plain⟩

theorem seeded_tampering {modification : Modification} {tampered : ControlEventTable}
    (rows : tampered.rows = [modification.apply (controlEventRow benchCodec seedEvent none 1)]) :
    Tampering seededTable tampered := by
  apply Tampering.changed modification (controlEventRow benchCodec seedEvent none 1)
  · exact List.mem_singleton_self _
  · rw [rows]
    change List.Perm _ (_ :: List.erase [controlEventRow benchCodec seedEvent none 1] _)
    rw [List.erase_cons_head]

theorem tamper_evident_iff_rewritten : ReportsBroken (fullAuditChainStatusForDiagnostics benchCodec) rewrittenTable := by
  apply (tamper_evident_iff benchDigest_injective seeded_valid (seeded_tampering rfl)).1.mpr
  refine ⟨?_,?_⟩
  · intro row stored
    obtain rfl := List.mem_singleton.mp stored
    exact ⟨rfl,rfl⟩
  · intro same
    have reasons := congrArg (List.map (·.body.reason)) same
    exact absurd reasons (by decide)

theorem valid_unreported {codec : AuditCodec} {table : ControlEventTable} (valid : ValidChain codec table) :
    ¬ReportsBroken (fullAuditChainStatusForDiagnostics codec) table ∧ ¬ReportsBroken (auditChainStatus codec) table := by
  constructor
  · intro reported
    obtain ⟨status,done,unbroken⟩ := valid
    obtain ⟨status',done',positive⟩ := reported
    obtain rfl := Except.ok.inj (done.symm.trans done')
    omega
  · intro reported
    obtain ⟨status,done,unbroken⟩ := validChain_window valid
    obtain ⟨status',done',positive⟩ := reported
    obtain rfl := Except.ok.inj (done.symm.trans done')
    omega

-- Who did it can be rewritten.
theorem actor_unreported : Function.Injective benchCodec.digest ∧ ValidChain benchCodec seededTable ∧
    Tampering seededTable forgedTable ∧ forgedTable.rows.map (·.actor) = ["operator"] ∧
    seededTable.rows.map (·.actor) = ["system"] ∧
    ¬ReportsBroken (fullAuditChainStatusForDiagnostics benchCodec) forgedTable ∧
    ¬ReportsBroken (auditChainStatus benchCodec) forgedTable := by
  have forged : ValidChain benchCodec forgedTable := by
    obtain ⟨reads,intact⟩ := validChain_links.mp seeded_valid
    refine validChain_links.mpr ⟨?_,intact⟩
    intro row stored
    obtain rfl := List.mem_singleton.mp stored
    exact ⟨rfl,rfl⟩
  exact ⟨benchDigest_injective,seeded_valid,seeded_tampering rfl,rfl,rfl,valid_unreported forged⟩

end ReactorOS
