import ReactorOS.Serial
namespace ReactorOS
open Wire

-- The lines of so many `read_sample` calls.
def lineReads (config : Esp32Config) : Nat → List PortRead → List String
  | 0,_ => []
  | calls+1,port =>
      match sampleLine config port with
      | (.ok line,port) => line :: lineReads config calls port
      | (.error _,port) => lineReads config calls port

structure IsLine (maxBytes : Nat) (line : List UInt8) : Prop where
  ended : ∃ text, line = text ++ [newline] ∧ newline ∉ text
  bounded : line.length ≤ maxBytes

-- No read reaches beyond the newline that ends a line, and a read without bytes comes
-- between two lines. `between` says that the reads so far have ended with a line.
def LineAligned (between : Bool) : List PortRead → Prop
  | [] => True
  | .timedOut :: port | .data [] :: port => between ∧ LineAligned between port
  | .data (byte :: bytes) :: port => newline ∉ (byte :: bytes).dropLast ∧
      LineAligned ((byte :: bytes).getLast? == some newline) port

-- A text has one first newline.
theorem cut_unique {one other behind rest : List UInt8} (absent : newline ∉ one) (plain : newline ∉ other)
    (same : one ++ newline :: behind = other ++ newline :: rest) : one = other ∧ behind = rest := by
  induction one generalizing other with
  | nil =>
      cases other with
      | nil => exact ⟨rfl,(List.cons.inj same).2⟩
      | cons byte other => exact absurd (List.cons.inj same).1 fun equal => plain (equal ▸ List.mem_cons_self)
  | cons byte one ih =>
      cases other with
      | nil => exact absurd (List.cons.inj same).1 fun equal => absent (equal ▸ List.mem_cons_self)
      | cons first other =>
          obtain ⟨equal,same⟩ := List.cons.inj same
          obtain ⟨front,back⟩ := ih (fun inside => absent (List.mem_cons_of_mem _ inside))
            (fun inside => plain (List.mem_cons_of_mem _ inside)) same
          exact ⟨by rw [equal,front],back⟩

-- A text that has not come to a newline yet is a part of the first line.
theorem first_line {maxBytes : Nat} {lines : List (List UInt8)} (terminated : ∀ line ∈ lines, IsLine maxBytes line)
    {buf rest : List UInt8} (absent : newline ∉ buf) (whole : buf ++ rest = lines.flatten) :
    buf.length ≤ maxBytes ∧ (rest = [] → buf = [] ∧ lines = []) := by
  cases lines with
  | nil =>
      obtain ⟨rfl,empty⟩ := List.append_eq_nil_iff.mp whole
      exact ⟨Nat.zero_le _,fun _ => ⟨rfl,rfl⟩⟩
  | cons line lines =>
      obtain ⟨⟨text,rfl,plain⟩,bounded⟩ := terminated line (by simp)
      rw [List.flatten_cons,List.append_assoc] at whole
      rcases List.append_eq_append_iff.mp whole with ⟨more,front,back⟩ | ⟨more,front,back⟩
      · subst front
        refine ⟨?_,fun empty => ?_⟩
        · simp only [List.length_append] at bounded
          omega
        · rw [empty] at back
          cases more <;> simp at back
      · cases more with
        | nil =>
            rw [List.append_nil] at front
            subst front
            refine ⟨?_,fun empty => ?_⟩
            · simp only [List.length_append] at bounded
              omega
            · rw [empty] at back
              cases back
        | cons byte more =>
            have same : newline = byte := (List.cons.inj back).1
            rw [front,same] at absent
            exact absurd (by simp) absent

-- A call that has `buf` of its line already.
def lineReadsFrom (config : Esp32Config) (calls : Nat) (buf : List UInt8) (reader : BufReader) : List String :=
  match collectLine config.maxLineBytes buf reader with
  | (.error _,rest) => lineReads config calls rest.port
  | (.ok buf,rest) =>
      match decodeUtf8 buf with
      | none => lineReads config calls rest.port
      | some line =>
          if buf = [] ∨ config.maxLineBytes < buf.length then lineReads config calls rest.port
          else line :: lineReads config calls rest.port

theorem lineReads_from (config : Esp32Config) (calls : Nat) (port : List PortRead) :
    lineReads config (calls+1) port = lineReadsFrom config calls [] ⟨[],port⟩ := by
  unfold lineReadsFrom
  rw [lineReads,sampleLine,readBoundedLine]
  cases read : collectLine config.maxLineBytes [] ⟨[],port⟩ with
  | mk line rest =>
      cases line with
      | error err => rfl
      | ok buf =>
          simp only
          cases decodeUtf8 buf with
          | none => rfl
          | some line =>
              simp only [List.length_eq_zero_iff]
              by_cases empty : buf = []
              · simp [empty]
              · by_cases long : config.maxLineBytes < buf.length
                · simp [empty,long]
                · simp [empty,long]

def returned (lines : List String) : List UInt8 := (lines.map asBytes).flatten

-- No call makes bytes up.
theorem lineReads_length (config : Esp32Config) (calls : Nat) (port : List PortRead) :
    (returned (lineReads config calls port)).length ≤ (incoming port).length := by
  induction calls generalizing port with
  | zero => exact Nat.zero_le _
  | succ calls ih =>
      obtain ⟨taken,whole,line⟩ := collectLine_waiting config.maxLineBytes [] ⟨[],port⟩
      rw [lineReads_from,lineReadsFrom]
      cases read : collectLine config.maxLineBytes [] ⟨[],port⟩ with
      | mk result rest =>
          rw [read] at whole line
          have counts : (incoming port).length = taken.length + (rest.buffer.length + (incoming rest.port).length) := by
            simpa [BufReader.waiting] using congrArg List.length whole
          have later := ih rest.port
          cases result with
          | error err => exact Nat.le_trans later (by omega)
          | ok buf =>
              have same : buf = taken := line buf rfl
              subst same
              cases decoded : decodeUtf8 buf with
              | none => simp only [decoded]; omega
              | some text =>
                  have bytes := decodeUtf8_some.mp decoded
                  simp only [decoded]
                  split
                  · omega
                  · simp only [returned,List.map_cons,List.flatten_cons,List.length_append,bytes] at later ⊢
                    omega

theorem lineReads_short {config : Esp32Config} {calls : Nat} {port : List PortRead} {lines : List (List UInt8)}
    (lost : (incoming port).length < lines.flatten.length) : (lineReads config calls port).map asBytes ≠ lines := by
  intro same
  have enough := lineReads_length config calls port
  rw [returned,same] at enough
  omega

def Utf8 (line : List UInt8) : Prop := ∃ text, asBytes text = line

theorem decodeUtf8_none {bytes : List UInt8} (invalid : decodeUtf8 bytes = none) : ¬Utf8 bytes := by
  intro ⟨text,same⟩
  rw [decodeUtf8_some.mpr same] at invalid
  cases invalid

variable {config : Esp32Config}

theorem lineReadsFrom_failed {calls : Nat} {buf : List UInt8} {reader rest : BufReader} {err : ReadError}
    (failed : collectLine config.maxLineBytes buf reader = (.error err,rest)) :
    lineReadsFrom config calls buf reader = lineReads config calls rest.port := by
  rw [lineReadsFrom,failed]

theorem lineReads_silent (calls : Nat) : lineReads config calls [] = [] := by
  induction calls with
  | zero => rfl
  | succ calls ih => rw [lineReads_from,lineReadsFrom_failed (collectLine_silent _ _),ih]

-- The call that completes a line, and what it drops.
theorem lineReadsFrom_newline {buf text : List UInt8} {lines : List (List UInt8)} (calls : Nat)
    (bounded : (buf ++ text ++ [newline]).length ≤ config.maxLineBytes) (absent : newline ∉ text)
    (rest : List UInt8) {port : List PortRead} (fewer : (incoming port).length ≤ lines.flatten.length) :
    (lineReadsFrom config calls buf ⟨text ++ newline :: rest,port⟩).map asBytes = (buf ++ text ++ [newline]) :: lines ↔
      Utf8 (buf ++ text ++ [newline]) ∧ (lineReads config calls port).map asBytes = lines := by
  have room : (buf ++ text).length ≤ config.maxLineBytes := by
    simp only [List.length_append] at bounded ⊢
    omega
  rw [lineReadsFrom,collectLine_plain absent room,collectLine_newline]
  cases decoded : decodeUtf8 (buf ++ text ++ [newline]) with
  | none =>
      have lost : (incoming port).length < ((buf ++ text ++ [newline]) :: lines).flatten.length := by
        simp only [List.flatten_cons,List.length_append,List.length_cons]
        omega
      simp only [decoded]
      exact ⟨fun same => absurd same (lineReads_short lost),fun ⟨valid,_⟩ => absurd valid (decodeUtf8_none decoded)⟩
  | some line =>
      have bytes := decodeUtf8_some.mp decoded
      have kept : ¬(buf ++ text ++ [newline] = [] ∨ config.maxLineBytes < (buf ++ text ++ [newline]).length) := by
        rintro (empty | long)
        · simp at empty
        · omega
      simp only [decoded,if_neg kept,List.map_cons,bytes,List.cons.injEq,true_and]
      exact ⟨fun same => ⟨⟨line,bytes⟩,same⟩,And.right⟩

-- The calls that start with nothing buffered.
theorem lineReads_next {port : List PortRead} {lines : List (List UInt8)} {calls : Nat}
    (terminated : ∀ line ∈ lines, IsLine config.maxLineBytes line) (whole : incoming port = lines.flatten)
    (enough : port.length ≤ calls)
    (started : ∀ calls, port.length ≤ calls+1 → ((lineReadsFrom config calls [] ⟨[],port⟩).map asBytes = lines ↔
      LineAligned true port ∧ ∀ line ∈ lines, Utf8 line)) :
    (lineReads config calls port).map asBytes = lines ↔ LineAligned true port ∧ ∀ line ∈ lines, Utf8 line := by
  cases calls with
  | zero =>
      obtain rfl := List.length_eq_zero_iff.mp (Nat.le_zero.mp enough)
      obtain ⟨_,rfl⟩ := (first_line terminated (List.not_mem_nil (a := newline)) whole).2 rfl
      simp [lineReads,LineAligned]
  | succ calls =>
      rw [lineReads_from]
      exact started calls enough

-- A call that has `buf` already and those after it return what is there, line by line.
theorem lineReadsFrom_iff {port : List PortRead} {buf : List UInt8} {lines : List (List UInt8)} {calls : Nat}
    (terminated : ∀ line ∈ lines, IsLine config.maxLineBytes line) (absent : newline ∉ buf)
    (whole : buf ++ incoming port = lines.flatten) (enough : port.length ≤ calls+1) :
    (lineReadsFrom config calls buf ⟨[],port⟩).map asBytes = lines ↔
      LineAligned buf.isEmpty port ∧ ∀ line ∈ lines, Utf8 line := by
  induction port generalizing buf lines calls with
  | nil =>
      obtain ⟨rfl,rfl⟩ := (first_line terminated absent whole).2 rfl
      rw [lineReadsFrom_failed (collectLine_silent _ _),lineReads_silent]
      simp [LineAligned]
  | cons read port ih =>
      have next : ∀ {lines}, (∀ line ∈ lines, IsLine config.maxLineBytes line) → incoming port = lines.flatten →
          ((lineReads config calls port).map asBytes = lines ↔ LineAligned true port ∧ ∀ line ∈ lines, Utf8 line) := by
        intro lines terminated whole
        exact lineReads_next terminated whole (by simpa using enough) fun calls enough =>
          ih terminated List.not_mem_nil whole enough
      have broken : buf ≠ [] → incoming (read :: port) = incoming port → (incoming port).length < lines.flatten.length := by
        intro nonempty same
        rw [←whole,same,List.length_append]
        have := List.length_pos_iff.mpr nonempty
        omega
      have short := (first_line terminated absent whole).1
      rcases read with _ | _
      · rename_i bytes
        cases bytes with
        | nil =>
            rw [lineReadsFrom,collectLine_ended]
            cases buf with
            | nil =>
                have empty : decodeUtf8 [] = some "" := decodeUtf8_some.mpr rfl
                simp only [empty,true_or,if_true]
                exact (next terminated whole).trans (by simp [LineAligned])
            | cons byte buf =>
                simp only [LineAligned,List.isEmpty_cons,Bool.false_eq_true,false_and,iff_false]
                cases decoded : decodeUtf8 (byte :: buf) with
                | none => exact lineReads_short (broken (by simp) rfl)
                | some text =>
                    simp only
                    rw [if_neg (by simp only [reduceCtorEq,false_or]; omega)]
                    intro same
                    rw [List.map_cons,decodeUtf8_some.mp decoded] at same
                    obtain ⟨⟨text,ended,_⟩,_⟩ := terminated (byte :: buf) (same ▸ List.mem_cons_self)
                    rw [ended] at absent
                    exact absent (by simp)
        | cons byte bytes =>
            rw [lineReadsFrom,collectLine_fetch,←lineReadsFrom]
            generalize chunked : byte :: bytes = chunk at *
            have aligned : LineAligned buf.isEmpty (.data chunk :: port) ↔
                newline ∉ chunk.dropLast ∧ LineAligned (chunk.getLast? == some newline) port := by
              rw [←chunked]; rfl
            have whole' : buf ++ chunk ++ incoming port = lines.flatten := by
              rw [←whole,List.append_assoc]; rfl
            rw [aligned]
            by_cases inside : newline ∈ chunk
            · obtain ⟨text,rest,shape,absentText⟩ := List.eq_append_cons_of_mem inside
              subst shape
              cases lines with
              | nil => simp at whole'
              | cons line lines =>
                  obtain ⟨⟨original,rfl,plain⟩,bounded⟩ := terminated line (by simp)
                  have cut : buf ++ text ++ newline :: (rest ++ incoming port) = original ++ newline :: lines.flatten := by
                    simpa using whole'
                  obtain ⟨rfl,behind⟩ := cut_unique (by simp [absent,absentText]) plain cut
                  have counts : rest.length + (incoming port).length = lines.flatten.length := by
                    rw [←behind,List.length_append]
                  rw [lineReadsFrom_newline calls bounded absentText rest (by omega),List.forall_mem_cons]
                  cases rest with
                  | nil =>
                      rw [next (fun line inside => terminated line (by simp [inside])) behind]
                      simp [absentText,and_left_comm]
                  | cons extra rest =>
                      have lost : (lineReads config calls port).map asBytes ≠ lines :=
                        lineReads_short (by simp only [List.length_cons] at counts; omega)
                      simp [lost]
            · have absent' : newline ∉ buf ++ chunk := by simp [absent,inside]
              have more : (buf ++ chunk).isEmpty = false := by rw [←chunked]; simp
              have last : (chunk.getLast? == some newline) = false := by
                simpa using fun ends => inside (List.mem_of_getLast? ends)
              have plain := collectLine_plain inside (first_line terminated absent' whole').1 [] port
              rw [List.append_nil] at plain
              rw [lineReadsFrom,plain,←lineReadsFrom,ih terminated absent' whole' (by simpa using Nat.le_of_succ_le enough),
                more,last]
              exact and_congr_left fun _ => ⟨fun aligned => ⟨fun before => inside (List.mem_of_mem_dropLast before),aligned⟩,
                And.right⟩
      · rw [lineReadsFrom_failed (collectLine_timedOut _ _ _)]
        cases buf with
        | nil => exact (next terminated whole).trans (by simp [LineAligned])
        | cons byte buf =>
            simp only [LineAligned,List.isEmpty_cons,Bool.false_eq_true,false_and,iff_false]
            exact lineReads_short (broken (by simp) rfl)

theorem lines_read_once_iff (config : Esp32Config) (lines : List (List UInt8))
    (terminated : ∀ line ∈ lines, IsLine config.maxLineBytes line) (port : List PortRead)
    (whole : incoming port = lines.flatten) (calls : Nat) (enough : port.length + lines.length ≤ calls) :
    (lineReads config calls port).map asBytes = lines ↔ LineAligned true port ∧ ∀ line ∈ lines, Utf8 line :=
  lineReads_next terminated whole (Nat.le_of_add_right_le enough) fun _ => lineReadsFrom_iff terminated List.not_mem_nil whole

def benchLine (number : Nat) : List UInt8 := asBytes s!"RX|v=1|seq={number}\n"

theorem benchLine_isLine : ∀ line ∈ [benchLine 1,benchLine 2], IsLine 256 line := by
  have one : IsLine 256 (benchLine 1) := ⟨⟨asBytes "RX|v=1|seq=1",by decide,by decide⟩,by decide⟩
  have two : IsLine 256 (benchLine 2) := ⟨⟨asBytes "RX|v=1|seq=2",by decide,by decide⟩,by decide⟩
  simp [one,two]

theorem lines_read_once_bench :
    (∀ line ∈ [benchLine 1,benchLine 2], IsLine 256 line) ∧
    incoming [.data (benchLine 1),.timedOut,.data (benchLine 2)] = [benchLine 1,benchLine 2].flatten ∧ 3+2 ≤ 5 ∧
    (lineReads .shipped 5 [.data (benchLine 1),.timedOut,.data (benchLine 2)]).map asBytes = [benchLine 1,benchLine 2] :=
  ⟨benchLine_isLine,by decide,by decide,
    (lines_read_once_iff .shipped [benchLine 1,benchLine 2] benchLine_isLine
      [.data (benchLine 1),.timedOut,.data (benchLine 2)] (by decide) 5 (by decide)).mpr
      ⟨⟨by decide,rfl,by decide,trivial⟩,by simp [Utf8,benchLine]⟩⟩

-- Two lines that one read hands over: the second is gone with the first call.
theorem second_line_lost : ¬∀ (config : Esp32Config) (lines : List (List UInt8)) (port : List PortRead),
    (∀ line ∈ lines, IsLine config.maxLineBytes line ∧ Utf8 line) → (∀ read ∈ port, read ≠ .timedOut ∧ read ≠ .data []) →
    incoming port = lines.flatten → ∀ calls, port.length + lines.length ≤ calls →
    (lineReads config calls port).map asBytes = lines := by
  intro holds
  have both : ∀ line ∈ [benchLine 1,benchLine 2], IsLine 256 line ∧ Utf8 line := fun line inside =>
    ⟨benchLine_isLine line inside,by
      simp only [List.mem_cons,List.not_mem_nil,or_false] at inside
      rcases inside with rfl | rfl <;> exact ⟨_,rfl⟩⟩
  have all := holds .shipped [benchLine 1,benchLine 2] [.data (benchLine 1 ++ benchLine 2)] both (by decide) (by decide)
    3 (by decide)
  rw [lineReads_from,lineReadsFrom_iff benchLine_isLine List.not_mem_nil (by decide) (by decide)] at all
  exact absurd all.1.1 (by decide)

end ReactorOS
