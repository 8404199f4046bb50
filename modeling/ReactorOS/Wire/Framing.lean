import Mathlib.Data.List.Basic
namespace Wire

-- Exactly so many bytes from the chunks that a stream arrives in, and what it is left with;
-- nothing if the stream ends before.
def readExact : Nat → List (List UInt8) → Option (List UInt8 × List (List UInt8))
  | n,[] => if n = 0 then some ([],[]) else none
  | n,chunk :: chunks =>
      if n ≤ chunk.length then some (chunk.take n,chunk.drop n :: chunks)
      else (readExact (n-chunk.length) chunks).map fun (bytes,rest) => (chunk ++ bytes,rest)

theorem readExact_some {n : Nat} {chunks rest : List (List UInt8)} {bytes : List UInt8}
    (read : readExact n chunks = some (bytes,rest)) : bytes.length = n ∧ chunks.flatten = bytes ++ rest.flatten := by
  induction chunks generalizing n bytes with
  | nil =>
      rw [readExact] at read
      split at read
      · rename_i none
        cases read
        exact ⟨none.symm,rfl⟩
      · cases read
  | cons chunk chunks ih =>
      rw [readExact] at read
      split at read
      · rename_i enough
        cases read
        exact ⟨List.length_take_of_le enough,by simp [←List.append_assoc]⟩
      · rename_i more
        obtain ⟨⟨later,left⟩,found,same⟩ := Option.map_eq_some_iff.mp read
        cases same
        obtain ⟨counts,whole⟩ := ih found
        refine ⟨?_,?_⟩
        · rw [List.length_append,counts]
          omega
        · rw [List.flatten_cons,whole,List.append_assoc]

theorem readExact_none {n : Nat} {chunks : List (List UInt8)} (ended : readExact n chunks = none) :
    chunks.flatten.length < n := by
  induction chunks generalizing n with
  | nil =>
      rw [readExact] at ended
      split at ended
      · cases ended
      · simp only [List.flatten_nil,List.length_nil]
        omega
  | cons chunk chunks ih =>
      rw [readExact] at ended
      split at ended
      · cases ended
      · have later := ih (Option.map_eq_none_iff.mp ended)
        rw [List.flatten_cons,List.length_append]
        omega

-- A number of two bytes, the high one first.
def bigEndian (number : Nat) : List UInt8 := [UInt8.ofNat (number/256),UInt8.ofNat number]

def fromBigEndian (high low : UInt8) : Nat := high.toNat*256 + low.toNat

theorem fromBigEndian_lt (high low : UInt8) : fromBigEndian high low < 65536 := by
  have top := high.toNat_lt
  have bottom := low.toNat_lt
  unfold fromBigEndian
  omega

theorem bigEndian_from (high low : UInt8) : bigEndian (fromBigEndian high low) = [high,low] := by
  have bottom := low.toNat_lt
  have first : (high.toNat*256 + low.toNat)/256 = high.toNat := by omega
  unfold bigEndian fromBigEndian
  rw [first]
  congr 1
  · exact UInt8.ofNat_toNat
  · congr 1
    apply UInt8.toNat_inj.mp
    rw [UInt8.toNat_ofNat']
    omega

theorem fromBigEndian_bigEndian {number : Nat} (fits : number < 65536) :
    fromBigEndian (UInt8.ofNat (number/256)) (UInt8.ofNat number) = number := by
  unfold fromBigEndian
  rw [UInt8.toNat_ofNat',UInt8.toNat_ofNat']
  omega

end Wire
