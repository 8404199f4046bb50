import Mathlib.Data.List.Basic
import Mathlib.Data.List.Infix
namespace HashChain
variable {B H : Type}

-- An entry as it is stored: the hash that it names as its predecessor, its own hash
-- and what the hash is over besides.
@[ext]
structure Link (B H : Type) where
  previous : Option H
  hash : Option H
  body : B

variable (digest : Option H → B → H)

def Follows (previous : Option H) (link : Link B H) : Prop :=
  link.previous = previous ∧ link.hash = some (digest previous link.body)

instance [DecidableEq H] (previous : Option H) (link : Link B H) : Decidable (Follows digest previous link) :=
  inferInstanceAs (Decidable (_ ∧ _))

-- The number of entries that do not fit behind their predecessor.
def broken [DecidableEq H] : Option H → List (Link B H) → Nat
  | _,[] => 0
  | previous,link :: links => (if Follows digest previous link then 0 else 1) + broken link.hash links

def Intact : Option H → List (Link B H) → Prop
  | _,[] => True
  | previous,link :: links => Follows digest previous link ∧ Intact link.hash links

def tail (previous : Option H) (links : List (Link B H)) : Option H :=
  match links.getLast? with
  | some link => link.hash
  | none => previous

variable {digest}

theorem broken_zero [DecidableEq H] {previous : Option H} {links : List (Link B H)} :
    broken digest previous links = 0 ↔ Intact digest previous links := by
  induction links generalizing previous with
  | nil => exact ⟨fun _ => trivial,fun _ => rfl⟩
  | cons link links ih =>
      rw [broken,Nat.add_eq_zero_iff,ih,Intact]
      by_cases fits : Follows digest previous link <;> simp [fits]

@[simp] theorem tail_snoc (previous : Option H) (links : List (Link B H)) (link : Link B H) :
    tail previous (links ++ [link]) = link.hash := by simp [tail]

theorem tail_cons (previous : Option H) (link : Link B H) (links : List (Link B H)) :
    tail previous (link :: links) = tail link.hash links := by
  cases links with
  | nil => rfl
  | cons next links =>
      unfold tail
      rw [List.getLast?_cons_cons,List.getLast?_eq_some_getLast (List.cons_ne_nil next links)]

theorem intact_append {previous : Option H} {newer older : List (Link B H)} :
    Intact digest previous (older ++ newer) ↔ Intact digest previous older ∧ Intact digest (tail previous older) newer := by
  induction older generalizing previous with
  | nil => exact ⟨fun intact => ⟨trivial,intact⟩,fun both => both.2⟩
  | cons link older ih =>
      rw [List.cons_append,Intact,Intact,ih,tail_cons,and_assoc]

theorem intact_snoc {previous : Option H} {links : List (Link B H)} {link : Link B H} :
    Intact digest previous (links ++ [link]) ↔ Intact digest previous links ∧ Follows digest (tail previous links) link := by
  rw [intact_append]
  simp [Intact]

-- A chain can be checked from any of its entries on.
theorem intact_window {previous : Option H} {older newer : List (Link B H)} {link : Link B H}
    (intact : Intact digest previous (older ++ link :: newer)) : Intact digest link.previous (link :: newer) := by
  obtain ⟨_,window⟩ := intact_append.mp intact
  rw [window.1.1]
  exact window

section CollisionFree
variable (free : ∀ previous body previous' body', digest previous body = digest previous' body' →
  previous = previous' ∧ body = body')
include free

theorem follows_determined {previous previous' : Option H} {one two : Link B H} (first : Follows digest previous one)
    (second : Follows digest previous' two) (same : one.hash = two.hash) : previous = previous' ∧ one = two := by
  have seals := first.2.symm.trans (same.trans second.2)
  obtain ⟨rfl,bodies⟩ := free _ _ _ _ (Option.some.inj seals)
  exact ⟨rfl,Link.ext (first.1.trans second.1.symm) same bodies⟩

-- A hash commits to the entries up to its own, as far as they are known.
theorem commitment_suffix {start : Option H} {older older' : List (Link B H)} {link link' : Link B H}
    (one : Intact digest start (older ++ [link])) (two : Intact digest none (older' ++ [link']))
    (same : link.hash = link'.hash) : older ++ [link] <:+ older' ++ [link'] := by
  induction older using List.reverseRecOn generalizing older' link link' with
  | nil =>
      obtain ⟨_,rfl⟩ := follows_determined free (intact_snoc.mp one).2 (intact_snoc.mp two).2 same
      exact List.suffix_append older' [link]
  | append_singleton older last ih =>
      obtain ⟨before,first⟩ := intact_snoc.mp one
      obtain ⟨before',second⟩ := intact_snoc.mp two
      obtain ⟨tails,rfl⟩ := follows_determined free first second same
      rw [tail_snoc] at tails
      cases older' using List.reverseRecOn with
      | nil =>
          rw [(intact_snoc.mp before).2.2] at tails
          cases tails
      | append_singleton older' last' =>
          rw [tail_snoc] at tails
          obtain ⟨front,whole⟩ := ih before before' tails
          exact ⟨front,by rw [←whole,List.append_assoc front]⟩

-- A hash commits to the whole chain up to its entry.
theorem commitment {older older' : List (Link B H)} {link link' : Link B H}
    (one : Intact digest none (older ++ [link])) (two : Intact digest none (older' ++ [link']))
    (same : link.hash = link'.hash) : older ++ [link] = older' ++ [link'] := by
  exact (commitment_suffix free one two same).eq_of_length_le (commitment_suffix free two one same.symm).length_le

-- What is intact and made of the entries of a chain is a beginning of that chain.
theorem intact_prefix {chain links : List (Link B H)} (intact : Intact digest none chain)
    (made : ∀ link ∈ links, link ∈ chain) (holds : Intact digest none links) : links <+: chain := by
  cases links using List.reverseRecOn with
  | nil => exact List.nil_prefix
  | append_singleton links last =>
      obtain ⟨older,newer,rfl⟩ := List.append_of_mem (made last (by simp))
      have upTo : Intact digest none (older ++ [last]) := by
        have whole : Intact digest none ((older ++ [last]) ++ newer) := by rwa [List.append_assoc]
        exact (intact_append.mp whole).1
      rw [commitment free holds upTo rfl]
      exact ⟨newer,by simp⟩

-- The same where the beginning is not known.
theorem intact_infix {start : Option H} {chain links : List (Link B H)} (intact : Intact digest none chain)
    (made : ∀ link ∈ links, link ∈ chain) (holds : Intact digest start links) : links <:+: chain := by
  cases links using List.reverseRecOn with
  | nil => exact List.nil_infix
  | append_singleton links last =>
      obtain ⟨older,newer,rfl⟩ := List.append_of_mem (made last (by simp))
      have upTo : Intact digest none (older ++ [last]) := by
        have whole : Intact digest none ((older ++ [last]) ++ newer) := by rwa [List.append_assoc]
        exact (intact_append.mp whole).1
      obtain ⟨front,whole⟩ := commitment_suffix free holds upTo rfl
      exact ⟨front,newer,by rw [whole,List.append_assoc]; rfl⟩

theorem intact_nodup {chain : List (Link B H)} (intact : Intact digest none chain) : chain.Nodup := by
  induction chain using List.reverseRecOn with
  | nil => exact List.nodup_nil
  | append_singleton chain last ih =>
      obtain ⟨before,_⟩ := intact_snoc.mp intact
      rw [List.nodup_append]
      refine ⟨ih before,by simp,?_⟩
      intro entry member other single same
      obtain rfl := List.mem_singleton.mp single
      subst same
      obtain ⟨older,newer,rfl⟩ := List.append_of_mem member
      have upTo : Intact digest none ((older ++ [entry]) ++ newer) := by rwa [List.append_assoc]
      have twice := commitment free (intact_append.mp upTo).1 intact rfl
      have lengths := congrArg List.length twice
      simp at lengths

-- An entry cannot be replaced under its hash.
theorem intact_replaced {start start' : Option H} {chain links : List (Link B H)} {link link' : Link B H}
    (intact : Intact digest start chain) (member : link ∈ chain) (holds : Intact digest start' links)
    (member' : link' ∈ links) (same : link'.hash = link.hash) : link' = link := by
  obtain ⟨older,newer,rfl⟩ := List.append_of_mem member
  obtain ⟨older',newer',rfl⟩ := List.append_of_mem member'
  have one := (intact_append.mp intact).2.1
  have two := (intact_append.mp holds).2.1
  exact (follows_determined free two one same).2

end CollisionFree

section Marks
variable [DecidableEq H]

-- The entries that do not fit behind their predecessor, marked where they stand.
def marks (digest : Option H → B → H) : Option H → List (Link B H) → List Bool
  | _,[] => []
  | previous,link :: links => decide (¬Follows digest previous link) :: marks digest link.hash links

theorem marks_length (previous : Option H) (links : List (Link B H)) :
    (marks digest previous links).length = links.length := by
  induction links generalizing previous with
  | nil => rfl
  | cons link links ih => rw [marks,List.length_cons,List.length_cons,ih]

theorem broken_marks (previous : Option H) (links : List (Link B H)) :
    broken digest previous links = (marks digest previous links).count true := by
  induction links generalizing previous with
  | nil => rfl
  | cons link links ih =>
      rw [broken,marks,ih]
      by_cases fits : Follows digest previous link
      · simp [fits]
      · simp [fits,Nat.add_comm]

theorem marks_append (previous : Option H) (older newer : List (Link B H)) :
    marks digest previous (older ++ newer) = marks digest previous older ++ marks digest (tail previous older) newer := by
  induction older generalizing previous with
  | nil => rfl
  | cons link older ih => rw [List.cons_append,marks,marks,ih,tail_cons,List.cons_append]

-- An entry that only names another predecessor than the one it stands behind.
def Misnamed (digest : Option H → B → H) (previous : Option H) (link : Link B H) : Prop :=
  link.previous ≠ previous ∧ Follows digest link.previous link

instance (previous : Option H) (link : Link B H) : Decidable (Misnamed digest previous link) :=
  inferInstanceAs (Decidable (_ ∧ _))

-- A check that believes the first entry what it names misses that, and nothing else.
theorem broken_believed (previous : Option H) (link : Link B H) (links : List (Link B H)) :
    broken digest link.previous (link :: links) + (if Misnamed digest previous link then 1 else 0) =
      broken digest previous (link :: links) := by
  rw [broken,broken]
  by_cases named : link.previous = previous
  · have right : ¬Misnamed digest previous link := fun misnamed => misnamed.1 named
    rw [if_neg right,named]
    omega
  · have unfit : ¬Follows digest previous link := fun fits => named fits.1
    by_cases sealed : Follows digest link.previous link
    · rw [if_pos sealed,if_neg unfit,if_pos ⟨named,sealed⟩]
      omega
    · have right : ¬Misnamed digest previous link := fun misnamed => sealed misnamed.2
      rw [if_neg sealed,if_neg unfit,if_neg right]
      omega

end Marks

end HashChain
