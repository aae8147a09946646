import Mathlib.Data.List.Forall2
import Mathlib.Data.List.Nodup
import Mathlib.Data.List.NodupEquivFin
import Mathlib.Data.List.Perm.Basic
import Mathlib.Data.List.Range
import Mathlib.Order.WellFounded

/-!
List facts about positions and keys: reading a list through its indices,
removing or filling a position, looking up a key that occurs once, where the elements of a
filtered list stand, mapping a list together with its indices or with a function that can
fail, and cutting a list at a separator.
-/

namespace Lists

universe u v w

variable {α : Type u}

/-- Reading every index of a list in order gives the list. -/
theorem filterMap_getElem?_range (l : List α) :
    (List.range l.length).filterMap (fun i => l[i]?) = l := by
  induction l using List.reverseRecOn with
  | nil => rfl
  | append_singleton l a ih =>
      have inFront : ∀ i ∈ List.range l.length, (l ++ [a])[i]? = l[i]? := by
        intro i member
        exact List.getElem?_append_left (List.mem_range.mp member)
      rw [List.length_append, List.length_singleton, List.range_succ, List.filterMap_append,
        List.filterMap_congr inFront, ih]
      simp

/-- Removing a position keeps every other element. -/
theorem mem_eraseIdx_of_ne {l : List α} {k : Nat} {a b : α} (removed : l[k]? = some b)
    (member : a ∈ l) (ne : a ≠ b) : a ∈ l.eraseIdx k := by
  obtain ⟨i, found⟩ := List.mem_iff_getElem?.mp member
  refine List.mem_eraseIdx_iff_getElem?.mpr ⟨i, ?_, found⟩
  rintro rfl
  exact ne (Option.some.inj (found.symm.trans removed))

/-- With distinct keys, no other element has the key of the removed one. -/
theorem key_ne_of_mem_eraseIdx {β : Type v} (key : α → β) {l : List α}
    (distinct : (l.map key).Nodup) {k : Nat} {a b : α} (removed : l[k]? = some b)
    (member : a ∈ l.eraseIdx k) : key a ≠ key b := by
  obtain ⟨i, other, found⟩ := List.mem_eraseIdx_iff_getElem?.mp member
  intro same
  have keys : (l.map key)[i]? = (l.map key)[k]? := by
    rw [List.getElem?_map, List.getElem?_map, found, removed, Option.map_some, Option.map_some, same]
  obtain ⟨inRange, -⟩ := List.getElem?_eq_some_iff.mp found
  exact other ((List.getElem?_inj (by simpa using inRange) distinct).mp keys)

/-- With distinct keys, one element has the key of `a`. -/
theorem length_filter_key_ne {β : Type v} [DecidableEq β] (key : α → β) {l : List α}
    (distinct : (l.map key).Nodup) {a : α} (member : a ∈ l) :
    (l.filter fun b => key b ≠ key a).length + 1 = l.length := by
  induction l with
  | nil => cases member
  | cons b l ih =>
      rw [List.map_cons, List.nodup_cons] at distinct
      by_cases same : key b = key a
      · have others : ∀ c ∈ l, key c ≠ key a := by
          intro c inRest equal
          exact distinct.1 (same.trans equal.symm ▸ List.mem_map_of_mem inRest)
        rw [List.filter_cons_of_neg (by simpa using same),
          List.filter_eq_self.mpr fun c inRest => by simpa using others c inRest]
        rfl
      · rw [List.filter_cons_of_pos (by simpa using same), List.length_cons, List.length_cons]
        have inRest : a ∈ l := by
          rcases List.mem_cons.mp member with rfl | inRest
          · exact absurd rfl same
          · exact inRest
        rw [ih distinct.2 inRest]

/-- How many elements with a property are left when one is removed. -/
theorem countP_eraseIdx (p : α → Bool) {l : List α} {k : Nat} {a : α} (removed : l[k]? = some a) :
    (l.eraseIdx k).countP p + (p a).toNat = l.countP p := by
  obtain ⟨inRange, rfl⟩ := List.getElem?_eq_some_iff.mp removed
  rw [← (List.getElem_cons_eraseIdx_perm inRange).countP_eq p, List.countP_cons]
  cases p l[k] <;> rfl

/-- An element put in at any position. -/
theorem perm_take_cons_drop (k : Nat) (a : α) (l : List α) :
    (l.take k ++ a :: l.drop k).Perm (a :: l) := by
  have shifted : (l.take k ++ a :: l.drop k).Perm (a :: (l.take k ++ l.drop k)) :=
    List.perm_middle
  rwa [List.take_append_drop] at shifted

/-- When no two elements have one key, the elements with the key of `a` are `a`
alone. -/
theorem filter_eq_singleton {β : Type u} [BEq β] [LawfulBEq β] (key : α → β) {l : List α}
    (distinct : (l.map key).Nodup) {a : α} (member : a ∈ l) :
    l.filter (fun b => key a == key b) = [a] := by
  induction l with
  | nil => cases member
  | cons b l ih =>
      obtain ⟨fresh, rest⟩ := List.nodup_cons.mp distinct
      rcases List.mem_cons.mp member with rfl | inRest
      · have none : l.filter (fun b => key a == key b) = [] := by
          refine List.filter_eq_nil_iff.mpr fun c inRest same => fresh ?_
          exact List.mem_map.mpr ⟨c, inRest, (beq_iff_eq.mp same).symm⟩
        simp [none]
      · have ne : key a ≠ key b := fun same => fresh (List.mem_map.mpr ⟨a, inRest, same⟩)
        simp [ne, ih rest inRest]

/-- An element of a filtered list stands no earlier in the list itself. -/
theorem exists_getElem?_filter (p : α → Bool) (l : List α) (k : Nat) :
    ∃ i, k ≤ i ∧ (l.filter p)[k]? = l[i]? := by
  obtain ⟨f, found⟩ := List.sublist_iff_exists_orderEmbedding_getElem?_eq.mp
    (List.filter_sublist (p := p) (l := l))
  exact ⟨f k, StrictMono.le_apply f.strictMono, found k⟩

/-- In a list without repetitions the `k`-th kept element is the `k`-th element
exactly when nothing up to it is dropped. -/
theorem getElem?_filter_eq_iff (p : α → Bool) {l : List α} (distinct : l.Nodup) {k : Nat}
    (kept : k < (l.filter p).length) :
    (l.filter p)[k]? = l[k]? ↔ ∀ a ∈ l.take (k + 1), p a = true := by
  induction l generalizing k with
  | nil => simp at kept
  | cons b l ih =>
      by_cases passes : p b = true
      · rw [List.filter_cons_of_pos passes] at kept ⊢
        cases k with
        | zero => simp [passes]
        | succ k =>
            have inRest := ih (List.nodup_cons.mp distinct).2 (Nat.lt_of_succ_lt_succ kept)
            simpa [passes] using inRest
      · -- `b` is dropped, so every kept element has moved to the front
        refine iff_of_false ?_ (fun all => passes (all b (by simp)))
        intro same
        rw [List.filter_cons_of_neg passes] at same kept
        obtain ⟨i, behind, found⟩ := exists_getElem?_filter p l k
        have inRange : k < (b :: l).length := by
          have := List.length_filter_le p l
          simp only [List.length_cons]
          omega
        have moved : (b :: l)[k]? = (b :: l)[i + 1]? := by
          rw [← same, found, List.getElem?_cons_succ]
        have := (List.getElem?_inj inRange distinct).mp moved
        omega

/-- Two filters keep the same of a list exactly when they agree on it. -/
theorem filter_eq_filter_iff {p q : α → Bool} {l : List α} :
    l.filter p = l.filter q ↔ ∀ a ∈ l, p a = q a := by
  refine ⟨fun same a member => ?_, List.filter_congr⟩
  have kept : a ∈ l.filter p ↔ a ∈ l.filter q := by rw [same]
  simp only [List.mem_filter, member, true_and] at kept
  exact Bool.eq_iff_iff.mpr kept

/-! ### Mapping with indices -/

section MapIdx

variable {β : Type v} {γ : Type w} {f : Nat → α → β}

/-- A function that tells the indices apart gives a list without repetitions. -/
theorem nodup_mapIdx {key : β → Nat} (keyed : ∀ i a, key (f i a) = i) (l : List α) :
    (l.mapIdx f).Nodup := by
  have keys : (l.mapIdx f).map key = List.range l.length := by
    refine List.ext_getElem (by simp) fun i _ _ => ?_
    simp [keyed]
  refine List.Nodup.of_map key ?_
  rw [keys]
  exact List.nodup_range

/-- When `f i` sees of an element just what `g` sees, two lists have one image
under `f` exactly if they have one under `g`. -/
theorem mapIdx_eq_mapIdx_iff_map {g : α → γ} (sees : ∀ i a b, f i a = f i b ↔ g a = g b)
    {l l' : List α} : l.mapIdx f = l'.mapIdx f ↔ l.map g = l'.map g := by
  simp only [List.ext_getElem?_iff, List.getElem?_mapIdx, List.getElem?_map]
  apply forall_congr'
  intro i
  cases l[i]? <;> cases l'[i]? <;> simp [sees]

/-- The same for a relation between the elements of one list and the image of
the other. -/
theorem forall₂_mapIdx_iff_map {R : α → β → Prop} {g : α → γ}
    (sees : ∀ i a b, R b (f i a) ↔ g a = g b) {l l' : List α} :
    List.Forall₂ R l' (l.mapIdx f) ↔ l.map g = l'.map g := by
  induction l' generalizing l f with
  | nil => simp
  | cons b l' ih =>
      cases l with
      | nil => simp
      | cons a l =>
          rw [List.mapIdx_cons, List.forall₂_cons, ih fun i => sees (i + 1), sees]
          simp

end MapIdx

/-! ### Maps that can fail -/

section Failing

variable {β : Type v} {f : α → Option β} {l : List α}

/-- A map that fails nowhere is a plain map. -/
theorem mapM_eq_some_map {g : α → β} (succeeds : ∀ a ∈ l, f a = some (g a)) :
    l.mapM f = some (l.map g) := by
  induction l with
  | nil => rfl
  | cons a l ih =>
      obtain ⟨here, later⟩ := List.forall_mem_cons.mp succeeds
      rw [List.mapM_cons, here, ih later]
      rfl

/-- A map that succeeds has failed nowhere. -/
theorem exists_of_mapM_eq_some {l' : List β} (mapped : l.mapM f = some l') {a : α}
    (member : a ∈ l) : ∃ b, f a = some b := by
  induction l generalizing l' with
  | nil => cases member
  | cons head l ih =>
      rw [List.mapM_cons] at mapped
      obtain ⟨b, here, rest⟩ := Option.bind_eq_some_iff.mp mapped
      obtain ⟨bs, later, -⟩ := Option.bind_eq_some_iff.mp rest
      rcases List.mem_cons.mp member with rfl | inTail
      · exact ⟨b, here⟩
      · exact ih later inTail

end Failing

/-! ### Separators -/

section Separators

variable {sep : α}

/-- The last part stands behind the separator that follows the others. -/
theorem intercalate_concat {parts : List (List α)} (nonempty : parts ≠ []) (last : List α) :
    [sep].intercalate (parts ++ [last]) = [sep].intercalate parts ++ sep :: last := by
  induction parts with
  | nil => exact absurd rfl nonempty
  | cons part parts ih =>
      cases parts with
      | nil => simp
      | cons next parts =>
          have rest := ih (List.cons_ne_nil next parts)
          simp only [List.cons_append] at rest ⊢
          rw [List.intercalate_cons_cons, rest, List.intercalate_cons_cons]
          simp

/-- Only a single empty part gives the empty list. -/
theorem intercalate_eq_nil {parts : List (List α)} (nonempty : parts ≠ [])
    (empty : [sep].intercalate parts = []) : parts = [[]] := by
  cases parts with
  | nil => exact absurd rfl nonempty
  | cons part parts =>
      cases parts with
      | nil =>
          rw [List.intercalate_singleton] at empty
          rw [empty]
      | cons next parts =>
          rw [List.intercalate_cons_cons] at empty
          simp at empty

/-- What stands in a sequence of parts is the separator or stands in a part. -/
theorem eq_or_of_mem_intercalate {p : α → Prop} {parts : List (List α)}
    (elements : ∀ part ∈ parts, ∀ a ∈ part, p a) :
    ∀ a ∈ [sep].intercalate parts, a = sep ∨ p a := by
  induction parts with
  | nil => simp
  | cons part parts ih =>
      obtain ⟨ofPart, ofRest⟩ := List.forall_mem_cons.mp elements
      cases parts with
      | nil =>
          rw [List.intercalate_singleton]
          intro a member
          exact .inr (ofPart a member)
      | cons next parts =>
          rw [List.intercalate_cons_cons]
          intro a member
          rcases List.mem_append.mp member with front | inRest
          · rcases List.mem_append.mp front with inPart | isSep
            · exact .inr (ofPart a inPart)
            · exact .inl (List.mem_singleton.mp isSep)
          · exact ih ofRest a inRest

/-- A list over the separator and some elements is a sequence of parts over the
elements alone. -/
theorem exists_eq_intercalate {p : α → Prop} {l : List α} (all : ∀ a ∈ l, a = sep ∨ p a) :
    ∃ parts, parts ≠ [] ∧ l = [sep].intercalate parts ∧ ∀ part ∈ parts, ∀ a ∈ part, p a := by
  induction l with
  | nil => exact ⟨[[]], by simp⟩
  | cons a l ih =>
      obtain ⟨here, later⟩ := List.forall_mem_cons.mp all
      obtain ⟨parts, nonempty, rfl, elements⟩ := ih later
      obtain ⟨first, rest, rfl⟩ := List.exists_cons_of_ne_nil nonempty
      rcases here with rfl | element
      · -- the separator begins a new part
        refine ⟨[] :: first :: rest, by simp, ?_, ?_⟩
        · rw [List.intercalate_cons_cons]
          rfl
        · exact List.forall_mem_cons.mpr ⟨by simp, elements⟩
      · refine ⟨(a :: first) :: rest, by simp, ?_, ?_⟩
        · rw [List.intercalate_cons_cons_left]
        · obtain ⟨ofFirst, ofRest⟩ := List.forall_mem_cons.mp elements
          exact List.forall_mem_cons.mpr ⟨List.forall_mem_cons.mpr ⟨element, ofFirst⟩, ofRest⟩

end Separators

end Lists
