import FedLoad.Keyed
/-!
# What putting in pairs leaves alone

Keys that ascend keep ascending when a key is given a value, as long as their order is linear; and
what holds of every value goes on to hold if it holds of the new one. Texts ascend as they do
everywhere else: `<` on texts is the order of their code points.

A value that is put in is found again under its key, and what other keys have is left alone. So two
changes to different keys may change places, and two changes to one key are one change. Pairs that
ascend are therefore put together again from any order of them.

Main statements: `Keyed.ascending_alter`, `Keyed.ascending_ofList`, `Keyed.lookup_alter`,
`Keyed.alter_comm`, `Keyed.ofList_of_perm`.
-/
namespace FedLoad

/-! ## Linear orders of keys -/

/-- Is the order of keys a linear one? -/
class LinearKey (κ : Type) [Key κ] : Prop where
  irrefl (a : κ) : ¬ Key.before a a
  trans {a b c : κ} : Key.before a b → Key.before b c → Key.before a c
  total {a b : κ} : ¬ Key.before a b → a ≠ b → Key.before b a

theorem charsBefore_iff {a b : List Char} : charsBefore a b = true ↔ a < b := by
  induction a generalizing b with
  | nil => cases b <;> simp [charsBefore]
  | cons x xs ih =>
    cases b with
    | nil => simp [charsBefore]
    | cons y ys =>
      have hchar : x.toNat.blt y.toNat = true ↔ x < y := by
        rw [Nat.blt_eq, Char.lt_def, UInt32.lt_iff_toNat_lt]
        rfl
      simp [charsBefore, List.cons_lt_cons_iff, hchar, ih]

theorem before_iff_lt {a b : String} : Key.before a b = true ↔ a < b :=
  charsBefore_iff.trans String.lt_iff.symm

instance : LinearKey String where
  irrefl a h := String.lt_irrefl a (before_iff_lt.1 h)
  trans hab hbc := before_iff_lt.2 (String.lt_trans (before_iff_lt.1 hab) (before_iff_lt.1 hbc))
  total {a b} hab hne := by
    rw [before_iff_lt] at hab ⊢
    have hle : b ≤ a := String.not_lt.1 hab
    refine Decidable.byContradiction fun hba => hne ?_
    exact String.le_antisymm (String.not_lt.1 hba) hle

theorem number_before_iff {a b : Nat} : Key.before a b = true ↔ a < b := iff_of_eq Nat.blt_eq

instance : LinearKey Nat where
  irrefl a h := Nat.lt_irrefl a (number_before_iff.1 h)
  trans hab hbc :=
    number_before_iff.2 (Nat.lt_trans (number_before_iff.1 hab) (number_before_iff.1 hbc))
  total hab hne := by
    rw [number_before_iff] at hab ⊢
    omega

theorem not_before_nil (as : List String) : ¬ Key.before as [] := by
  cases as <;> exact Bool.false_ne_true

theorem cons_before_cons {a b : String} {as bs : List String} :
    Key.before (a :: as) (b :: bs) ↔ Key.before a b ∨ a = b ∧ Key.before as bs := by
  simp [Key.before, textsBefore]

instance : LinearKey (List String) where
  irrefl as := by
    induction as with
    | nil => exact not_before_nil []
    | cons a as ih =>
      intro h
      rcases cons_before_cons.1 h with hhead | ⟨-, htail⟩
      · exact LinearKey.irrefl a hhead
      · exact ih htail
  trans {as bs cs} hab hbc := by
    induction as generalizing bs cs with
    | nil =>
      cases cs with
      | nil => exact absurd hbc (not_before_nil bs)
      | cons c cs => rfl
    | cons a as ih =>
      cases bs with
      | nil => exact absurd hab (not_before_nil _)
      | cons b bs =>
        cases cs with
        | nil => exact absurd hbc (not_before_nil _)
        | cons c cs =>
          rw [cons_before_cons] at hab hbc ⊢
          rcases hab with hab | ⟨rfl, hab⟩
          · rcases hbc with hbc | ⟨rfl, -⟩
            · exact .inl (LinearKey.trans hab hbc)
            · exact .inl hab
          · exact hbc.imp_right fun h => ⟨h.1, ih hab h.2⟩
  total {as bs} hab hne := by
    induction as generalizing bs with
    | nil =>
      cases bs with
      | nil => exact absurd rfl hne
      | cons b bs => exact absurd rfl hab
    | cons a as ih =>
      cases bs with
      | nil => rfl
      | cons b bs =>
        rw [cons_before_cons, not_or] at hab
        rw [cons_before_cons]
        by_cases heq : a = b
        · subst heq
          exact .inr ⟨rfl, ih (fun h => hab.2 ⟨rfl, h⟩) fun h => hne (h ▸ rfl)⟩
        · exact .inl (LinearKey.total hab.1 heq)

namespace LinearKey

variable {κ : Type} [Key κ] [LinearKey κ] {a b : κ}

theorem asymm (h : Key.before a b) : ¬ Key.before b a := fun h' => irrefl a (trans h h')

theorem ne (h : Key.before a b) : a ≠ b := fun heq => irrefl a (heq ▸ h)

theorem trichotomy (a b : κ) : Key.before a b ∨ a = b ∨ Key.before b a := by
  by_cases hab : Key.before a b
  · exact .inl hab
  · by_cases heq : a = b
    · exact .inr (.inl heq)
    · exact .inr (.inr (total hab heq))

end LinearKey

/-! ## Ascending keys -/

namespace Keyed

theorem ascending_iff_lt {ν : Type} {pairs : List (String × ν)} :
    Ascending pairs ↔ pairs.Pairwise fun a b => a.1 < b.1 := by
  simp only [Ascending, before_iff_lt]

variable {κ ν : Type} [Key κ] [DecidableEq κ] {pairs : List (κ × ν)} {key : κ} {f : Option ν → ν}

theorem eq_or_mem_of_mem_alter {p : κ × ν} (h : p ∈ alter key f pairs) : p.1 = key ∨ p ∈ pairs := by
  induction pairs with
  | nil => simp_all [alter]
  | cons q rest ih =>
    obtain ⟨k, v⟩ := q
    unfold alter at h
    split at h
    · rcases List.mem_cons.1 h with rfl | h
      · exact .inl rfl
      · exact .inr h
    · split at h
      · next heq =>
        rcases List.mem_cons.1 h with rfl | h
        · exact .inl heq.symm
        · exact .inr (List.mem_cons_of_mem _ h)
      · rcases List.mem_cons.1 h with rfl | h
        · exact .inr (List.mem_cons_self ..)
        · exact (ih h).imp_right (List.mem_cons_of_mem _)

/-- What holds of all values holds of all values afterwards, if it holds of the new one. -/
theorem forall_alter (P : ν → Prop) (hold : ∀ p ∈ pairs, P p.2)
    (hnew : ∀ v, (∀ a, v = some a → P a) → P (f v)) : ∀ p ∈ alter key f pairs, P p.2 := by
  have hnone : P (f none) := hnew none (by simp)
  induction pairs with
  | nil => simpa [alter] using hnone
  | cons q rest ih =>
    obtain ⟨k, v⟩ := q
    obtain ⟨hv, hrest⟩ := List.forall_mem_cons.1 hold
    unfold alter
    split
    · exact List.forall_mem_cons.2 ⟨hnone, hold⟩
    · split
      · refine List.forall_mem_cons.2 ⟨hnew (some v) fun a ha => ?_, hrest⟩
        cases ha
        exact hv
      · exact List.forall_mem_cons.2 ⟨hv, ih hrest⟩

/-- What holds of all values that are put together holds of all values that are kept. -/
theorem forall_ofList (P : ν → Prop) (h : ∀ p ∈ pairs, P p.2) : ∀ p ∈ ofList pairs, P p.2 :=
  List.foldlRecOn (motive := fun sorted : List (κ × ν) => ∀ p ∈ sorted, P p.2) pairs _
    (List.forall_mem_nil _) fun _ hsorted p hp => forall_alter P hsorted fun _ _ => h p hp

/-- A key that was not there is added. -/
theorem alter_perm_cons (h : ∀ p ∈ pairs, p.1 ≠ key) :
    (alter key f pairs).Perm ((key, f none) :: pairs) := by
  induction pairs with
  | nil => exact .rfl
  | cons q rest ih =>
    obtain ⟨k, v⟩ := q
    obtain ⟨hne, hrest⟩ := List.forall_mem_cons.1 h
    unfold alter
    split
    · exact .rfl
    · rw [if_neg (Ne.symm hne)]
      exact ((ih hrest).cons _).trans (.swap ..)

/-- If no key comes twice, all pairs are kept. -/
theorem ofList_perm (h : (pairs.map Prod.fst).Nodup) : (ofList pairs).Perm pairs := by
  suffices hsorted : ∀ sorted : List (κ × ν), ((sorted ++ pairs).map Prod.fst).Nodup →
      (pairs.foldl (fun sorted p => insert p.1 p.2 sorted) sorted).Perm (sorted ++ pairs) from
    hsorted [] h
  clear h
  induction pairs with
  | nil => exact fun sorted _ => .of_eq (List.append_nil sorted).symm
  | cons p rest ih =>
    intro sorted hsorted
    have hmiddle : (sorted ++ p :: rest).Perm (p :: (sorted ++ rest)) := List.perm_middle
    obtain ⟨hfresh, -⟩ := List.nodup_cons.1 ((hmiddle.map Prod.fst).nodup_iff.1 hsorted)
    have hinsert : (insert p.1 p.2 sorted ++ rest).Perm (p :: (sorted ++ rest)) := by
      refine (alter_perm_cons fun q hq heq => hfresh ?_).append_right rest
      exact List.mem_map.2 ⟨q, List.mem_append_left rest hq, heq⟩
    have hall := hinsert.trans hmiddle.symm
    exact (ih _ ((hall.map Prod.fst).nodup_iff.2 hsorted)).trans hall

variable [LinearKey κ]

theorem ascending_alter (h : Ascending pairs) : Ascending (alter key f pairs) := by
  induction pairs with
  | nil => exact List.pairwise_singleton _ _
  | cons q rest ih =>
    obtain ⟨k, v⟩ := q
    obtain ⟨hfirst, hrest⟩ := List.pairwise_cons.1 h
    unfold alter
    split
    · next hbefore =>
      refine List.pairwise_cons.2 ⟨fun p hp => ?_, h⟩
      rcases List.mem_cons.1 hp with rfl | hp
      · exact hbefore
      · exact LinearKey.trans hbefore (hfirst p hp)
    · next hbefore =>
      split
      · exact List.pairwise_cons.2 ⟨hfirst, hrest⟩
      · next hne =>
        refine List.pairwise_cons.2 ⟨fun p hp => ?_, ih hrest⟩
        rcases eq_or_mem_of_mem_alter hp with hkey | hp
        · rw [hkey]
          exact LinearKey.total hbefore hne
        · exact hfirst p hp

theorem ascending_ofList (pairs : List (κ × ν)) : Ascending (ofList pairs) :=
  List.foldlRecOn (motive := Ascending) pairs _ List.Pairwise.nil
    fun _ hsorted _ _ => ascending_alter hsorted

/-! ## One change after another -/

section Changes

variable {other : κ} {g : Option ν → ν} {v : ν}

omit [LinearKey κ] in
theorem alter_cons_before (h : Key.before key other) :
    alter key f ((other, v) :: pairs) = (key, f none) :: (other, v) :: pairs := if_pos h

theorem alter_cons_self : alter key f ((key, v) :: pairs) = (key, f (some v)) :: pairs := by
  rw [alter, if_neg (LinearKey.irrefl key), if_pos rfl]

theorem alter_cons_after (h : Key.before other key) :
    alter key f ((other, v) :: pairs) = (other, v) :: alter key f pairs := by
  rw [alter, if_neg (LinearKey.asymm h), if_neg (LinearKey.ne h).symm]

theorem alter_alter :
    alter key f (alter key g pairs) = alter key (fun v => f (some (g v))) pairs := by
  induction pairs with
  | nil => exact alter_cons_self
  | cons p rest ih =>
    obtain ⟨k, v⟩ := p
    rcases LinearKey.trichotomy key k with h | rfl | h
    · rw [alter_cons_before h, alter_cons_self, alter_cons_before h]
    · rw [alter_cons_self, alter_cons_self, alter_cons_self]
    · rw [alter_cons_after h, alter_cons_after h, alter_cons_after h, ih]

theorem alter_comm_of_before (h : Key.before key other) :
    alter key f (alter other g pairs) = alter other g (alter key f pairs) := by
  induction pairs with
  | nil => rw [alter, alter, alter_cons_before h, alter_cons_after h, alter]
  | cons p rest ih =>
    obtain ⟨k, v⟩ := p
    -- The lesser key is put in before `k`, at it or after it, and the greater one no earlier.
    rcases LinearKey.trichotomy key k with hkey | rfl | hkey
    · rw [alter_cons_before hkey, alter_cons_after h]
      rcases LinearKey.trichotomy other k with hother | rfl | hother
      · rw [alter_cons_before hother, alter_cons_before h]
      · rw [alter_cons_self, alter_cons_before h]
      · rw [alter_cons_after hother, alter_cons_before hkey]
    · rw [alter_cons_after h, alter_cons_self, alter_cons_self, alter_cons_after h]
    · have hother := LinearKey.trans hkey h
      rw [alter_cons_after hother, alter_cons_after hkey, alter_cons_after hkey,
        alter_cons_after hother, ih]

/-- Changes to different keys may change places. -/
theorem alter_comm (h : key ≠ other) :
    alter key f (alter other g pairs) = alter other g (alter key f pairs) := by
  rcases LinearKey.trichotomy key other with hkey | heq | hother
  · exact alter_comm_of_before hkey
  · exact absurd heq h
  · exact (alter_comm_of_before hother).symm

/-- A key after all others is put at the end. -/
theorem alter_of_forall_before (h : ∀ p ∈ pairs, Key.before p.1 key) :
    alter key f pairs = pairs ++ [(key, f none)] := by
  induction pairs with
  | nil => rfl
  | cons p rest ih =>
    obtain ⟨hp, hrest⟩ := List.forall_mem_cons.1 h
    rw [alter_cons_after hp, ih hrest, List.cons_append]

/-- Pairs that ascend are put together as they are. -/
theorem ofList_of_ascending (h : Ascending pairs) : ofList pairs = pairs := by
  suffices hsorted : ∀ sorted : List (κ × ν), Ascending (sorted ++ pairs) →
      pairs.foldl (fun sorted p => insert p.1 p.2 sorted) sorted = sorted ++ pairs from
    hsorted [] h
  clear h
  induction pairs with
  | nil => exact fun sorted _ => (List.append_nil sorted).symm
  | cons p rest ih =>
    intro sorted hsorted
    have hbefore : ∀ q ∈ sorted, Key.before q.1 p.1 := fun q hq =>
      (List.pairwise_append.1 hsorted).2.2 q hq p (List.mem_cons_self ..)
    have hinsert : insert p.1 p.2 sorted = sorted ++ [p] := alter_of_forall_before hbefore
    rw [List.append_cons] at hsorted ⊢
    rw [List.foldl_cons, hinsert]
    exact ih _ hsorted

omit [DecidableEq κ] in
theorem Ascending.nodup (h : Ascending pairs) : (pairs.map Prod.fst).Nodup :=
  List.pairwise_map.2 (h.imp LinearKey.ne)

end Changes

/-! ## Looking up -/

section Lookup

variable [BEq κ] [LawfulBEq κ]

/-- What a key has afterwards is made of what it had. -/
theorem lookup_alter (h : Ascending pairs) :
    (alter key f pairs).lookup key = some (f (pairs.lookup key)) := by
  induction pairs with
  | nil => exact List.lookup_cons_self
  | cons p rest ih =>
    obtain ⟨k, v⟩ := p
    obtain ⟨hfirst, hrest⟩ := List.pairwise_cons.1 h
    rcases LinearKey.trichotomy key k with hkey | rfl | hkey
    · have hnone : ((k, v) :: rest).lookup key = none := by
        refine List.lookup_eq_none_iff.2 (List.forall_mem_cons.2 ⟨?_, fun p hp => ?_⟩)
        · exact bne_iff_ne.2 (LinearKey.ne hkey)
        · exact bne_iff_ne.2 (LinearKey.ne (LinearKey.trans hkey (hfirst p hp)))
      rw [alter_cons_before hkey, List.lookup_cons_self, hnone]
    · rw [alter_cons_self, List.lookup_cons_self, List.lookup_cons_self]
    · have hne : (key == k) = false := beq_eq_false_iff_ne.2 (LinearKey.ne hkey).symm
      rw [alter_cons_after hkey, List.lookup_cons, List.lookup_cons, hne]
      exact ih hrest

/-- What other keys have is left alone. -/
theorem lookup_alter_of_ne {other : κ} (h : other ≠ key) :
    (alter key f pairs).lookup other = pairs.lookup other := by
  have hne : (other == key) = false := beq_eq_false_iff_ne.2 h
  induction pairs with
  | nil => rw [alter, List.lookup_cons, hne]
  | cons p rest ih =>
    obtain ⟨k, v⟩ := p
    rcases LinearKey.trichotomy key k with hkey | rfl | hkey
    · rw [alter_cons_before hkey, List.lookup_cons, hne]
    · rw [alter_cons_self, List.lookup_cons, List.lookup_cons, hne]
    · rw [alter_cons_after hkey, List.lookup_cons, List.lookup_cons, ih]

omit [DecidableEq κ] in
/-- In pairs that ascend each pair is found under its key. -/
theorem lookup_eq_some_iff_mem (h : Ascending pairs) {value : ν} :
    pairs.lookup key = some value ↔ (key, value) ∈ pairs := by
  induction pairs with
  | nil => simp
  | cons p rest ih =>
    obtain ⟨k, v⟩ := p
    obtain ⟨hfirst, hrest⟩ := List.pairwise_cons.1 h
    rw [List.lookup_cons, List.mem_cons]
    by_cases hkey : key = k
    · subst hkey
      have habsent : (key, value) ∉ rest := fun hmem => LinearKey.irrefl key (hfirst _ hmem)
      simp [habsent, eq_comm]
    · rw [beq_eq_false_iff_ne.2 hkey, ih hrest]
      simp [hkey]

end Lookup

/-- Pairs that ascend are put together from any order of them. -/
theorem ofList_of_perm {other : List (κ × ν)} (hperm : other.Perm pairs) (h : Ascending pairs) :
    ofList other = pairs := by
  have hsame : ofList other = ofList pairs := by
    refine hperm.foldl_eq' (fun p hp q hq sorted => ?_) []
    by_cases hkey : p.1 = q.1
    · have hvalue := (lookup_eq_some_iff_mem h).2 (hperm.mem_iff.1 hp)
      rw [hkey, (lookup_eq_some_iff_mem h).2 (hperm.mem_iff.1 hq)] at hvalue
      rw [Prod.ext hkey (Option.some_inj.1 hvalue).symm]
    · exact alter_comm fun heq => hkey heq.symm
  rw [hsame, ofList_of_ascending h]

end Keyed

end FedLoad
