import FedLoad.Url.Basic
/-!
# Control characters in hosts

No host has a control character or a space. When a host is read, its bytes are put together to
characters, these are mapped, and they are composed with their neighbours; a control character goes
through all of this unchanged, and what it comes out in is no domain name. Nor does a host in
brackets end in one. So it makes no difference where it came from: a host with a control character
at its end cannot be read.

Main statement: `Url.readHost_of_control`.
-/
namespace FedLoad

namespace Text

variable {c : Char}

/-- What holds of thirty-three characters holds of every control character. -/
theorem forall_control {P : Char → Prop} (hP : ∀ n < 0x21, P (Char.ofNat n))
    (h : c.toNat ≤ 0x20) : P c := by
  rw [← Char.ofNat_toNat c]
  exact hP _ (Nat.lt_succ_of_le h)

/-! ## Composition -/

/-- The mark of a row and the characters of its text are none of the control characters. -/
def IsPlain (p : Nat × String) : Prop := 0x20 < p.1 ∧ ∀ c ∈ p.2.toList, 0x20 < c.toNat

theorem isPlain_ofList {mark : Nat} {s : List Char} (hmark : 0x20 < mark)
    (hs : s.all fun c => 0x20 < c.toNat) : IsPlain (mark, String.ofList s) := by
  refine ⟨hmark, fun c hc => ?_⟩
  rw [String.toList_ofList] at hc
  simpa using List.all_eq_true.1 hs c hc

theorem isPlain_of_mem_compositions : ∀ p ∈ compositions, IsPlain p := by
  unfold compositions
  -- row by row, because the text of a row is read as it is written there, without its bytes
  repeat refine List.forall_mem_cons.2 ⟨isPlain_ofList (by decide) (by decide), ?_⟩
  nofun

theorem mem_of_mem_basePairs {q : Char × Char} {s : List Char} (h : q ∈ basePairs s) :
    q.1 ∈ s ∧ q.2 ∈ s := by
  fun_induction basePairs s with
  | case1 base whole rest ih =>
    rcases List.mem_cons.1 h with rfl | hmem
    · simp
    · simp [ih hmem]
  | case2 => cases h

theorem decompose?_of_control (h : c.toNat ≤ 0x20) : decompose? c = none := by
  refine List.findSome?_eq_none_iff.2 fun p hp => ?_
  rw [Option.map_eq_none_iff, List.find?_eq_none]
  intro q hq hwhole
  have hplain := (isPlain_of_mem_compositions p hp).2 _ (mem_of_mem_basePairs hq).2
  rw [eq_of_beq hwhole] at hplain
  exact Nat.not_lt.2 h hplain

theorem takeApart_of_control (h : c.toNat ≤ 0x20) (depth : Nat) : takeApart depth c = [c] := by
  cases depth with
  | zero => rfl
  | succ depth =>
    unfold takeApart
    rw [decompose?_of_control h]

theorem syllable?_of_control {a b : Char} (h : a.toNat ≤ 0x20 ∨ b.toNat ≤ 0x20) :
    syllable? a b = none := by
  unfold syllable?
  rw [if_neg, if_neg]
  · simp only [Bool.and_eq_true, decide_eq_true_eq, beq_iff_eq]
    omega
  · simp only [Bool.and_eq_true, decide_eq_true_eq]
    omega

theorem compose?_of_control {base mark : Char} (h : base.toNat ≤ 0x20 ∨ mark.toNat ≤ 0x20) :
    compose? base mark = none := by
  unfold compose?
  split
  · next whole hwhole =>
    obtain ⟨p, hp, hpairs⟩ := List.exists_of_findSome?_eq_some hwhole
    obtain ⟨hmark, hchars⟩ := isPlain_of_mem_compositions p hp
    dsimp only at hpairs
    split at hpairs
    · next heq =>
      rw [beq_iff_eq.1 heq] at hmark
      obtain ⟨_, _, hq, -⟩ := List.lookup_eq_some_iff.1 hpairs
      have hbase := hchars base (mem_of_mem_basePairs (q := (base, whole)) (by simp [hq])).1
      omega
    · cases hpairs
  · exact syllable?_of_control h

theorem mem_insertMark {mark : Char} {marks : List Char} :
    c ∈ insertMark mark marks ↔ c = mark ∨ c ∈ marks := by
  induction marks with
  | nil => exact List.mem_cons
  | cons m rest ih =>
    unfold insertMark
    split
    · exact List.mem_cons
    · rw [List.mem_cons, ih, List.mem_cons, or_left_comm]

theorem mem_orderMarks {marks s : List Char} : c ∈ orderMarks marks s ↔ c ∈ marks ∨ c ∈ s := by
  induction s generalizing marks with
  | nil => simp [orderMarks]
  | cons d rest ih =>
    unfold orderMarks
    split
    · rw [List.mem_append, List.mem_cons, ih, List.mem_cons]
      simp
    · rw [ih, mem_insertMark, List.mem_cons, or_right_comm, or_comm]

theorem mem_joinFrom_of_control (h : c.toNat ≤ 0x20) {base : Char} {apart s : List Char}
    (hc : c = base ∨ c ∈ apart ∨ c ∈ s) : c ∈ joinFrom base apart s := by
  induction s generalizing base apart with
  | nil => simpa [joinFrom] using hc
  | cons d rest ih =>
    unfold joinFrom
    split
    · next whole hwhole =>
      have hcompose : compose? base d = some whole := by
        split at hwhole
        · cases hwhole
        · exact hwhole
      -- neither the base nor the mark is the character, for then they would make up nothing
      have hboth : c ≠ base ∧ c ≠ d := by
        refine ⟨fun heq => ?_, fun heq => ?_⟩
        · rw [compose?_of_control (.inl (heq ▸ h))] at hcompose
          cases hcompose
        · rw [compose?_of_control (.inr (heq ▸ h))] at hcompose
          cases hcompose
      refine ih (.inr ?_)
      simpa [hboth] using hc
    · split
      · rcases hc with hc | hc | hc
        · simp [hc]
        · simp [hc]
        · have hrest : c ∈ joinFrom d [] rest := ih (by simpa using hc)
          simp [hrest]
      · refine ih ?_
        simp only [List.mem_append, List.mem_cons] at hc ⊢
        rcases hc with hc | hc | hc | hc <;> simp [hc]

theorem mem_join_of_control (h : c.toNat ≤ 0x20) {s : List Char} (hc : c ∈ s) : c ∈ join s := by
  induction s with
  | nil => exact hc
  | cons d rest ih =>
    unfold join
    split
    · exact mem_joinFrom_of_control h (by simpa using hc)
    · rcases List.mem_cons.1 hc with rfl | hmem
      · exact List.mem_cons_self
      · exact List.mem_cons_of_mem d (ih hmem)

/-- Composition leaves control characters as they are. -/
theorem mem_composed_of_control (h : c.toNat ≤ 0x20) {s : List Char} (hc : c ∈ s) :
    c ∈ composed s := by
  unfold composed
  split
  · exact hc
  · refine mem_join_of_control h (mem_orderMarks.2 (.inr ?_))
    refine List.mem_flatMap.2 ⟨c, hc, ?_⟩
    rw [takeApart_of_control h]
    exact List.mem_singleton_self c

/-! ## Bytes -/

namespace Utf8

/-- A byte that a character goes on with is none of ASCII. -/
def State.WantsHigh : State → Prop
  | .between => True
  | .inside _ low _ _ => 0x80 ≤ low

theorem wantsHigh_first (b : Nat) : (first b).2.WantsHigh := by
  unfold first
  split
  · trivial
  split
  · trivial
  split
  · exact Nat.le_refl _
  split
  · show 0x80 ≤ ite _ _ _
    split <;> decide
  split
  · show 0x80 ≤ ite _ _ _
    split <;> decide
  · trivial

theorem wantsHigh_step {state : State} (h : state.WantsHigh) (b : Nat) :
    (step state b).2.WantsHigh := by
  cases state with
  | between => exact wantsHigh_first b
  | inside wanted low high bits =>
    unfold step
    dsimp only
    split
    · split
      · trivial
      · exact Nat.le_refl _
    · exact wantsHigh_first b

/-- A byte of ASCII is a character wherever reading stands. -/
theorem mem_step_of_ascii {state : State} (h : state.WantsHigh) {b : Nat} (hb : b < 0x80) :
    Char.ofNat b ∈ (step state b).1 := by
  have hfirst : first b = ([Char.ofNat b], .between) := if_pos hb
  cases state with
  | between =>
    rw [step, hfirst]
    exact List.mem_singleton_self _
  | inside wanted low high bits =>
    have hlow : ¬ low ≤ b := Nat.not_le.2 (Nat.lt_of_lt_of_le hb h)
    simp [step, hlow, hfirst]

theorem mem_readFrom_of_ascii {state : State} (h : state.WantsHigh) {b : UInt8}
    (hb : b.toNat < 0x80) {bytes : List UInt8} (hmem : b ∈ bytes) :
    Char.ofNat b.toNat ∈ readFrom state bytes := by
  induction bytes generalizing state with
  | nil => cases hmem
  | cons a rest ih =>
    rw [readFrom]
    dsimp only
    rcases List.mem_cons.1 hmem with rfl | hrest
    · exact List.mem_append_left _ (mem_step_of_ascii h hb)
    · exact List.mem_append_right _ (ih (wantsHigh_step h _) hrest)

/-- A byte of ASCII is a character of the text. -/
theorem mem_read_of_ascii {b : UInt8} (hb : b.toNat < 0x80) {bytes : List UInt8} (hmem : b ∈ bytes) :
    Char.ofNat b.toNat ∈ (read bytes).toList := by
  have hbetween : State.between.WantsHigh := trivial
  rw [read, String.toList_ofList]
  exact mem_readFrom_of_ascii hbetween hb hmem

end Utf8

end Text

namespace Url

open Text

variable {c : Char}

/-! ## Hosts -/

theorem hexDigit?_of_control (h : c.toNat ≤ 0x20) : hexDigit? c = none :=
  forall_control (P := fun c => hexDigit? c = none) (by decide) h

theorem utf8EncodeChar_of_control (h : c.toNat ≤ 0x20) :
    String.utf8EncodeChar c = [UInt8.ofNat c.toNat] :=
  forall_control (P := fun c => String.utf8EncodeChar c = [UInt8.ofNat c.toNat]) (by decide) h

theorem mem_decodePercent_of_control (h : c.toNat ≤ 0x20) {s : List Char} (hc : c ∈ s) :
    UInt8.ofNat c.toNat ∈ decodePercent s := by
  have hpercent : c ≠ '%' := by
    rintro rfl
    revert h
    decide
  fun_induction decodePercent s with
  | case1 a b rest x y hb ha ih =>
    refine List.mem_cons_of_mem _ (ih ?_)
    have hca : c ≠ a := fun heq => by
      rw [← heq, hexDigit?_of_control h] at ha
      cases ha
    have hcb : c ≠ b := fun heq => by
      rw [← heq, hexDigit?_of_control h] at hb
      cases hb
    simpa [hpercent, hca, hcb] using hc
  | case2 a b rest _ ih =>
    refine List.mem_cons_of_mem _ (ih ?_)
    simpa [hpercent] using hc
  | case3 d rest _ ih =>
    rcases List.mem_cons.1 hc with rfl | hmem
    · rw [utf8EncodeChar_of_control h]
      exact List.mem_append_left _ (List.mem_singleton_self _)
    · exact List.mem_append_right _ (ih hmem)
  | case4 => cases hc

theorem mem_read_decodePercent_of_control (h : c.toNat ≤ 0x20) {s : List Char} (hc : c ∈ s) :
    c ∈ (Utf8.read (decodePercent s)).toList := by
  have hbyte : (UInt8.ofNat c.toNat).toNat = c.toNat :=
    UInt8.toNat_ofNat_of_lt (Nat.lt_of_le_of_lt h (by decide))
  have hascii : (UInt8.ofNat c.toNat).toNat < 0x80 := by omega
  have hread := Utf8.mem_read_of_ascii hascii (mem_decodePercent_of_control h hc)
  rwa [hbyte, Char.ofNat_toNat] at hread

theorem inRanges_of_lt {ranges : List (Nat × Nat)} {n : Nat} (h : ∀ r ∈ ranges, n < r.1) :
    inRanges ranges n = false := by
  refine List.any_eq_false.2 fun r hr => ?_
  have hfirst := h r hr
  simp only [Bool.and_eq_true, decide_eq_true_eq]
  omega

theorem fromBlocks_of_lt {α : Type} {blocks : List (Nat × List α)} {n : Nat}
    (h : ∀ b ∈ blocks, n < b.1) : fromBlocks blocks n = none :=
  List.findSome?_eq_none_iff.2 fun b hb => if_neg (Nat.not_le.2 (h b hb))

theorem fromBlocks_map_of_lt {α β : Type} {blocks : List (Nat × α)} {f : Nat × α → Nat × List β}
    {n : Nat} (hf : ∀ b, (f b).1 = b.1) (h : ∀ b ∈ blocks, n < b.1) :
    fromBlocks (blocks.map f) n = none := by
  refine fromBlocks_of_lt fun b hb => ?_
  obtain ⟨b', hb', rfl⟩ := List.mem_map.1 hb
  rw [hf]
  exact h b' hb'

/-- A control character of a name stays as it is, for all that is mapped comes after the last. -/
theorem mapDomainChar_of_control (h : c.toNat ≤ 0x20) : mapDomainChar c = some [c] := by
  have hdisallowed : ∀ r ∈ domainDisallowed, 0x20 < r.1 := by decide +kernel
  have hignored : ∀ r ∈ domainIgnored, 0x20 < r.1 := by decide +kernel
  have hruns : ∀ run ∈ domainRuns, 0x20 < run.first := by decide +kernel
  have hsingles : ∀ b ∈ domainSingles, 0x20 < b.1 := by decide +kernel
  have htexts : ∀ b ∈ domainTexts, 0x20 < b.1 := by decide +kernel
  have hrun : domainRuns.find? (·.holds c.toNat) = none := by
    refine List.find?_eq_none.2 fun run hmem => ?_
    have hfirst := hruns run hmem
    simp only [CaseRun.holds, Bool.and_eq_true, decide_eq_true_eq]
    omega
  have hsingle : ∀ f : Nat × String → Nat × List Char, (∀ b, (f b).1 = b.1) →
      fromBlocks (domainSingles.map f) c.toNat = none :=
    fun f hf => fromBlocks_map_of_lt hf fun b hb => Nat.lt_of_le_of_lt h (hsingles b hb)
  have htext : fromBlocks domainTexts c.toNat = none :=
    fromBlocks_of_lt fun b hb => Nat.lt_of_le_of_lt h (htexts b hb)
  unfold mapDomainChar
  dsimp only
  rw [inRanges_of_lt fun r hr => Nat.lt_of_le_of_lt h (hdisallowed r hr),
    inRanges_of_lt fun r hr => Nat.lt_of_le_of_lt h (hignored r hr), hrun,
    hsingle _ fun _ => rfl, htext]
  rfl

theorem mem_of_mapM {α β : Type} {f : α → Option β} {a : α} {b : β} {l : List α} {bs : List β}
    (h : l.mapM f = some bs) (ha : a ∈ l) (hb : f a = some b) : b ∈ bs := by
  induction l generalizing bs with
  | nil => cases ha
  | cons d rest ih =>
    rw [List.mapM_cons] at h
    obtain ⟨b', hb', h⟩ := Option.bind_eq_some_iff.1 h
    obtain ⟨bs', hbs', h⟩ := Option.bind_eq_some_iff.1 h
    cases h
    rcases List.mem_cons.1 ha with rfl | hmem
    · cases hb'.symm.trans hb
      exact List.mem_cons_self
    · exact List.mem_cons_of_mem b' (ih hbs' hmem)

/-- A text with a control character is no domain name. -/
theorem mapDomain_of_control (h : c.toNat ≤ 0x20) {s : List Char} (hc : c ∈ s) :
    mapDomain s = none := by
  unfold mapDomain
  cases hmapped : s.mapM mapDomainChar with
  | none => rfl
  | some mapped =>
    have hmem : [c] ∈ mapped := mem_of_mapM hmapped hc (mapDomainChar_of_control h)
    have hforbidden : (composed mapped.flatten).any isForbidden := by
      refine List.any_eq_true.2 ⟨c, mem_composed_of_control h ?_, ?_⟩
      · exact List.mem_flatten.2 ⟨[c], hmem, List.mem_singleton_self c⟩
      · simp [isForbidden, h]
    exact if_pos hforbidden

/-- A host that ends in a control character cannot be read. -/
theorem readHost_of_control {s : List Char} (h : c.toNat ≤ 0x20) (hlast : s.getLast? = some c) :
    ∃ e, readHost s = .error e := by
  have hc : c ∈ s := List.mem_of_getLast? hlast
  unfold readHost
  split
  · next rest =>
    refine ⟨.longAddress, ?_⟩
    have hbracket : rest.getLast? ≠ some ']' := by
      intro heq
      cases rest with
      | nil => cases heq
      | cons d rest =>
        rw [List.getLast?_cons_cons, heq] at hlast
        cases hlast
        revert h
        decide
    unfold bracketed
    split
    · next heq _ => exact absurd heq hbracket
    · rfl
  · refine ⟨.domain, ?_⟩
    have hnone : domainToAscii? (Utf8.read (decodePercent s)).toList = none := by
      rw [domainToAscii?, mapDomain_of_control h (mem_read_decodePercent_of_control h hc)]
      rfl
    rw [hnone]

end Url

end FedLoad
