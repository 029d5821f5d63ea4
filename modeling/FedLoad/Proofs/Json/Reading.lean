import FedLoad.Json.Printer
import FedLoad.Json.Reader
import FedLoad.Proofs.Decimal.Amounts
import FedLoad.Proofs.Json.Normal
/-!
# What is read is equal to itself

A value is equal to itself unless a double in it is not a number, and no text stands for such a
value. A double is read as a whole number of sixty-four bits that is scaled by powers of ten; all of
these are above zero and finite, so that no two infinities and no zero and infinity meet, and a sign
makes no difference.

A text is read token by token, and each token is sound, which is to say that its value is equal to
itself. What is open while tokens are put together holds values that were put together before, so
the whole is sound by induction on the tokens. Sorting fields drops values and makes no new ones, and
the order in which they were written is lost in it.

Main statements: `Json.equal_of_read?` and `Json.read?_write_of_perm`.
-/
namespace FedLoad.Json

/-! ## Numbers -/

theorem leading_lt {n : Nat} (h : n < 2 ^ 64) (ds : List Char) : (leading n ds).1 < 2 ^ 64 := by
  induction ds generalizing n with
  | nil => exact h
  | cons c rest ih =>
    rw [leading]
    split
    · next hroom => exact ih hroom
    · exact h

theorem isPositive_powerOfTen {k : Nat} (h : k ≤ topPower) : IsPositive (powerOfTen k) := by
  have hk : k ≤ 308 := h
  have hnearest := Decimal.isNearest_ofScientific Nat.one_ne_zero (e := k) (by omega) (by omega)
  rw [decide_eq_false (by omega), Int.natAbs_natCast, Nat.cast_one, one_mul,
    zpow_natCast] at hnearest
  exact hnearest.isPositive (one_le_pow₀ (by norm_num)) (pow_le_pow_right₀ (by norm_num) hk)

theorem isAmount_divideByPower {x : Float} (hx : IsAmount x) (k : Nat) :
    IsAmount (divideByPower x k) := by
  fun_induction divideByPower x k with
  | case1 x k h => exact hx.div (isPositive_powerOfTen h)
  | case2 x k h hzero => exact hx
  | case3 x k h hzero ih => exact ih (hx.div (isPositive_powerOfTen (Nat.le_refl _)))

theorem isAmount_scale? {n : Nat} (hn : n < 2 ^ 64) {e : Int} {x : Float}
    (h : scale? n e = some x) : IsAmount x := by
  have hwhole := isAmount_floatOfNat hn
  unfold scale? at h
  dsimp only at h
  split at h
  · cases h
    exact isAmount_divideByPower hwhole _
  · split at h
    · next hpower =>
      split at h
      · cases h
        exact hwhole.mul (isPositive_powerOfTen hpower)
      · cases h
    · split at h
      · cases h
        exact hwhole
      · cases h

/-- A double that is read is not below zero before its sign is. -/
theorem isAmount_double? {whole fraction : List Char} {exponent : Int} {x : Float}
    (h : double? whole fraction exponent = some x) : IsAmount x := by
  have hdigits := leading_lt (leading_lt (Nat.two_pow_pos 64) whole) fraction
  unfold double? at h
  dsimp only at h
  split at h
  · exact isAmount_scale? hdigits h
  · split at h
    · cases h
    · cases h
      exact isNearest_zero.isAmount

theorem equal_signed {x : Float} (hx : IsAmount x) (negative : Bool) :
    Equal (.float (if negative then -x else x)) (.float (if negative then -x else x)) := by
  refine .float (beq_self_of_ne_nan ?_)
  cases negative with
  | false => exact hx.ne_nan
  | true => exact hx.neg_ne_nan

theorem equal_of_number? {negative : Bool} {whole : List Char} {fraction : Option (List Char)}
    {exponent : Option Int} {j : Json} (h : number? negative whole fraction exponent = some j) :
    j.Equal j := by
  have hsigned {whole fraction : List Char} {exponent : Int}
      (h : ((double? whole fraction exponent).map fun x =>
        Json.float (if negative then -x else x)) = some j) : j.Equal j := by
    obtain ⟨x, hx, rfl⟩ := Option.map_eq_some_iff.1 h
    exact equal_signed (isAmount_double? hx) negative
  unfold number? at h
  dsimp only at h
  split at h
  · split at h
    · cases h
      exact .int _
    · split at h
      · cases h
        exact .int _
      · exact hsigned h
  · exact hsigned h

theorem equal_of_scanNumber? {s rest : List Char} {j : Json}
    (h : scanNumber? s = some (j, rest)) : j.Equal j := by
  simp only [scanNumber?, Option.bind_eq_bind, Option.bind_eq_some_iff, Option.pure_def,
    Option.some_inj, Prod.exists, Prod.mk.injEq] at h
  obtain ⟨whole, s₁, -, fraction, s₂, -, exponent, s₃, -, value, hvalue, rfl, -⟩ := h
  exact equal_of_number? hvalue

/-! ## Tokens -/

/-- Is the value of a token, if it has one, equal to itself? -/
def Token.IsSound : Token → Prop
  | .scalar value => value.Equal value
  | _ => True

theorem isSound_next? {s rest : List Char} {t : Token} (h : next? s = some (t, rest)) :
    t.IsSound := by
  unfold next? at h
  split at h
  case h_7 => cases h; exact .null
  case h_8 => cases h; exact .bool true
  case h_9 => cases h; exact .bool false
  case h_10 =>
    obtain ⟨p, -, hp⟩ := Option.map_eq_some_iff.1 h
    cases hp
    exact .text _
  case h_11 =>
    obtain ⟨⟨value, tail⟩, hvalue, hp⟩ := Option.map_eq_some_iff.1 h
    cases hp
    exact equal_of_scanNumber? hvalue
  all_goals cases h; trivial

theorem isSound_of_tokensWithin {fuel : Nat} {s : List Char} {tokens : List Token}
    (h : tokensWithin fuel s = some tokens) : ∀ t ∈ tokens, t.IsSound := by
  induction fuel generalizing s tokens with
  | zero =>
    rw [tokensWithin] at h
    split at h <;> cases h
    exact List.forall_mem_nil _
  | succ fuel ih =>
    rw [tokensWithin] at h
    split at h
    · cases h
      exact List.forall_mem_nil _
    · split at h
      · cases h
      · next hnext =>
        obtain ⟨rest, hrest, rfl⟩ := Option.map_eq_some_iff.1 h
        exact List.forall_mem_cons.2 ⟨isSound_next? hnext, ih hrest⟩

/-! ## Putting tokens together -/

/-- Are all values that something open holds equal to themselves? -/
def Frame.IsSound : Frame → Prop
  | .list items => ∀ j ∈ items, j.Equal j
  | .record fields | .field fields _ => ∀ p ∈ fields, p.2.Equal p.2

theorem Frame.isSound_accept? {value : Json} (hvalue : value.Equal value)
    {stack stack' : List Frame} (hstack : ∀ f ∈ stack, f.IsSound)
    (h : accept? value stack = some stack') : ∀ f ∈ stack', f.IsSound := by
  unfold accept? at h
  split at h
  · cases h
    obtain ⟨hitems, hrest⟩ := List.forall_mem_cons.1 hstack
    exact List.forall_mem_cons.2 ⟨List.forall_mem_cons.2 ⟨hvalue, hitems⟩, hrest⟩
  · cases h
    obtain ⟨hfields, hrest⟩ := List.forall_mem_cons.1 hstack
    exact List.forall_mem_cons.2 ⟨List.forall_mem_cons.2 ⟨hvalue, hfields⟩, hrest⟩
  · cases h

theorem equal_closed_list {items : List Json} (h : (Frame.list items).IsSound) :
    Equal (.list items.reverse) (.list items.reverse) :=
  equal_self_list_iff.2 fun j hj => h j (List.mem_reverse.1 hj)

theorem equal_closed_record {fields : List (String × Json)} (h : (Frame.record fields).IsSound) :
    Equal (.record fields.reverse) (.record fields.reverse) :=
  equal_self_record_iff.2 fun p hp => h p (List.mem_reverse.1 hp)

theorem equal_of_build? {stack : List Frame} {expect : Expect} {tokens : List Token} {j : Json}
    (hstack : ∀ f ∈ stack, f.IsSound) (htokens : ∀ t ∈ tokens, t.IsSound)
    (h : build? stack expect tokens = some j) : j.Equal j := by
  induction tokens generalizing stack expect with
  | nil => cases h
  | cons token rest ih =>
    obtain ⟨htoken, hrest⟩ := List.forall_mem_cons.1 htokens
    unfold build? at h
    extract_lets complete at h
    have hcomplete {value : Json} {below : List Frame} (hvalue : value.Equal value)
        (hbelow : ∀ f ∈ below, f.IsSound) (h : complete value below = some j) : j.Equal j := by
      unfold complete at h
      split at h
      · split at h <;> cases h
        exact hvalue
      · split at h
        · next haccept => exact ih (Frame.isSound_accept? hvalue hbelow haccept) hrest h
        · cases h
    clear_value complete
    split at h
    · exact hcomplete htoken hstack h
    · split at h
      · refine ih ?_ hrest h
        exact List.forall_mem_cons.2 ⟨List.forall_mem_nil _, hstack⟩
      · cases h
    · split at h
      · refine ih ?_ hrest h
        exact List.forall_mem_cons.2 ⟨List.forall_mem_nil _, hstack⟩
      · cases h
    · obtain ⟨hitems, hbelow⟩ := List.forall_mem_cons.1 hstack
      exact hcomplete (equal_closed_list hitems) hbelow h
    · obtain ⟨hfields, hbelow⟩ := List.forall_mem_cons.1 hstack
      refine ih ?_ hrest h
      exact List.forall_mem_cons.2 ⟨hfields, hbelow⟩
    · obtain ⟨hfields, hbelow⟩ := List.forall_mem_cons.1 hstack
      exact hcomplete (equal_closed_record hfields) hbelow h
    · exact ih hstack hrest h
    · exact ih hstack hrest h
    · exact ih hstack hrest h
    · obtain ⟨hitems, hbelow⟩ := List.forall_mem_cons.1 hstack
      exact hcomplete (equal_closed_list hitems) hbelow h
    · obtain ⟨hfields, hbelow⟩ := List.forall_mem_cons.1 hstack
      exact hcomplete (equal_closed_record hfields) hbelow h
    · cases h

/-- Every value that is read is equal to itself. -/
theorem equal_of_readRaw? {s : String} {j : Json} (h : readRaw? s = some j) : j.Equal j := by
  obtain ⟨tokens, htokens, hbuild⟩ := Option.bind_eq_some_iff.1 h
  exact equal_of_build? (List.forall_mem_nil _) (isSound_of_tokensWithin htokens) hbuild

theorem equal_of_read? {s : String} {j : Json} (h : read? s = some j) : j.Equal j := by
  obtain ⟨raw, hraw, rfl⟩ := Option.map_eq_some_iff.1 h
  exact equal_self_normalize raw (equal_of_readRaw? hraw)

/-! ## The order of fields -/

theorem normal_of_read? {s : String} {j : Json} (h : read? s = some j) : j.normalize = j := by
  obtain ⟨raw, -, rfl⟩ := Option.map_eq_some_iff.1 h
  exact normalize_normalize raw

/-- Is a value read as it was written? Of a double the last place may be lost. -/
def IsReadBack (j : Json) : Prop := readRaw? j.write = some j

/-- The fields of a record in normal form may be written in any order. -/
theorem read?_write_of_perm {written fields : List (String × Json)}
    (h : (Json.record written).IsReadBack) (hperm : written.Perm fields)
    (hsorted : Keyed.Ascending fields) (hnormal : ∀ p ∈ fields, p.2.normalize = p.2) :
    read? (Json.record written).write = some (.record fields) := by
  have hwritten : ∀ p ∈ written, p.2.normalize = p.2 := fun p hp =>
    hnormal p (hperm.mem_iff.1 hp)
  rw [read?, h, Option.map_some, normalize, normalizeFields_of_normal hwritten,
    Keyed.ofList_of_perm hperm hsorted]

end FedLoad.Json
