import Mathlib.Data.List.DropRight
import FedLoad.Proofs.Url.Control
/-!
# Authorities of addresses

Whether the address of a server can be read depends on its authority alone: on what stands behind
the slashes, up to the first character that ends it. An authority that ends in a control character
or a space cannot be read, whether the character belongs to its host or to its port.

Main statements: `Url.readAuthority_authority`, `Url.readAuthority_of_control`.
-/
namespace FedLoad.Url

open Text Decimal

/-- No character of the text ends an authority. -/
def IsAuthority (s : List Char) : Prop := ∀ c ∈ s, endsAuthority true c = false

/-- The text can stand behind an authority: it is empty, or begins with what ends one. -/
def Follows (s : List Char) : Prop := ∀ c, s.head? = some c → endsAuthority true c

/-- What stands before the first character that ends an authority. -/
def authority (s : List Char) : List Char := s.takeWhile fun c => !endsAuthority true c

variable {s t : List Char} {c : Char}

theorem isAuthority_authority (s : List Char) : IsAuthority (authority s) := by
  intro c hc
  simpa using List.all_eq_true.1 List.all_takeWhile c hc

theorem exists_authority (s : List Char) : ∃ t, Follows t ∧ authority s ++ t = s := by
  refine ⟨s.dropWhile fun c => !endsAuthority true c, ?_, List.takeWhile_append_dropWhile⟩
  intro c hc
  have hhead := List.head?_dropWhile_not (fun c => !endsAuthority true c) s
  rw [hc] at hhead
  simpa using hhead

theorem authority_append (hs : IsAuthority s) (t : List Char) :
    authority (s ++ t) = s ++ authority t :=
  List.takeWhile_append_of_pos fun c hc => by simp [hs c hc]

theorem authority_of_follows (h : Follows t) : authority t = [] := by
  cases t with
  | nil => rfl
  | cons c t => exact List.takeWhile_cons_of_neg (by simp [h c rfl])

theorem authority_append_of_mem (hc : c ∈ s) (hends : endsAuthority true c) (t : List Char) :
    authority (s ++ t) = authority s := by
  induction s with
  | nil => cases hc
  | cons d s ih =>
    rw [List.cons_append, authority, authority, List.takeWhile_cons, List.takeWhile_cons]
    split
    · next hd =>
      rcases List.mem_cons.1 hc with rfl | hmem
      · simp [hends] at hd
      · exact congrArg (d :: ·) (ih hmem)
    · rfl

theorem authority_eq_self (hs : IsAuthority s) : authority s = s := by
  have happend := authority_append hs []
  rw [List.append_nil] at happend
  exact happend.trans (List.append_nil s)

theorem authority_append_of_follows (ht : Follows t) (s : List Char) :
    authority (s ++ t) = authority s := by
  by_cases hends : ∃ c ∈ s, endsAuthority true c
  · obtain ⟨c, hc, hcends⟩ := hends
    exact authority_append_of_mem hc hcends t
  · have hs : IsAuthority s := by simpa [IsAuthority] using hends
    rw [authority_append hs, authority_of_follows ht, authority_eq_self hs, List.append_nil]

/-! ## Parts of an authority -/

/-- The host and the port, without the credentials before them. -/
def server (s : List Char) : List Char := ((cutCredentials? true s).map Prod.snd).getD s

theorem readAuthority_true (s : List Char) : readAuthority true s =
    if (cutHost true false (server s)).1.isEmpty then .error .emptyHost
    else (readHost (cutHost true false (server s)).1).bind fun name =>
      if portHolds (cutHost true false (server s)).2 then .ok (some name) else .error .port := by
  unfold readAuthority server
  cases cutCredentials? true s <;> rfl

/-- What stands behind the last `@`. -/
def behindAt (s : List Char) : List Char := s.rtakeWhile fun c => decide (c ≠ '@')

theorem server_append (hs : IsAuthority s) (ht : Follows t) :
    server (s ++ t) = behindAt s ++ t := by
  have htake : (s ++ t).takeWhile (fun c => !endsAuthority true c) = s := by
    rw [← authority, authority_append hs, authority_of_follows ht, List.append_nil]
  have hdrop : (s ++ t).dropWhile (fun c => !endsAuthority true c) = t := by
    have hsplit := List.takeWhile_append_dropWhile (p := fun c => !endsAuthority true c)
      (l := s ++ t)
    rw [htake] at hsplit
    exact List.append_cancel_left hsplit
  unfold server cutCredentials?
  rw [htake, hdrop]
  dsimp only
  split
  · rfl
  · next hnone =>
    have hall : behindAt s = s := by
      refine List.rtakeWhile_eq_self_iff.2 fun c hc => ?_
      rw [decide_eq_true_eq]
      rintro rfl
      exact hnone (List.contains_iff_mem.2 hc)
    rw [hall]
    rfl

theorem server_eq (hs : IsAuthority s) : server s = behindAt s := by
  have happend := server_append hs (t := []) nofun
  rwa [List.append_nil, List.append_nil] at happend

theorem isAuthority_of_suffix (hs : IsAuthority s) (h : t <:+ s) : IsAuthority t :=
  fun c hc => hs c (h.subset hc)

theorem isAuthority_behindAt (hs : IsAuthority s) : IsAuthority (behindAt s) :=
  isAuthority_of_suffix hs (List.rtakeWhile_suffix _ s)

theorem getLast?_behindAt (hlast : s.getLast? = some c) (hc : c ≠ '@') :
    (behindAt s).getLast? = some c := by
  rw [behindAt, List.rtakeWhile, List.getLast?_reverse, List.head?_takeWhile, List.head?_reverse,
    hlast]
  simp [Option.filter, hc]

theorem cutHost_append (hs : IsAuthority s) (ht : Follows t) (inBrackets : Bool) :
    cutHost true inBrackets (s ++ t) =
      ((cutHost true inBrackets s).1, (cutHost true inBrackets s).2 ++ t) := by
  induction s generalizing inBrackets with
  | nil =>
    cases t with
    | nil => rfl
    | cons c t => simp [cutHost, ht c rfl]
  | cons c s ih =>
    rw [IsAuthority, List.forall_mem_cons] at hs
    rw [List.cons_append]
    unfold cutHost
    split
    · rfl
    · dsimp only
      rw [ih hs.2]

theorem cutHost_spec (hs : IsAuthority s) (inBrackets : Bool) :
    (cutHost true inBrackets s).1 ++ (cutHost true inBrackets s).2 = s ∧
      ((cutHost true inBrackets s).2 = [] ∨
        ∃ port, (cutHost true inBrackets s).2 = ':' :: port) := by
  induction s generalizing inBrackets with
  | nil => exact ⟨rfl, .inl rfl⟩
  | cons c s ih =>
    rw [IsAuthority, List.forall_mem_cons] at hs
    unfold cutHost
    split
    · next hc =>
      rw [hs.1] at hc
      refine ⟨rfl, .inr ⟨s, ?_⟩⟩
      simp only [Bool.false_or, Bool.and_eq_true, decide_eq_true_eq] at hc
      rw [hc.1]
    · obtain ⟨hsplit, hport⟩ :=
        ih hs.2 (if c = '[' then true else if c = ']' then false else inBrackets)
      exact ⟨congrArg (c :: ·) hsplit, hport⟩

theorem portHolds_cons (port : List Char) : portHolds (':' :: port) =
    ((authority port).all isDigit && decide (ofDigits (authority port) < Nat.pow 2 16)) := rfl

theorem portHolds_append (hs : IsAuthority s) (hport : s = [] ∨ ∃ port, s = ':' :: port)
    (ht : Follows t) : portHolds (s ++ t) = portHolds s := by
  rcases hport with rfl | ⟨port, rfl⟩
  · cases t with
    | nil => rfl
    | cons c t =>
      have hc : c ≠ ':' := by
        rintro rfl
        exact absurd (ht ':' rfl) (by decide)
      simp [portHolds, hc]
  · rw [IsAuthority, List.forall_mem_cons] at hs
    rw [List.cons_append, portHolds_cons, portHolds_cons, authority_append hs.2,
      authority_of_follows ht, authority_eq_self hs.2, List.append_nil]

/-! ## Reading -/

theorem readAuthority_append (hs : IsAuthority s) (ht : Follows t) :
    readAuthority true (s ++ t) = readAuthority true s := by
  have hserver := isAuthority_behindAt hs
  obtain ⟨hsplit, hport⟩ := cutHost_spec hserver false
  have hrest : IsAuthority (cutHost true false (behindAt s)).2 :=
    isAuthority_of_suffix hserver ⟨_, hsplit⟩
  rw [readAuthority_true, readAuthority_true, server_append hs ht, server_eq hs,
    cutHost_append hserver ht, portHolds_append hrest hport ht]

/-- Nothing but the authority of a text matters. -/
theorem readAuthority_authority (s : List Char) :
    readAuthority true (authority s) = readAuthority true s := by
  obtain ⟨t, ht, hsplit⟩ := exists_authority s
  rw [← readAuthority_append (isAuthority_authority s) ht, hsplit]

theorem endsAuthority_of_control (h : isControlOrSpace c) : endsAuthority true c = false :=
  forall_control (P := fun c => endsAuthority true c = false) (by decide) (of_decide_eq_true h)

theorem portHolds_of_control (h : isControlOrSpace c) {port : List Char} (hs : IsAuthority port)
    (hlast : port.getLast? = some c) : portHolds (':' :: port) = false := by
  have hdigit : ¬ isDigit c :=
    forall_control (P := fun c => ¬ isDigit c) (by decide) (of_decide_eq_true h)
  have hport : port.all isDigit = false :=
    List.all_eq_false.2 ⟨c, List.mem_of_getLast? hlast, hdigit⟩
  rw [portHolds_cons, authority_eq_self hs, hport]
  rfl

/-- An authority that ends in a control character or a space cannot be read. -/
theorem readAuthority_of_control (h : isControlOrSpace c) (hs : IsAuthority s)
    (hlast : s.getLast? = some c) : ∃ e, readAuthority true s = .error e := by
  have hcontrol : c.toNat ≤ 0x20 := of_decide_eq_true h
  have hother : c ≠ '@' ∧ c ≠ ':' :=
    forall_control (P := fun c => c ≠ '@' ∧ c ≠ ':') (by decide) hcontrol
  have hserver := isAuthority_behindAt hs
  have hend := getLast?_behindAt hlast hother.1
  rw [readAuthority_true, server_eq hs]
  obtain ⟨hsplit, hport⟩ := cutHost_spec hserver false
  rcases hport with hnone | ⟨port, hport⟩
  · -- the host ends in the character
    rw [hnone, List.append_nil] at hsplit
    rw [hsplit]
    obtain ⟨e, he⟩ := readHost_of_control hcontrol hend
    rw [he]
    split
    · exact ⟨_, rfl⟩
    · exact ⟨e, rfl⟩
  · -- the port ends in it
    rw [hport] at hsplit ⊢
    have hportEnd : port.getLast? = some c := by
      rw [← hsplit, List.getLast?_append] at hend
      cases port with
      | nil =>
        cases hend
        exact absurd rfl hother.2
      | cons d port => simpa using hend
    have hportAuthority : IsAuthority port :=
      isAuthority_of_suffix hserver ⟨(cutHost true false (behindAt s)).1 ++ [':'], by simp [hsplit]⟩
    rw [portHolds_of_control h hportAuthority hportEnd]
    split
    · exact ⟨_, rfl⟩
    · cases readHost (cutHost true false (behindAt s)).1 with
      | error e => exact ⟨e, rfl⟩
      | ok name => exact ⟨.port, rfl⟩

end FedLoad.Url
