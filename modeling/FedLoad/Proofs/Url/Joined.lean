import FedLoad.Plan.Fault
import FedLoad.Proofs.Url.Authority
/-!
# Addresses with a path put behind them

Control characters and spaces at the end of an address count for nothing when it is read. They stay
there, though, when the slashes at its end are dropped, and once a path is put behind it they are at
its end no longer. If the address has a path of its own, they are part of the path and do no harm.
Otherwise they become part of its authority, and what was put together cannot be read.

Main statements: `Url.readable_body_append`, `Url.readable_body_iff`, `Fault.ofUrl?_lead`.
-/
namespace FedLoad

namespace Url

variable {s t : List Char} {c : Char}

/-! ## Ends -/

/-- The text without the control characters and spaces at its end. -/
def dropControls (s : List Char) : List Char := s.rdropWhile isControlOrSpace

theorem dropControls_append (h : ∀ c, s.getLast? = some c → isControlOrSpace c = false)
    (t : List Char) : dropControls (s ++ t) = s ++ dropControls t := by
  have hs : s.reverse.dropWhile isControlOrSpace = s.reverse := by
    cases hrev : s.reverse with
    | nil => rfl
    | cons c rest =>
      refine List.dropWhile_cons_of_neg ?_
      have hlast : s.getLast? = some c := by rw [← List.head?_reverse, hrev, List.head?_cons]
      simp [h c hlast]
  unfold dropControls List.rdropWhile
  rw [List.reverse_append, List.dropWhile_append, hs]
  split
  · next hempty =>
    rw [List.isEmpty_iff.1 hempty, List.reverse_reverse, List.reverse_nil, List.append_nil]
  · rw [List.reverse_append, List.reverse_reverse]

theorem exists_controls (s : List Char) :
    ∃ w, (∀ c ∈ w, isControlOrSpace c) ∧ dropControls s ++ w = s := by
  refine ⟨s.rtakeWhile isControlOrSpace, fun c hc => ?_, ?_⟩
  · exact List.mem_rtakeWhile_imp hc
  · exact List.rdropWhile_append_rtakeWhile

/-! ## Bodies -/

/-- The text without line breaks and tabs. -/
def unbroken (s : List Char) : List Char := s.filter fun c => !(c = '\t' || c = '\n' || c = '\x0d')

/-- What stands behind the slashes at its beginning, without line breaks and tabs. -/
def body (s : List Char) : List Char := (unbroken s).dropWhile isSlash

theorem body_append (h : body s ≠ []) (t : List Char) : body (s ++ t) = body s ++ unbroken t := by
  unfold body unbroken
  rw [List.filter_append, List.dropWhile_append, if_neg]
  exact fun hempty => h (List.isEmpty_iff.1 hempty)

theorem body_append_of_slashes (h : body s = []) (ht : ∀ c ∈ t, c = '/') : body (s ++ t) = [] := by
  unfold body unbroken at h ⊢
  rw [List.filter_append, List.dropWhile_append, h, List.isEmpty_nil, if_pos rfl,
    List.dropWhile_eq_nil_iff]
  intro c hc
  rw [ht c (List.mem_of_mem_filter hc)]
  rfl

/-! ## Beginnings -/

def scheme (secure : Bool) : String := if secure then "https" else "http"

/-- With what the address of a server begins. -/
def lead (secure : Bool) : List Char := (if secure then "https://" else "http://").toList

/-- Is there a server at this authority? -/
def Readable (s : List Char) : Prop := ∃ host, readAuthority true s = .ok host

theorem Readable.ne_nil (h : Readable s) : s ≠ [] := by
  rintro rfl
  obtain ⟨host, hhost⟩ := h
  cases hhost

theorem readable_congr (h : authority s = authority t) : Readable s ↔ Readable t := by
  unfold Readable
  rw [← readAuthority_authority s, h, readAuthority_authority]

theorem tidy_lead (secure : Bool) (s : List Char) :
    tidy (lead secure ++ s) = lead secure ++ unbroken (dropControls s) := by
  have hend : ∀ c, (lead secure).getLast? = some c → isControlOrSpace c = false := by
    intro c hc
    cases secure <;> cases hc <;> rfl
  have hstart : (lead secure ++ s).dropWhile isControlOrSpace = lead secure ++ s := by
    cases secure <;> rfl
  have htidy : tidy (lead secure ++ s) =
      unbroken (dropControls ((lead secure ++ s).dropWhile isControlOrSpace)) := rfl
  rw [htidy, hstart, dropControls_append hend, unbroken, List.filter_append]
  cases secure <;> rfl

theorem cutScheme?_lead (secure : Bool) (s : List Char) :
    cutScheme? (lead secure ++ s) = some ((scheme secure).toList, '/' :: '/' :: s) := by
  cases secure <;> rfl

theorem readHostOf_scheme (secure : Bool) (s : List Char) :
    readHostOf (scheme secure) ('/' :: '/' :: unbroken s) = readAuthority true (body s) := by
  cases secure <;> exact if_pos (by decide)

theorem read_lead {secure : Bool} {url : String} (h : url.toList = lead secure ++ s) :
    read url = (readAuthority true (body (dropControls s))).map fun host =>
      ⟨scheme secure, host.map String.ofList⟩ := by
  unfold read
  rw [h, tidy_lead, cutScheme?_lead]
  dsimp only
  rw [String.ofList_toList, readHostOf_scheme]

/-! ## Frayed addresses -/

/-- What stands behind the scheme of an address and the slashes after it. -/
def afterSlashes (s : List Char) : List Char := body ((s.dropWhile (· ≠ ':')).drop 1)

/-- Is all of this authority, and does it end in a control character or a space? -/
def isLoose (s : List Char) : Bool :=
  s.all (fun c => !endsAuthority true c) && s.getLast?.any isControlOrSpace

/-- Does the authority of this address end in a control character or a space, with nothing behind
it? -/
def isFrayed (url : String) : Bool := isLoose (afterSlashes url.toList)

theorem isLoose_iff :
    isLoose s ↔ IsAuthority s ∧ ∃ c, s.getLast? = some c ∧ isControlOrSpace c := by
  simp only [isLoose, Bool.and_eq_true, List.all_eq_true, Option.any_eq_true, IsAuthority,
    Bool.not_eq_true']

theorem isFrayed_lead {secure : Bool} {url : String} (h : url.toList = lead secure ++ s) :
    isFrayed url = isLoose (body s) := by
  rw [isFrayed, h]
  cases secure <;> rfl

/-- Control characters and spaces are part of the authority before them only if it ends loosely
then. -/
theorem authority_append_of_not_loose (ht : ∀ c ∈ t, isControlOrSpace c) (h : ¬ isLoose (s ++ t)) :
    authority (s ++ t) = authority s := by
  by_cases hends : ∃ c ∈ s, endsAuthority true c
  · obtain ⟨c, hc, hcends⟩ := hends
    exact authority_append_of_mem hc hcends t
  · have hs : IsAuthority s := by simpa [IsAuthority] using hends
    cases hlast : t.getLast? with
    | none => rw [List.getLast?_eq_none_iff.1 hlast, List.append_nil]
    | some c =>
      refine absurd (isLoose_iff.2 ⟨?_, c, ?_, ht c (List.mem_of_getLast? hlast)⟩) h
      · intro d hd
        rcases List.mem_append.1 hd with hd | hd
        · exact hs d hd
        · exact endsAuthority_of_control (ht d hd)
      · rw [List.getLast?_append, hlast, Option.some_or]

/-- Something stands behind the slashes of what is readable but for slashes and controls. -/
theorem body_ne_nil {n : Nat} (h : Readable (body (dropControls (s ++ List.replicate n '/')))) :
    body s ≠ [] := by
  intro hs
  have hslashes : body (s ++ List.replicate n '/') = [] :=
    body_append_of_slashes hs fun c hc => List.eq_of_mem_replicate hc
  obtain ⟨w, -, hsplit⟩ := exists_controls (s ++ List.replicate n '/')
  rw [← hsplit, body_append h.ne_nil] at hslashes
  exact h.ne_nil (List.append_eq_nil_iff.1 hslashes).1

/-- With a path behind it, an address can be read just if its body can. -/
theorem readable_body_append (h : body s ≠ []) (t : List Char) :
    Readable (body (dropControls (s ++ '/' :: t))) ↔ Readable (body s) := by
  have hdrop : dropControls (s ++ '/' :: t) = s ++ '/' :: dropControls t := by
    have hslash : ∀ c, (s ++ ['/']).getLast? = some c → isControlOrSpace c = false := by
      intro c hc
      rw [List.getLast?_concat] at hc
      cases hc
      rfl
    have happend := dropControls_append hslash t
    rwa [List.append_assoc, List.append_assoc] at happend
  rw [hdrop, body_append h]
  refine readable_congr (authority_append_of_follows ?_ _)
  intro c hc
  cases hc
  rfl

/-- What is readable but for slashes and controls behind it is so unless it ends loosely. -/
theorem readable_body_iff {n : Nat}
    (h : Readable (body (dropControls (s ++ List.replicate n '/')))) :
    Readable (body s) ↔ ¬ isLoose (body s) := by
  constructor
  · rintro ⟨host, hhost⟩ hloose
    obtain ⟨hauthority, c, hlast, hc⟩ := isLoose_iff.1 hloose
    obtain ⟨e, he⟩ := readAuthority_of_control hc hauthority hlast
    cases hhost.symm.trans he
  · intro hloose
    cases n with
    | succ n => exact (readable_body_append (body_ne_nil h) _).1 h
    | zero =>
      rw [List.replicate_zero, List.append_nil] at h
      obtain ⟨w, hw, hsplit⟩ := exists_controls s
      have hbody : body s = body (dropControls s) ++ unbroken w := by
        rw [← body_append h.ne_nil, hsplit]
      rw [hbody] at hloose ⊢
      have hcontrols : ∀ c ∈ unbroken w, isControlOrSpace c :=
        fun c hc => hw c (List.mem_of_mem_filter hc)
      exact (readable_congr (authority_append_of_not_loose hcontrols hloose)).2 h

end Url

open Url

/-! ## Faults -/

variable {url : String} {s : List Char}

theorem Fault.exists_lead (h : Fault.ofUrl? url = none) :
    ∃ secure s, url.toList = lead secure ++ s := by
  unfold Fault.ofUrl? at h
  split at h
  · cases h
  split at h
  · cases h
  next hstart =>
  simp only [Bool.and_eq_true, Bool.not_eq_true', not_and_or, Bool.not_eq_false,
    String.startsWith_string_iff] at hstart
  rcases hstart with ⟨s, hs⟩ | ⟨s, hs⟩
  · exact ⟨false, s, hs.symm⟩
  · exact ⟨true, s, hs.symm⟩

theorem Fault.ofUrl?_lead {secure : Bool} (h : url.toList = lead secure ++ s) :
    Fault.ofUrl? url = none ↔ Readable (body (dropControls s)) := by
  have hempty : ¬ url.isEmpty := by
    rw [String.isEmpty_iff]
    rintro rfl
    cases secure <;> cases h
  have hstart : ¬ (!url.startsWith "http://" && !url.startsWith "https://") := by
    simp only [Bool.and_eq_true, Bool.not_eq_true', not_and_or, Bool.not_eq_false,
      String.startsWith_string_iff]
    cases secure with
    | false => exact .inl ⟨s, h.symm⟩
    | true => exact .inr ⟨s, h.symm⟩
  unfold Fault.ofUrl? Readable
  rw [if_neg hempty, if_neg hstart, read_lead h]
  cases readAuthority true (body (dropControls s)) <;> simp [Except.map]

end FedLoad
