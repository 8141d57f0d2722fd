import GuardedLaunch.Kernel.Fault

/-!
# Verdicts on a sequence of calls

Faults count the calls that they let pass, so what they decide about a call depends
on the calls made before it. Where the calls of a sequence are known in advance, so
are all decisions: they are a function of the faults at the start.

- `Fault.askAll`: the faults after they have been asked about each call of a list.
- `Fault.verdict`: what the faults decide about one call of a list.
- `verdict_append_of_not_mem`, `verdict_append_of_mem`, `verdict_split`: the verdict on
  a call is the decision at its place in the list. These carry the per-call lemmas to
  whole sequences.
- `verdict_askAll_of_kind_ne`: calls of other kinds use up nothing of what the faults let
  pass, so a part of a sequence is judged as if it stood alone. In particular, by
  `verdict_of_kinds`, no order matters among calls of which no two are of one kind.
-/

namespace GuardedLaunch

namespace Fault

/-- The faults after each call of a list has been asked about, in order. -/
def askAll (services : List Service) (faults : List Fault) : List Fault :=
  services.foldl (fun faults service => (consult service faults).faults) faults

@[simp] theorem askAll_cons (service : Service) (services : List Service)
    (faults : List Fault) :
    askAll (service :: services) faults
      = askAll services (consult service faults).faults := rfl

/-- What faults decide about a call when the calls of a list are made in order: the
effect on it, if it is struck. A call that is not in the list is never struck. -/
def verdict (service : Service) : List Service → List Fault → Option Effect
  | [], _ => none
  | next :: later, faults =>
    if next = service then (consult next faults).effect
    else verdict service later (consult next faults).faults

theorem verdict_cons_self (service : Service) (later : List Service)
    (faults : List Fault) :
    verdict service (service :: later) faults = (consult service faults).effect :=
  if_pos rfl

theorem verdict_cons_of_ne {service next : Service} (h : next ≠ service)
    (later : List Service) (faults : List Fault) :
    verdict service (next :: later) faults
      = verdict service later (consult next faults).faults :=
  if_neg h

/-- A call that is neither refused nor feigned is not struck at all. -/
theorem spared_of_answered {decision : Option Effect}
    (answered : ∀ cause, decision ≠ some (.refuse cause)) (unfeigned : decision ≠ some .feign) :
    decision = none := by
  cases decision with
  | none => rfl
  | some effect =>
    cases effect with
    | refuse cause => exact absurd rfl (answered cause)
    | feign => exact absurd rfl unfeigned

/-- Calls made before the first of a kind only use up what the faults let pass. -/
theorem verdict_append_of_not_mem {service : Service} {front : List Service}
    (h : service ∉ front) (rest : List Service) (faults : List Fault) :
    verdict service (front ++ rest) faults = verdict service rest (askAll front faults) := by
  induction front generalizing faults with
  | nil => rfl
  | cons next front ih =>
    rw [List.mem_cons, not_or] at h
    rw [List.cons_append, verdict_cons_of_ne (Ne.symm h.1), ih h.2, askAll_cons]

/-- Calls made after the first of a kind have no influence on the verdict. -/
theorem verdict_append_of_mem {service : Service} {front : List Service}
    (h : service ∈ front) (rest : List Service) (faults : List Fault) :
    verdict service (front ++ rest) faults = verdict service front faults := by
  induction front generalizing faults with
  | nil => exact absurd h List.not_mem_nil
  | cons next front ih =>
    by_cases hnext : next = service
    · subst hnext
      rw [List.cons_append, verdict_cons_self, verdict_cons_self]
    · have hfront : service ∈ front := (List.mem_cons.mp h).resolve_left (Ne.symm hnext)
      rw [List.cons_append, verdict_cons_of_ne hnext, verdict_cons_of_ne hnext, ih hfront]

/-- The verdict on a call is the decision at its place. -/
theorem verdict_split {service : Service} {front : List Service} (h : service ∉ front)
    (rest : List Service) (faults : List Fault) :
    verdict service (front ++ service :: rest) faults
      = (consult service (askAll front faults)).effect := by
  rw [verdict_append_of_not_mem h, verdict_cons_self]

/-! ## Calls of different kinds -/

/-- A fault that covers a call is of its kind. -/
theorem kind_of_covers {fault : Fault} {service : Service} (h : fault.covers service = true) :
    fault.kind = service.kind := by
  rw [covers, Bool.and_eq_true, beq_iff_eq] at h
  exact h.1

/-- Letting a call pass does not change which calls a fault covers. -/
theorem covers_after (fault : Fault) (after : Nat) (service : Service) :
    { fault with after }.covers service = fault.covers service := rfl

/-- Calls of different kinds are decided by different faults, so neither has an influence
on the decision about the other. -/
theorem consult_of_kind_ne {service other : Service} (h : service.kind ≠ other.kind)
    (faults : List Fault) :
    (consult service (consult other faults).faults).effect
        = (consult service faults).effect ∧
      (consult service (consult other faults).faults).faults
        = (consult other (consult service faults).faults).faults := by
  induction faults with
  | nil => exact ⟨rfl, rfl⟩
  | cons fault rest ih =>
    -- the kind of the first fault leaves at most one of the calls to it
    cases hother : fault.covers other with
    | true =>
      have hservice : fault.covers service = false := Bool.eq_false_iff.mpr fun hcovers =>
        h ((kind_of_covers hcovers).symm.trans (kind_of_covers hother))
      cases hafter : fault.after with
      | zero => simp [consult, hother, hservice, hafter, Decision.behind]
      | succ after =>
        simp [consult, covers_after, hother, hservice, hafter, Decision.behind, ih]
    | false =>
      cases hservice : fault.covers service with
      | true =>
        cases hafter : fault.after with
        | zero => simp [consult, hother, hservice, hafter, Decision.behind]
        | succ after =>
          simp [consult, covers_after, hother, hservice, hafter, Decision.behind, ih]
      | false => simp [consult, hother, hservice, Decision.behind, ih]

/-- A call made before a list of calls of other kinds has no influence on the verdicts. -/
theorem verdict_consult_of_kind_ne {other : Service} {services : List Service}
    (h : ∀ next ∈ services, next.kind ≠ other.kind) (service : Service)
    (faults : List Fault) :
    verdict service services (consult other faults).faults
      = verdict service services faults := by
  induction services generalizing faults with
  | nil => rfl
  | cons next later ih =>
    obtain ⟨heffect, hfaults⟩ := consult_of_kind_ne (h next List.mem_cons_self) faults
    have hlater := ih (fun later hmem => h later (List.mem_cons_of_mem _ hmem))
    rw [verdict, verdict, heffect, hfaults, hlater]

/-- Calls made before a list of calls of other kinds have no influence on the verdicts. -/
theorem verdict_askAll_of_kind_ne {front services : List Service}
    (h : ∀ other ∈ front, ∀ next ∈ services, next.kind ≠ other.kind)
    (service : Service) (faults : List Fault) :
    verdict service services (askAll front faults) = verdict service services faults := by
  induction front generalizing faults with
  | nil => rfl
  | cons other front ih =>
    rw [askAll_cons, ih (fun next hmem => h next (List.mem_cons_of_mem _ hmem)),
      verdict_consult_of_kind_ne (h other List.mem_cons_self)]

/-- In a list of calls that are all of different kinds, each is decided as if it were made
first. -/
theorem verdict_of_kinds {services : List Service}
    (kinds : services.Pairwise fun earlier later => earlier.kind ≠ later.kind)
    {service : Service} (h : service ∈ services) (faults : List Fault) :
    verdict service services faults = (consult service faults).effect := by
  obtain ⟨front, later, rfl⟩ := List.append_of_mem h
  obtain ⟨-, -, hbefore⟩ := List.pairwise_append.mp kinds
  have others : ∀ other ∈ front, ∀ next ∈ [service], next.kind ≠ other.kind := by
    intro other hother next hnext
    rw [List.mem_singleton.mp hnext]
    exact (hbefore other hother service List.mem_cons_self).symm
  have fresh : service ∉ front := fun hmem =>
    others service hmem service (List.mem_singleton_self service) rfl
  calc verdict service (front ++ service :: later) faults
      = (consult service (askAll front faults)).effect := verdict_split fresh later faults
    _ = verdict service [service] (askAll front faults) := (verdict_cons_self ..).symm
    _ = verdict service [service] faults := verdict_askAll_of_kind_ne others service faults
    _ = (consult service faults).effect := verdict_cons_self ..

/-- Faults that do not cover a call have no part in the decision about it. -/
theorem consult_of_not_covers {service : Service} {faults : List Fault}
    (h : ∀ fault ∈ faults, fault.covers service = false) :
    consult service faults = ⟨none, faults⟩ := by
  induction faults with
  | nil => rfl
  | cons fault rest ih =>
    rw [consult, h fault List.mem_cons_self, if_neg Bool.false_ne_true,
      ih fun next hnext => h next (List.mem_cons_of_mem _ hnext)]
    rfl

/-- Where no fault covers a call of a list, none of them is struck. -/
theorem verdict_of_not_covers {services : List Service} {faults : List Fault}
    (h : ∀ service ∈ services, ∀ fault ∈ faults, fault.covers service = false)
    (service : Service) : verdict service services faults = none := by
  induction services with
  | nil => rfl
  | cons next later ih =>
    rw [verdict, consult_of_not_covers (h next List.mem_cons_self),
      ih fun service hmem => h service (List.mem_cons_of_mem _ hmem), ite_self]

end Fault

end GuardedLaunch
