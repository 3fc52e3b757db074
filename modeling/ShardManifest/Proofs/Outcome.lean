import Mathlib.Data.List.Forall2
import ShardManifest.Provision.Basis

/-!
# Outcomes

The outcome of a construction is its value or the fault that ended it, without what was reported on
the way. Outcomes of composed constructions are the composed outcomes, and a row of constructions
ends with the first fault of the row.

## Main definitions

- `Building.outcome`: the value or the fault

## Main results

- `Building.outcome_bind`, `Building.outcome_mapM`: outcomes compose
- `mapM_eq_ok_iff`, `mapM_eq_error_iff`: the two outcomes of a row
-/

namespace ShardManifest

section Except

variable {ε α β : Type} {x : Except ε α} {f : α → Except ε β} {b : β} {e : ε}

@[simp] theorem ok_bind (a : α) (f : α → Except ε β) : Except.ok a >>= f = f a := rfl

@[simp] theorem error_bind (e : ε) (f : α → Except ε β) : Except.error e >>= f = .error e := rfl

theorem bind_eq_ok_iff : x >>= f = .ok b ↔ ∃ a, x = .ok a ∧ f a = .ok b := by
  cases x with
  | ok a => simp
  | error e => simp

theorem bind_eq_error_iff :
    x >>= f = .error e ↔ x = .error e ∨ ∃ a, x = .ok a ∧ f a = .error e := by
  cases x with
  | ok a => simp
  | error e => simp

/-- A row succeeds when every entry does. -/
theorem mapM_eq_ok_iff {l : List α} {bs : List β} :
    l.mapM f = .ok bs ↔ List.Forall₂ (fun a b => f a = .ok b) l bs := by
  induction l generalizing bs with
  | nil => cases bs <;> simp [pure, Except.pure]
  | cons a l ih =>
    rw [List.mapM_cons, bind_eq_ok_iff]
    simp only [bind_eq_ok_iff, ih]
    constructor
    · rintro ⟨b, hb, rest, hrest, hpure⟩
      cases hpure
      exact .cons hb hrest
    · intro h
      cases h with
      | cons hb hrest => exact ⟨_, hb, _, hrest, rfl⟩

theorem exists_of_mapM_eq_ok {l : List α} {bs : List β} {a : α} (h : l.mapM f = .ok bs)
    (ha : a ∈ l) : ∃ b, f a = .ok b := by
  have hrow := mapM_eq_ok_iff.1 h
  clear h
  induction hrow with
  | nil => cases ha
  | cons hb _ ih =>
    rcases List.mem_cons.1 ha with rfl | ha
    · exact ⟨_, hb⟩
    · exact ih ha

theorem mapM_eq_ok_map {l : List α} {g : α → β} (h : ∀ a ∈ l, f a = .ok (g a)) :
    l.mapM f = .ok (l.map g) := by
  rw [mapM_eq_ok_iff, List.forall₂_map_right_iff]
  exact List.forall₂_same.2 h

theorem mapM_congr {l : List α} {g : α → Except ε β} (h : ∀ a ∈ l, f a = g a) :
    l.mapM f = l.mapM g := by
  induction l with
  | nil => rfl
  | cons a l ih =>
    rw [List.mapM_cons, List.mapM_cons, h a (by simp), ih fun a' ha' => h a' (by simp [ha'])]

/-- A row fails with the fault of its first entry that fails. -/
theorem mapM_eq_error_iff {l : List α} :
    l.mapM f = .error e ↔
      ∃ before a after, l = before ++ a :: after ∧ (∀ a' ∈ before, ∃ b, f a' = .ok b) ∧
        f a = .error e := by
  induction l with
  | nil => simp [pure, Except.pure]
  | cons a l ih =>
    rw [List.mapM_cons, bind_eq_error_iff]
    simp only [bind_eq_error_iff, ih]
    constructor
    -- the head fails, or it succeeds and a later entry fails; putting the row together cannot fail
    · rintro (h | ⟨b, hb, ⟨before, a', after, rfl, hbefore, ha'⟩ | ⟨_, -, hpure⟩⟩)
      · exact ⟨[], a, l, rfl, by simp, h⟩
      · exact ⟨a :: before, a', after, rfl, List.forall_mem_cons.2 ⟨⟨b, hb⟩, hbefore⟩, ha'⟩
      · cases hpure
    · rintro ⟨before, a', after, hsplit, hbefore, ha'⟩
      cases before with
      | nil =>
        obtain ⟨rfl, rfl⟩ := List.cons.inj hsplit
        exact .inl ha'
      | cons head before =>
        obtain ⟨rfl, rfl⟩ := List.cons.inj hsplit
        obtain ⟨⟨b, hb⟩, hbefore⟩ := List.forall_mem_cons.1 hbefore
        exact .inr ⟨b, hb, .inl ⟨before, a', after, rfl, hbefore, ha'⟩⟩

end Except

theorem Logged.value_mapM {α β : Type} (f : α → Logged β) (l : List α) :
    (l.mapM f).value = l.map fun a => (f a).value := by
  induction l with
  | nil => rfl
  | cons a l ih => simp [ih]

namespace Building

variable {α β : Type}

/-- What follows a fault is not built. -/
theorem throw_bind (fault : Fault) (f : α → Building β) :
    (throw fault : Building α) >>= f = throw fault := rfl

/-- The value of a construction, or the fault that ended it. -/
def outcome (x : Building α) : Except Fault α := x.run.value

@[simp] theorem outcome_pure (a : α) : (pure a : Building α).outcome = .ok a := rfl

@[simp] theorem outcome_throw (fault : Fault) :
    (throw fault : Building α).outcome = .error fault := rfl

@[simp] theorem outcome_bind (x : Building α) (f : α → Building β) :
    (x >>= f).outcome = x.outcome >>= fun a => (f a).outcome := by
  simp only [outcome, ExceptT.run_bind, Logged.value_bind]
  cases x.run.value <;> rfl

@[simp] theorem outcome_map (f : α → β) (x : Building α) :
    (f <$> x).outcome = f <$> x.outcome := by
  rw [map_eq_pure_bind, map_eq_pure_bind, outcome_bind]
  rfl

@[simp] theorem outcome_lift (x : Logged α) :
    outcome (ExceptT.lift x : Building α) = .ok x.value := rfl

@[simp] theorem outcome_report (e : Event) : (report e).outcome = .ok () := rfl

@[simp] theorem outcome_require (fault : Fault) (a? : Option α) :
    (require fault a?).outcome = a?.elim (.error fault) .ok := by
  cases a? <;> rfl

theorem outcome_mapM (f : α → Building β) (l : List α) :
    (l.mapM f).outcome = l.mapM fun a => (f a).outcome := by
  induction l with
  | nil => rfl
  | cons a l ih => simp [ih]

end Building

end ShardManifest
