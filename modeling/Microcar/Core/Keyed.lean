import Mathlib.Data.List.Basic
import Mathlib.Data.List.Induction
import Mathlib.Logic.Function.Basic

/-!
# Keyed monitors

A monitor that keeps a state for every key and looks only at the state of the key at hand
accepts a sequence of events exactly when it accepts what each key sees of it. So it does not
matter how the sequences of the keys are interleaved. The maps of such monitors are association
lists.
-/

namespace Microcar.Core

universe u v w

section Monitor

variable {κ : Type u} {σ : Type u} {β : Type v} [DecidableEq κ]

/-- The events of one key, in order. -/
def project (key : κ) (events : List (κ × β)) : List β :=
  (events.filter fun event => event.1 = key).map Prod.snd

@[simp] theorem project_nil (key : κ) : project key ([] : List (κ × β)) = [] := rfl

/-- An event of the key comes first in the projection. -/
theorem project_cons_self (key : κ) (b : β) (events : List (κ × β)) :
    project key ((key, b) :: events) = b :: project key events := by
  simp [project]

/-- Events of other keys are passed over. -/
theorem project_cons_of_ne {key other : κ} (h : other ≠ key) (b : β) (events : List (κ × β)) :
    project key ((other, b) :: events) = project key events := by
  simp [project, h]

/-- Without an event at any key there is no event at all. -/
theorem eq_nil_of_project {events : List (κ × β)} (h : ∀ key, project key events = []) :
    events = [] := by
  rcases events with _ | ⟨⟨key, b⟩, events⟩
  · rfl
  · have hkey := h key
    rw [project_cons_self] at hkey
    exact absurd hkey (List.cons_ne_nil _ _)

/-- One event changes the state of its key, or is refused. -/
def keyedStep (step : σ → β → Option σ) (state : κ → σ) (event : κ × β) : Option (κ → σ) :=
  (step (state event.1) event.2).map (Function.update state event.1)

/-- A fold over all the keys succeeds when the fold at every key does: the keys do not meet. -/
theorem foldlM_keyedStep (step : σ → β → Option σ) (events : List (κ × β)) (state : κ → σ) :
    (events.foldlM (keyedStep step) state).isSome ↔
      ∀ key, ((project key events).foldlM step (state key)).isSome := by
  induction events generalizing state with
  | nil => simp
  | cons event events ih =>
    obtain ⟨key, b⟩ := event
    rw [List.foldlM_cons]
    rcases hnext : step (state key) b with _ | next
    · have hkey : ¬ ((project key ((key, b) :: events)).foldlM step (state key)).isSome := by
        rw [project_cons_self, List.foldlM_cons, hnext]
        exact Bool.false_ne_true
      have hstep : keyedStep step state (key, b) = none := by rw [keyedStep, hnext]; rfl
      rw [hstep]
      exact ⟨fun h => absurd h Bool.false_ne_true, fun h => absurd (h key) hkey⟩
    · have hstep : keyedStep step state (key, b) = some (Function.update state key next) := by
        rw [keyedStep, hnext]
        rfl
      rw [hstep]
      change (events.foldlM (keyedStep step) (Function.update state key next)).isSome ↔ _
      rw [ih]
      apply forall_congr'
      intro other
      by_cases hother : key = other
      · subst hother
        rw [Function.update_self, project_cons_self, List.foldlM_cons, hnext]
        rfl
      · rw [Function.update_of_ne (Ne.symm hother), project_cons_of_ne hother]

end Monitor

section Assign

variable {κ : Type u} {σ : Type v} [DecidableEq κ]

/-- Set the value of a key in an association list. -/
def assign (key : κ) (value : σ) : List (κ × σ) → List (κ × σ)
  | [] => [(key, value)]
  | entry :: rest =>
    if entry.1 = key then (key, value) :: rest else entry :: assign key value rest

section Lookup

variable [BEq κ] [LawfulBEq κ]

/-- An assignment updates the table as a function, and at one key. -/
theorem lookup_assign (key : κ) (value : σ) (entries : List (κ × σ)) :
    (fun k => (assign key value entries).lookup k) =
      Function.update (fun k => entries.lookup k) key (some value) := by
  funext k
  induction entries with
  | nil =>
    by_cases h : k = key
    · subst h
      simp [assign]
    · simp [assign, h]
  | cons entry entries ih =>
    obtain ⟨k', value'⟩ := entry
    by_cases h : k = k'
    · subst h
      by_cases hkey : k = key
      · subst hkey
        simp [assign]
      · simp [assign, hkey]
    · have hne : (k == k') = false := by simpa using h
      by_cases hkey : k' = key
      · subst hkey
        rw [assign, if_pos rfl, Function.update_of_ne h, List.lookup_cons, List.lookup_cons, hne]
      · rw [assign, if_neg hkey, List.lookup_cons, hne, ih]
        by_cases hk : k = key
        · subst hk
          rw [Function.update_self, Function.update_self]
        · rw [Function.update_of_ne hk, Function.update_of_ne hk, List.lookup_cons, hne]

/-- The key has the value just assigned to it. -/
theorem lookup_assign_self (key : κ) (value : σ) (entries : List (κ × σ)) :
    (assign key value entries).lookup key = some value := by
  have h := congrFun (lookup_assign key value entries) key
  rwa [Function.update_self] at h

/-- Other keys keep their values. -/
theorem lookup_assign_of_ne {key k : κ} (h : k ≠ key) (value : σ) (entries : List (κ × σ)) :
    (assign key value entries).lookup k = entries.lookup k := by
  have hlookup := congrFun (lookup_assign key value entries) k
  rwa [Function.update_of_ne h] at hlookup

end Lookup

/-- Of two assignments to one key the later one counts. -/
theorem assign_assign (key : κ) (value value' : σ) (entries : List (κ × σ)) :
    assign key value' (assign key value entries) = assign key value' entries := by
  induction entries with
  | nil => simp [assign]
  | cons entry entries ih =>
    by_cases h : entry.1 = key
    · simp [assign, h]
    · simp [assign, h, ih]

/-- The keys after an assignment are those before it and its own. -/
theorem mem_keys_assign {key k : κ} {value : σ} {entries : List (κ × σ)} :
    k ∈ (assign key value entries).map Prod.fst ↔ k = key ∨ k ∈ entries.map Prod.fst := by
  induction entries with
  | nil => simp [assign]
  | cons entry entries ih =>
    by_cases h : entry.1 = key
    · simp [assign, h]
    · rw [assign, if_neg h, List.map_cons, List.mem_cons, ih, List.map_cons, List.mem_cons]
      tauto

/-- Every key stands in the list once. -/
theorem nodup_assign {entries : List (κ × σ)} (h : (entries.map Prod.fst).Nodup) (key : κ)
    (value : σ) : ((assign key value entries).map Prod.fst).Nodup := by
  induction entries with
  | nil => simp [assign]
  | cons entry entries ih =>
    rw [List.map_cons, List.nodup_cons] at h
    by_cases hkey : entry.1 = key
    · rw [assign, if_pos hkey, List.map_cons, List.nodup_cons, ← hkey]
      exact h
    · rw [assign, if_neg hkey, List.map_cons, List.nodup_cons, mem_keys_assign]
      refine ⟨?_, ih h.2⟩
      rintro (heq | hmem)
      · exact hkey heq
      · exact h.1 hmem

/-- With distinct keys, being in the table and being found there are the same. -/
theorem mem_iff_lookup [BEq κ] [LawfulBEq κ] {entries : List (κ × σ)}
    (h : (entries.map Prod.fst).Nodup) {key : κ} {value : σ} :
    (key, value) ∈ entries ↔ entries.lookup key = some value := by
  induction entries with
  | nil => simp
  | cons entry entries ih =>
    obtain ⟨k, v⟩ := entry
    rw [List.map_cons, List.nodup_cons] at h
    by_cases hkey : key = k
    · subst hkey
      have hnot : (key, value) ∉ entries := fun hmem => h.1 (List.mem_map.mpr ⟨_, hmem, rfl⟩)
      simp [hnot, eq_comm]
    · have hne : (key == k) = false := by simpa using hkey
      rw [List.mem_cons, List.lookup_cons, hne, ← ih h.2]
      simp [hkey]

variable {β : Type w}

/-- Events that set the value of their key, one after another. -/
def assignAll (key : β → κ) (value : β → σ) (events : List β) : List (κ × σ) :=
  events.foldl (fun entries b => assign (key b) (value b) entries) []

/-- The last event is assigned last. -/
theorem assignAll_snoc (key : β → κ) (value : β → σ) (events : List β) (b : β) :
    assignAll key value (events ++ [b]) =
      assign (key b) (value b) (assignAll key value events) := by
  rw [assignAll, List.foldl_append]
  rfl

/-- Assignments never make a key double. -/
theorem nodup_assignAll (key : β → κ) (value : β → σ) (events : List β) :
    ((assignAll key value events).map Prod.fst).Nodup := by
  induction events using List.reverseRecOn with
  | nil => exact List.nodup_nil
  | append_singleton events b ih =>
    rw [assignAll_snoc]
    exact nodup_assign ih (key b) (value b)

/-- A cut of a list with one more element cuts off that element or lies before it. -/
theorem snoc_eq_append_cons {events before after : List β} {last b : β} :
    events ++ [last] = before ++ b :: after ↔
      (after = [] ∧ events = before ∧ last = b) ∨
        ∃ rest, after = rest ++ [last] ∧ events = before ++ b :: rest := by
  constructor
  · intro heq
    rcases List.eq_nil_or_concat after with rfl | ⟨rest, c, rfl⟩
    · obtain ⟨hevents, hlast⟩ := List.append_inj' heq rfl
      exact .inl ⟨rfl, hevents, (List.cons.inj hlast).1⟩
    · rw [List.concat_eq_append, ← List.cons_append, ← List.append_assoc] at heq
      obtain ⟨hevents, hlast⟩ := List.append_inj' heq rfl
      rw [(List.cons.inj hlast).1]
      exact .inr ⟨rest, List.concat_eq_append, hevents⟩
  · rintro (⟨rfl, rfl, rfl⟩ | ⟨rest, rfl, rfl⟩)
    · rfl
    · simp

/-- The last event of a key decides its value. -/
theorem lookup_assignAll [BEq κ] [LawfulBEq κ] (key : β → κ) (value : β → σ)
    (events : List β) (k : κ) (v : σ) :
    (assignAll key value events).lookup k = some v ↔
      ∃ before b after, events = before ++ b :: after ∧ (∀ c ∈ after, key c ≠ key b) ∧
        key b = k ∧ value b = v := by
  induction events using List.reverseRecOn with
  | nil => simp [assignAll]
  | append_singleton events last ih =>
    rw [assignAll_snoc]
    by_cases hk : k = key last
    · rw [hk, lookup_assign_self, Option.some.injEq]
      constructor
      · rintro rfl
        exact ⟨events, last, [], rfl, by simp, rfl, rfl⟩
      · rintro ⟨before, b, after, heq, hafter, hkey, rfl⟩
        rcases snoc_eq_append_cons.mp heq with ⟨-, -, rfl⟩ | ⟨rest, rfl, -⟩
        · rfl
        · exact absurd hkey.symm (hafter last (by simp))
    · rw [lookup_assign_of_ne hk, ih]
      constructor
      · rintro ⟨before, b, after, rfl, hafter, hkey, rfl⟩
        refine ⟨before, b, after ++ [last], by simp, ?_, hkey, rfl⟩
        intro c hc
        rcases List.mem_append.mp hc with hc | hc
        · exact hafter c hc
        · rw [List.mem_singleton.mp hc, hkey]
          exact Ne.symm hk
      · rintro ⟨before, b, after, heq, hafter, hkey, rfl⟩
        rcases snoc_eq_append_cons.mp heq with ⟨-, -, rfl⟩ | ⟨rest, rfl, rfl⟩
        · exact absurd hkey.symm hk
        · exact ⟨before, b, rest, rfl, fun c hc => hafter c (by simp [hc]), hkey, rfl⟩

end Assign

end Microcar.Core
