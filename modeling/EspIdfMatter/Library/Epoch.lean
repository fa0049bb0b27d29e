import EspIdfMatter.Library.Machine

/-! Histories cut into epochs. Some observations open an epoch and some close it; the others belong to
the epoch that is open, if there is one. A property of the whole history that speaks about the open
epoch alone is a property of every epoch's log. -/

namespace Library.Epoch

open Machine

variable {ο κ : Type*}

inductive Mark (κ : Type*) where
  | opens (key : κ)
  | closes
  | inside

variable (mark : ο → Mark κ)

def track (epoch : Option (κ × List ο)) (e : ο) : Option (κ × List ο) :=
  match mark e with
  | .opens key => some (key, [])
  | .closes => none
  | .inside => epoch.map fun p => (p.1, p.2 ++ [e])

/-- The open epoch, and what happened in it. -/
def current (history : List ο) : Option (κ × List ο) :=
  history.foldl (track mark) none

@[simp] theorem current_nil : current mark [] = none := rfl

theorem current_concat (history : List ο) (e : ο) :
    current mark (history ++ [e]) = track mark (current mark history) e := by
  simp [current, List.foldl_append]

variable {mark}

theorem current_opens {history : List ο} {e : ο} {key : κ} (he : mark e = .opens key) :
    current mark (history ++ [e]) = some (key, []) := by
  rw [current_concat, track, he]

theorem current_closes {history : List ο} {e : ο} (he : mark e = .closes) :
    current mark (history ++ [e]) = none := by
  rw [current_concat, track, he]

/-- An observation inside an epoch only lengthens its log. -/
theorem current_inside {history : List ο} {e : ο} (he : mark e = .inside) :
    current mark (history ++ [e]) = (current mark history).map fun p => (p.1, p.2 ++ [e]) := by
  rw [current_concat, track, he]

theorem current_inside_some {history : List ο} {e : ο} {key : κ} {log : List ο}
    (he : mark e = .inside) (hcur : current mark history = some (key, log)) :
    current mark (history ++ [e]) = some (key, log ++ [e]) := by
  rw [current_inside he, hcur]
  rfl

/-- What an observation inside an epoch is added to. -/
theorem eq_concat_of_current_inside {history : List ο} {e : ο} {key : κ} {log : List ο}
    (he : mark e = .inside) (hcur : current mark (history ++ [e]) = some (key, log)) :
    ∃ log', current mark history = some (key, log') ∧ log = log' ++ [e] := by
  rw [current_inside he, Option.map_eq_some_iff] at hcur
  obtain ⟨⟨key', log'⟩, hcur, heq⟩ := hcur
  obtain ⟨rfl, rfl⟩ := Prod.mk.inj heq
  exact ⟨log', hcur, rfl⟩

/-- **A property of every observation and the epoch before it holds throughout the epoch's log.** -/
theorem throughout_current {P : List ο → ο → Prop} {Q : κ → List ο → ο → Prop}
    (hPQ : ∀ history e key log, current mark history = some (key, log) → P history e → Q key log e)
    {history : List ο} (hall : Throughout P history) {key : κ} {log : List ο}
    (hcur : current mark history = some (key, log)) : Throughout (Q key) log := by
  induction history using List.reverseRecOn generalizing log with
  | nil => cases hcur
  | append_singleton history e ih =>
      obtain ⟨hbefore, hlast⟩ := throughout_concat.mp hall
      cases he : mark e with
      | opens key' =>
          rw [current_opens he] at hcur
          obtain ⟨rfl, rfl⟩ := Prod.mk.inj (Option.some.inj hcur)
          exact throughout_nil _
      | closes =>
          rw [current_closes he] at hcur
          cases hcur
      | inside =>
          obtain ⟨log', hcur', rfl⟩ := eq_concat_of_current_inside he hcur
          exact throughout_concat.mpr ⟨ih hbefore hcur', hPQ history e key log' hcur' hlast⟩

end Library.Epoch
