import EspIdfMatter.Library.Machine

/-! A channel from a sender to a receiver, with a slot for one item at its end. The items travel in order;
one that finds the slot occupied when it arrives is lost. Either end may stop, also with an item that it
has at hand. -/

namespace Library

open Library.Machine

variable {α : Type*}

structure Channel (α : Type*) where
  /-- the items on their way -/
  flight : List α
  slot : Option α
  /-- whether the sender still goes on -/
  sending : Bool
  /-- whether the receiver still goes on -/
  receiving : Bool

namespace Channel

inductive Op (α : Type*) where
  | send (a : α)
  /-- the sender produces an item, and stops before it is sent -/
  | spill (a : α)
  | arrive
  | take
  /-- the receiver stops over the item in the slot -/
  | choke
  | stopSending
  | stopReceiving

inductive Event (α : Type*) where
  | produced (a : α)
  | lost (a : α)
  | handed (a : α)

def step (c : Channel α) : Op α → Channel α × List (Event α)
  | .send a =>
      if c.sending = true then ({ c with flight := c.flight ++ [a] }, [.produced a]) else (c, [])
  | .spill a => if c.sending = true then ({ c with sending := false }, [.produced a]) else (c, [])
  | .arrive =>
      match c.flight, c.slot with
      | [], _ => (c, [])
      | a :: flight, none => ({ c with flight, slot := some a }, [])
      | a :: flight, some _ => ({ c with flight }, [.lost a])
  | .take =>
      match c.slot with
      | none => (c, [])
      | some a => if c.receiving = true then ({ c with slot := none }, [.handed a]) else (c, [])
  | .choke =>
      match c.slot with
      | none => (c, [])
      | some a => if c.receiving = true then ({ c with receiving := false }, [.handed a]) else (c, [])
  | .stopSending => ({ c with sending := false }, [])
  | .stopReceiving => ({ c with receiving := false }, [])

/-- A channel that nothing was sent through. -/
def fresh : Channel α where
  flight := []
  slot := none
  sending := true
  receiving := true

def Event.produced? : Event α → Option α
  | .produced a => some a
  | _ => none

def Event.lost? : Event α → Option α
  | .lost a => some a
  | _ => none

def Event.handed? : Event α → Option α
  | .handed a => some a
  | _ => none

def produced (history : List (Event α)) : List α := history.filterMap Event.produced?

def lost (history : List (Event α)) : List α := history.filterMap Event.lost?

def handed (history : List (Event α)) : List α := history.filterMap Event.handed?

section

variable (history : List (Event α)) (a : α)

@[simp] theorem produced_append_produced :
    produced (history ++ [.produced a]) = produced history ++ [a] := List.filterMap_append

@[simp] theorem produced_append_lost : produced (history ++ [.lost a]) = produced history :=
  List.filterMap_append.trans (List.append_nil _)

@[simp] theorem produced_append_handed : produced (history ++ [.handed a]) = produced history :=
  List.filterMap_append.trans (List.append_nil _)

@[simp] theorem lost_append_produced : lost (history ++ [.produced a]) = lost history :=
  List.filterMap_append.trans (List.append_nil _)

@[simp] theorem lost_append_lost : lost (history ++ [.lost a]) = lost history ++ [a] :=
  List.filterMap_append

@[simp] theorem lost_append_handed : lost (history ++ [.handed a]) = lost history :=
  List.filterMap_append.trans (List.append_nil _)

@[simp] theorem handed_append_produced : handed (history ++ [.produced a]) = handed history :=
  List.filterMap_append.trans (List.append_nil _)

@[simp] theorem handed_append_lost : handed (history ++ [.lost a]) = handed history :=
  List.filterMap_append.trans (List.append_nil _)

@[simp] theorem handed_append_handed : handed (history ++ [.handed a]) = handed history ++ [a] :=
  List.filterMap_append

end

/-! ### What became of the items -/

/-- The items that arrived, between those that were produced and those that were handed over. -/
structure Accounts (history : List (Event α)) (c : Channel α) (arrived : List α) : Prop where
  sent : if c.sending = true then produced history = arrived ++ c.flight
    else arrived ++ c.flight <+: produced history
  received : if c.receiving = true then (handed history ++ c.slot.toList).Sublist arrived
    else (handed history).Sublist arrived
  whole : lost history = [] →
    if c.receiving = true then handed history ++ c.slot.toList = arrived
    else handed history <+: arrived
  each : c.receiving = true → (handed history ++ c.slot.toList ++ lost history).Perm arrived

variable {history : List (Event α)} {c : Channel α} {arrived : List α}

theorem Accounts.arrived_prefix (h : Accounts history c arrived) :
    arrived ++ c.flight <+: produced history := by
  have hsent := h.sent
  split at hsent
  · rw [hsent]
  · exact hsent

theorem accounts_fresh : Accounts [] (fresh : Channel α) [] where
  sent := rfl
  received := List.Sublist.refl []
  whole := fun _ => rfl
  each := fun _ => .refl []

theorem Accounts.send (h : Accounts history c arrived) (hsending : c.sending = true) (a : α) :
    Accounts (history ++ [.produced a]) { c with flight := c.flight ++ [a] } arrived := by
  have hsent := h.sent
  rw [if_pos hsending] at hsent
  refine ⟨?_, by simpa using h.received, by simpa using h.whole, by simpa using h.each⟩
  rw [if_pos hsending, produced_append_produced, hsent, List.append_assoc]

theorem Accounts.spill (h : Accounts history c arrived) (a : α) :
    Accounts (history ++ [.produced a]) { c with sending := false } arrived := by
  refine ⟨?_, by simpa using h.received, by simpa using h.whole, by simpa using h.each⟩
  rw [if_neg Bool.false_ne_true, produced_append_produced]
  exact h.arrived_prefix.trans (List.prefix_append _ _)

/-- What is not handed over is out of the way of what comes after it. -/
theorem Accounts.arrive (h : Accounts history c arrived) {a : α} {flight : List α}
    (hflight : c.flight = a :: flight) :
    Accounts (history ++ (c.step .arrive).2) (c.step .arrive).1 (arrived ++ [a]) := by
  have hsent : ∀ events, produced (history ++ events) = produced history →
      if c.sending = true then produced (history ++ events) = arrived ++ [a] ++ flight
      else arrived ++ [a] ++ flight <+: produced (history ++ events) := by
    intro events hevents
    have hsent := h.sent
    rw [hflight] at hsent
    rw [hevents, List.append_assoc]
    exact hsent
  cases hslot : c.slot with
  | none =>
      simp only [step, hflight, hslot, List.append_nil]
      have hreceived := h.received
      have hwhole := h.whole
      have heach := h.each
      simp only [hslot, Option.toList_none, List.append_nil] at hreceived hwhole heach
      refine ⟨by simpa using hsent [] (by simp), ?_, fun hlost => ?_, fun hreceiving => ?_⟩
      · split
        · rename_i hreceiving
          rw [if_pos hreceiving] at hreceived
          exact hreceived.append_right [a]
        · rename_i hstopped
          rw [if_neg hstopped] at hreceived
          exact hreceived.trans (List.sublist_append_left _ _)
      · split
        · rename_i hreceiving
          rw [if_pos hreceiving] at hwhole
          rw [hwhole hlost]
          rfl
        · rename_i hstopped
          rw [if_neg hstopped] at hwhole
          exact (hwhole hlost).trans (List.prefix_append _ _)
      · calc handed history ++ [a] ++ lost history
            _ = handed history ++ ([a] ++ lost history) := List.append_assoc _ _ _
            List.Perm _ (handed history ++ (lost history ++ [a])) :=
              List.perm_append_comm.append_left _
            _ = handed history ++ lost history ++ [a] := (List.append_assoc _ _ _).symm
            List.Perm _ (arrived ++ [a]) := (heach hreceiving).append_right [a]
  | some b =>
      simp only [step, hflight, hslot]
      have hreceived := h.received
      have heach := h.each
      refine ⟨hsent _ (produced_append_lost history a), ?_, fun hlost => ?_, fun hreceiving => ?_⟩
      · rw [handed_append_lost]
        split
        · rename_i hreceiving
          rw [if_pos hreceiving, hslot] at hreceived
          exact hreceived.trans (List.sublist_append_left _ _)
        · rename_i hstopped
          rw [if_neg hstopped] at hreceived
          exact hreceived.trans (List.sublist_append_left _ _)
      · rw [lost_append_lost] at hlost
        exact absurd hlost (List.append_ne_nil_of_right_ne_nil _ (List.cons_ne_nil _ _))
      · rw [handed_append_lost, lost_append_lost, ← List.append_assoc]
        rw [hslot] at heach
        exact (heach hreceiving).append_right [a]

theorem Accounts.take (h : Accounts history c arrived) {a : α} (hslot : c.slot = some a)
    (hreceiving : c.receiving = true) :
    Accounts (history ++ [.handed a]) { c with slot := none } arrived := by
  have hreceived := h.received
  have hwhole := h.whole
  have heach := h.each
  simp only [hslot, hreceiving, if_true, Option.toList_some] at hreceived hwhole heach
  refine ⟨by simpa using h.sent, ?_, fun hlost => ?_, fun _ => ?_⟩
  · rw [if_pos hreceiving, handed_append_handed, Option.toList_none, List.append_nil]
    exact hreceived
  · rw [lost_append_handed] at hlost
    rw [if_pos hreceiving, handed_append_handed, Option.toList_none, List.append_nil]
    exact hwhole hlost
  · rw [handed_append_handed, lost_append_handed, Option.toList_none, List.append_nil]
    exact heach trivial

theorem Accounts.choke (h : Accounts history c arrived) {a : α} (hslot : c.slot = some a)
    (hreceiving : c.receiving = true) :
    Accounts (history ++ [.handed a]) { c with receiving := false } arrived := by
  have hreceived := h.received
  have hwhole := h.whole
  simp only [hslot, hreceiving, if_true, Option.toList_some] at hreceived hwhole
  refine ⟨by simpa using h.sent, ?_, fun hlost => ?_, fun hno => absurd hno Bool.false_ne_true⟩
  · rw [if_neg Bool.false_ne_true, handed_append_handed]
    exact hreceived
  · rw [lost_append_handed] at hlost
    rw [if_neg Bool.false_ne_true, handed_append_handed, hwhole hlost]

theorem Accounts.stopSending (h : Accounts history c arrived) :
    Accounts history { c with sending := false } arrived :=
  ⟨h.arrived_prefix, h.received, h.whole, h.each⟩

theorem Accounts.stopReceiving (h : Accounts history c arrived) :
    Accounts history { c with receiving := false } arrived := by
  have hreceived := h.received
  have hwhole := h.whole
  refine ⟨h.sent, ?_, fun hlost => ?_, fun hno => absurd hno Bool.false_ne_true⟩
  · split at hreceived
    · exact (List.sublist_append_left _ _).trans hreceived
    · exact hreceived
  · split at hwhole
    · rw [← hwhole hlost]
      exact List.prefix_append _ _
    · exact hwhole hlost

/-- **Every operation keeps account of the items.** -/
theorem Accounts.step (h : Accounts history c arrived) (op : Op α) :
    ∃ arrived', Accounts (history ++ (c.step op).2) (c.step op).1 arrived' := by
  have hidle : Accounts (history ++ []) c arrived := by rwa [List.append_nil]
  cases op with
  | send a =>
      simp only [Channel.step]
      split
      · rename_i hsending
        exact ⟨arrived, h.send hsending a⟩
      · exact ⟨arrived, hidle⟩
  | spill a =>
      simp only [Channel.step]
      split
      · exact ⟨arrived, h.spill a⟩
      · exact ⟨arrived, hidle⟩
  | arrive =>
      cases hflight : c.flight with
      | nil =>
          simp only [Channel.step, hflight]
          exact ⟨arrived, hidle⟩
      | cons a flight => exact ⟨_, h.arrive hflight⟩
  | take =>
      cases hslot : c.slot with
      | none =>
          simp only [Channel.step, hslot]
          exact ⟨arrived, hidle⟩
      | some a =>
          simp only [Channel.step, hslot]
          split
          · rename_i hreceiving
            exact ⟨arrived, h.take hslot hreceiving⟩
          · exact ⟨arrived, hidle⟩
  | choke =>
      cases hslot : c.slot with
      | none =>
          simp only [Channel.step, hslot]
          exact ⟨arrived, hidle⟩
      | some a =>
          have hstep : c.step .choke =
              if c.receiving = true then ({ c with receiving := false }, [.handed a]) else (c, []) := by
            simp only [Channel.step, hslot]
          rw [hstep]
          split
          · rename_i hreceiving
            exact ⟨arrived, h.choke hslot hreceiving⟩
          · exact ⟨arrived, hidle⟩
  | stopSending =>
      simp only [Channel.step, List.append_nil]
      exact ⟨arrived, h.stopSending⟩
  | stopReceiving =>
      simp only [Channel.step, List.append_nil]
      exact ⟨arrived, h.stopReceiving⟩

/-- What a channel guarantees, whatever happens at its ends. -/
structure Reliable (history : List (Event α)) (c : Channel α) : Prop where
  /-- nothing is handed over that was not produced, nothing twice, and nothing out of order -/
  ordered : (handed history).Sublist (produced history)
  /-- if nothing is lost, nothing is skipped -/
  whole : lost history = [] → handed history <+: produced history
  /-- as long as both ends go on, every item is somewhere -/
  each : c.sending = true → c.receiving = true →
    (handed history ++ c.slot.toList ++ lost history ++ c.flight).Perm (produced history)

theorem Accounts.reliable (h : Accounts history c arrived) : Reliable history c := by
  have hprefix : arrived <+: produced history := (List.prefix_append _ _).trans h.arrived_prefix
  have hreceived : (handed history).Sublist arrived := by
    have h' := h.received
    split at h'
    · exact (List.sublist_append_left _ _).trans h'
    · exact h'
  refine ⟨hreceived.trans hprefix.sublist, fun hlost => ?_, fun hsending hreceiving => ?_⟩
  · have hwhole := h.whole hlost
    split at hwhole
    · rw [← hwhole] at hprefix
      exact (List.prefix_append _ _).trans hprefix
    · exact hwhole.trans hprefix
  · have hsent := h.sent
    rw [if_pos hsending] at hsent
    rw [hsent]
    exact (h.each hreceiving).append_right c.flight

/-- **A channel is reliable along every run.** -/
theorem reliable_run (ops : List (Op α)) :
    Reliable (outputs step (fresh : Channel α) ops) (after step fresh ops) := by
  have hrun := run_induction (step : Channel α → Op α → _)
    (I := fun history c _ => ∃ arrived, Accounts history c arrived)
    (fun history c op ops ⟨_, h⟩ => h.step op) (h := []) (s := fresh) (t := ops) ⟨[], accounts_fresh⟩
  obtain ⟨arrived, h⟩ := hrun
  exact h.reliable

end Channel

end Library
