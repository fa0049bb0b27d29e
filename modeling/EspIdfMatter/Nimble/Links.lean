import EspIdfMatter.Library.Prune
import EspIdfMatter.Nimble.Refusal
import EspIdfMatter.Nimble.Unseen

/-! Events of other links than the tracked one. The hooks that change an attribute of the connection look
at the handle; those for a connection, a disconnection and a `C1` write do not. -/

namespace EspIdfMatter.Nimble

open Library Library.Machine

variable {β : Type}

/-- The link that an event belongs to. An attempt that failed has none, and completions are those of
indications, which go to the tracked connection only. -/
def Event.connHandle? : Event → Option Handle
  | .gap (.connect connHandle (.ok _) _ _) => some connHandle
  | .gap (.disconnect connHandle _) => some connHandle
  | .gap (.mtu connHandle _) => some connHandle
  | .gatts (.write connHandle _ _) => some connHandle
  | .gatts (.read connHandle _) => some connHandle
  | .gatts (.subscriptionChanged connHandle _ _) => some connHandle
  | _ => none

/-- An event of another link, while a connection is tracked. -/
def foreign (w : World β) : Step β → Bool
  | .event event =>
      match w.state.connection, event.connHandle? with
      | some conn, some connHandle => decide (connHandle ≠ conn.connHandle)
      | _, _ => false
  | _ => false

theorem foreign_eq_true {w : World β} {s : Step β} (h : foreign w s = true) :
    ∃ event conn connHandle, s = .event event ∧ w.state.connection = some conn ∧
      event.connHandle? = some connHandle ∧ connHandle ≠ conn.connHandle := by
  cases s with
  | event event =>
      cases hconn : w.state.connection with
      | none =>
          simp only [foreign, hconn] at h
          cases h
      | some conn =>
          cases hhandle : event.connHandle? with
          | none =>
              simp only [foreign, hconn, hhandle] at h
              cases h
          | some connHandle =>
              simp only [foreign, hconn, hhandle] at h
              exact ⟨event, conn, connHandle, rfl, rfl, hhandle, of_decide_eq_true h⟩
  | incoming => cases h
  | outgoing d => cases h
  | matter btp => cases h

/-- The tracked connection with its subscription and MTU, and what is pending for it. -/
structure World.SameSession (w w' : World β) : Prop where
  connection : w'.state.connection = w.state.connection
  connGen : w'.state.connGen = w.state.connGen
  inData : w'.state.inData = w.state.inData
  outData : w'.state.outData = w.state.outData
  outNack : w'.outNack = w.outNack

/-- The event is neither a connection nor a disconnection, and a `C1` write finds the buffer occupied or
is empty. -/
def Event.Spares (s : State) : Event → Prop
  | .gap (.connect _ (.ok _) _ _) => False
  | .gap (.disconnect _ _) => False
  | .gatts (.write _ _ data) => s.Receives data ∧ (s.inData.isEmpty = false ∨ data.payload = [])
  | _ => True

theorem State.write_eq_self_iff {s : State} {data : Mbuf} (hlawful : data.Lawful) :
    (s.write data).1 = s ↔ s.Receives data ∧ (s.inData.isEmpty = false ∨ data.payload = []) := by
  by_cases hroom : s.inData.isEmpty = true
  · have hempty : s.inData.toList = [] := (BoundedVec.isEmpty_iff _).mp hroom
    cases hread : (data.read (s.inData.resize maxMtuSize le_rfl)).2 with
    | ok len =>
        obtain ⟨inData, hdata, hwrite⟩ := State.write_of_read hlawful hroom hread
        rw [hwrite]
        constructor
        · intro h
          have hsame : inData = s.inData := congrArg State.inData h
          refine ⟨.inr ⟨len, hread⟩, .inr ?_⟩
          rw [← hdata, hsame, hempty]
        · rintro ⟨-, hoccupied | hnil⟩
          · cases hroom.symm.trans hoccupied
          · have hsame : inData = s.inData := BoundedVec.ext (by rw [hdata, hnil, hempty])
            rw [hsame]
    | error e =>
        have hnot : ¬ s.Receives data := by
          rintro (hoccupied | ⟨len, hok⟩)
          · cases hroom.symm.trans hoccupied
          · cases hread.symm.trans hok
        refine iff_of_false (fun h => hnot ?_) (fun h => hnot h.1)
        exact (State.write_unchanged_iff hlawful).mp fun _ => h
  · rw [Bool.not_eq_true] at hroom
    rw [State.write_of_occupied data hroom]
    exact iff_of_true rfl ⟨.inl hroom, .inl hroom⟩

/-! ### Hooks of other links -/

theorem State.offset_zero (s : State) : s.offset 0 = s := by
  simp [State.offset]

theorem World.offset_zero (w : World β) : w.offset ⟨0, false, false⟩ = w := by
  simp only [World.offset, State.offset_zero, Bool.or_false]
  rfl

theorem World.offset_offset (w : World β) (incoming outgoing incoming' outgoing' : Bool) :
    (w.offset ⟨0, incoming, outgoing⟩).offset ⟨0, incoming', outgoing'⟩ =
      w.offset ⟨0, incoming || incoming', outgoing || outgoing'⟩ := by
  simp only [World.offset, State.offset_zero, World.state, World.outNack, Bool.or_assoc]

theorem World.wakeIncoming_eq_offset (w : World β) : w.wakeIncoming = w.offset ⟨0, true, false⟩ := by
  simp only [World.offset, State.offset_zero, Bool.or_false, Bool.or_true]
  rfl

theorem World.wakeOutgoing_eq_offset (w : World β) : w.wakeOutgoing = w.offset ⟨0, false, true⟩ := by
  simp only [World.offset, State.offset_zero, Bool.or_false, Bool.or_true]
  rfl

theorem World.sameSession_offset (w : World β) (incoming outgoing : Bool) :
    w.SameSession (w.offset ⟨0, incoming, outgoing⟩) :=
  ⟨rfl, add_zero _, rfl, rfl, rfl⟩

/-- A change for a handle that the tracked connection does not have is none. -/
theorem State.modifyConn_of_ne {s : State} {conn : Connection} (hconn : s.connection = some conn)
    {connHandle : Handle} (hne : connHandle ≠ conn.connHandle) (f : Connection → Connection) :
    s.modifyConn connHandle f = s := by
  simp only [State.modifyConn, hconn]
  rw [if_neg (Ne.symm hne)]

section

variable {w : World β} {conn : Connection} {event : Event} {connHandle : Handle}

/-- A hook that spares the session changes nothing, except that it may raise a signal. -/
theorem exec_of_spares (hconn : w.state.connection = some conn) (hhandle : event.connHandle? = some connHandle)
    (hne : connHandle ≠ conn.connHandle)
    (hlawful : ∀ conn attr data, event = .gatts (.write conn attr data) → data.Lawful)
    (hspares : event.Spares w.state) :
    ∃ incoming outgoing, ((hook event).exec w).1 = w.offset ⟨0, incoming, outgoing⟩ := by
  cases event with
  | host event => cases hhandle
  | gap event =>
      cases event with
      | connect handle status found attMtu =>
          cases status with
          | error e => cases hhandle
          | ok v => exact hspares.elim
      | disconnect handle reason => exact hspares.elim
      | mtu handle value =>
          obtain rfl : handle = connHandle := Option.some.inj hhandle
          have hstate : w.state.setMtu handle value = w.state := State.modifyConn_of_ne hconn hne _
          refine ⟨false, false, ?_⟩
          simp only [hook, gapHook, Hook.exec, hstate, World.offset_zero]
          rfl
      | other => cases hhandle
  | gatts event =>
      cases event with
      | register reg => cases hhandle
      | write handle attr data =>
          have hstate := (State.write_eq_self_iff (hlawful handle attr data rfl)).mpr hspares
          rw [exec_write, hstate]
          cases (w.state.write data).2 with
          | error v => exact ⟨false, false, w.offset_zero.symm⟩
          | ok v => exact ⟨true, false, w.wakeIncoming_eq_offset⟩
      | read handle attr => exact ⟨false, false, w.offset_zero.symm⟩
      | subscriptionChanged handle attr curIndicate =>
          obtain rfl : handle = connHandle := Option.some.inj hhandle
          have hstate : w.state.setSubscribed handle curIndicate = w.state :=
            State.modifyConn_of_ne hconn hne _
          simp only [hook, gattsHook, Hook.exec]
          by_cases hc2 : attr = w.c2ValHandle
          · simp only [if_pos hc2, Hook.exec, hstate]
            exact ⟨false, true, w.wakeOutgoing_eq_offset⟩
          · simp only [if_neg hc2, Hook.exec]
            exact ⟨false, false, w.offset_zero.symm⟩
      | notifyComplete handle attr indication status => cases hhandle

/-- A hook that leaves the session as it is spares it. -/
theorem spares_of_sameSession (hconn : w.state.connection = some conn)
    (hhandle : event.connHandle? = some connHandle) (hne : connHandle ≠ conn.connHandle)
    (hlawful : ∀ conn attr data, event = .gatts (.write conn attr data) → data.Lawful)
    (hsame : w.SameSession ((hook event).exec w).1) : event.Spares w.state := by
  have hconnection := hsame.connection
  have hinData := hsame.inData
  rw [exec_state] at hconnection hinData
  cases event with
  | host event => trivial
  | gap event =>
      cases event with
      | connect handle status found attMtu =>
          cases status with
          | error e => trivial
          | ok v =>
              have hhandle' : handle = connHandle := Option.some.inj hhandle
              cases found with
              | error e =>
                  have h := (Option.some.inj (hconnection.trans hconn))
                  exact hne (hhandle' ▸ congrArg Connection.connHandle h)
              | ok addr =>
                  have h := (Option.some.inj (hconnection.trans hconn))
                  exact hne (hhandle' ▸ congrArg Connection.connHandle h)
      | disconnect handle reason => cases hconnection.trans hconn
      | mtu handle value => trivial
      | other => trivial
  | gatts event =>
      cases event with
      | write handle attr data =>
          refine (State.write_eq_self_iff (hlawful handle attr data rfl)).mp ?_
          obtain ⟨inData, hwrite⟩ := State.write_fst w.state data
          have h : (w.state.write data).1.inData = w.state.inData := hinData
          rw [hwrite] at h ⊢
          dsimp only at h
          rw [h]
      | register reg => trivial
      | read handle attr => trivial
      | subscriptionChanged handle attr curIndicate => trivial
      | notifyComplete handle attr indication status => trivial

end

/-! ### Runs -/

/-- An event of another link leaves the session as it is. -/
def Undisturbed (E : Btp β) (w : World β) (s : Step β) : Prop :=
  foreign w s = true → w.SameSession (step E w s).1

/-- An event of another link is one that spares the session. -/
def Harmless (w : World β) : Step β → Prop
  | .event event => foreign w (.event event) = true → event.Spares w.state
  | _ => True

def Step.Lawful : Step β → Prop
  | .event (.gatts (.write _ _ data)) => data.Lawful
  | _ => True

theorem Step.Lawful.event {event : Event} (h : (Step.event event : Step β).Lawful) (conn attr : Handle)
    (data : Mbuf) (heq : event = .gatts (.write conn attr data)) : data.Lawful := by
  subst heq
  exact h

theorem undisturbed_iff_harmless (E : Btp β) {w : World β} {s : Step β} (hlawful : s.Lawful) :
    Undisturbed E w s ↔ Harmless w s := by
  by_cases hforeign : foreign w s = true
  · obtain ⟨event, conn, connHandle, rfl, hconn, hhandle, hne⟩ := foreign_eq_true hforeign
    constructor
    · intro hsame _
      exact spares_of_sameSession hconn hhandle hne hlawful.event (hsame hforeign)
    · intro hspares _
      obtain ⟨incoming, outgoing, hexec⟩ :=
        exec_of_spares hconn hhandle hne hlawful.event (hspares hforeign)
      rw [step, hexec]
      exact w.sameSession_offset incoming outgoing
  · refine iff_of_true (fun h => absurd h hforeign) ?_
    cases s with
    | event event => exact fun h => absurd h hforeign
    | incoming => trivial
    | outgoing d => trivial
    | matter btp => trivial

/-- The events of other links leave the tracked session alone throughout a run exactly when they all are
of the kinds that spare it; the pumps do the same then as if these events had never come. -/
theorem links_undisturbed_iff (E : Btp β) (w : World β) (steps : List (Step β))
    (hlawful : ∀ s ∈ steps, s.Lawful) :
    (Along (step E) (Undisturbed E) w steps ↔ Along (step E) Harmless w steps) ∧
      (Along (step E) Harmless w steps →
        outputs (step E) w steps = outputs (step E) w (prune (step E) foreign w steps)) := by
  refine ⟨along_congr (fun _ _ => undisturbed_iff_harmless E) hlawful, fun hrun => ?_⟩
  have hguard : Along (step E) (fun w s => Harmless w s ∧ s.Lawful) w steps :=
    (along_congr (fun _ _ hs => (and_iff_left hs).symm) hlawful).mp hrun
  -- the run with the events and the run without them differ in the signals raised
  refine (unwinding (R := fun w t => ∃ incoming outgoing, w = t.offset ⟨0, incoming, outgoing⟩)
    ?_ ?_ ⟨false, false, w.offset_zero.symm⟩ hguard).2
  · rintro w t s ⟨incoming, outgoing, rfl⟩ ⟨hspares, hlawful⟩ hforeign
    obtain ⟨event, conn, connHandle, rfl, hconn, hhandle, hne⟩ := foreign_eq_true hforeign
    obtain ⟨incoming', outgoing', hexec⟩ :=
      exec_of_spares hconn hhandle hne hlawful.event (hspares hforeign)
    refine ⟨⟨incoming || incoming', outgoing || outgoing', ?_⟩, rfl⟩
    rw [step, hexec, World.offset_offset]
  · rintro w t s ⟨incoming, outgoing, rfl⟩ - -
    rw [step_offset]
    exact ⟨⟨_, _, rfl⟩, rfl⟩

/-- Another peer than the tracked one writes, and then leaves. -/
def intrusion : List (Step (List Buffer)) :=
  [.event (.gap (.connect 1 (.ok ()) (.ok ⟨.replicate 6 1⟩) (.ok 23))),
    .event (.gatts (.write 2 7 (.ofBytes [9]))), .incoming, .event (.gap (.disconnect 2 0))]

/-- A run in which another peer exchanges its MTU and subscribes, and writes while something is pending. -/
def coexistence : List (Step (List Buffer)) :=
  [.event (.gap (.connect 1 (.ok ()) (.ok ⟨.replicate 6 1⟩) (.ok 23))),
    .event (.gatts (.write 1 7 (.ofBytes [4]))), .event (.gap (.mtu 2 247)),
    .event (.gatts (.subscriptionChanged 2 0 true)), .event (.gatts (.write 2 7 (.ofBytes [9]))), .incoming]

theorem links_undisturbed_coexistence :
    Along (step .queue) (Undisturbed .queue) (.fresh .new 0 []) coexistence ∧
      outputs (step .queue) (.fresh .new 0 []) coexistence =
        outputs (step .queue) (.fresh .new 0 []) (prune (step .queue) foreign (.fresh .new 0 []) coexistence) := by
  have hlawful : ∀ s ∈ coexistence, s.Lawful := by
    simp [coexistence, Step.Lawful, Mbuf.lawful_ofBytes]
  have hpending : (after (step .queue) (.fresh .new 0 []) (coexistence.take 4)).state.inData.isEmpty =
      false := by
    decide +kernel
  have hrun : Along (step .queue) Harmless (.fresh .new 0 []) coexistence :=
    ⟨fun h => absurd h (by decide), fun h => absurd h (by decide), fun _ => trivial, fun _ => trivial,
      fun _ => ⟨.inl hpending, .inl hpending⟩, trivial, trivial⟩
  have h := links_undisturbed_iff .queue (.fresh .new 0 []) coexistence hlawful
  exact ⟨h.1.mpr hrun, h.2 hrun⟩

/-- What another peer wrote is handed to the engine as the tracked peer's, and when it disconnects the
tracked connection is gone. -/
theorem session_disturbed :
    outputs (step .queue) (.fresh .new 0 []) intrusion =
        [.btp .reset, .btp (.processIncoming (some 23) ⟨.replicate 6 1⟩ [9] (.ok ()))] ∧
      (after (step .queue) (.fresh .new 0 []) (intrusion.take 3)).state.connection =
        some ⟨⟨.replicate 6 1⟩, 1, false, some 23⟩ ∧
      (after (step .queue) (.fresh .new 0 []) intrusion).state.connection = none := by
  decide +kernel

end EspIdfMatter.Nimble
