import EspIdfMatter.Duplex.Delivery
import EspIdfMatter.Central.Safety
import EspIdfMatter.Nimble.FlowControl

/-! The link does not get stuck. Each end waits only for what is on its way, and whatever the link and the
pumps have been doing, a few deliveries leave both ends free to send again. -/

namespace EspIdfMatter.Duplex

open Library Library.Machine

variable {β γ : Type}

/-- Connected, with the client in the know of the handle of `C1` as well, and the peripheral of the client. -/
structure Paired (c1Val c2Val : Handle) (S : System β γ) : Prop where
  connected : Connected c2Val S
  writes : S.client.state.c1Val = some c1Val
  /-- the completions of the writes are told from that of the subscription -/
  distinct : c1Val ≠ c2Val + 1
  free : S.client.state.outInflight = false
  tracked : S.peripheral.state.connection.isSome = true

/-- Something arrives, or is handed to the engine that it is for. -/
def Delivers (S : System β γ) : Action β γ → Prop
  | .writes (.request _) => True
  | .writes .response => S.responses ≠ []
  | .writes .incoming => S.peripheral.ended = none ∧ S.peripheral.state.inData.toList ≠ []
  | .indication _ => True
  | .confirmation => S.confirmations ≠ 0
  | .incoming => S.client.ended = none ∧ S.client.state.inData.toList ≠ []
  | _ => False

/-- Both ends are free to send, and have handed over what they got, unless they ended. -/
structure Settled (S : System β γ) : Prop where
  writes : S.client.state.outInflight = false
  indicates : S.peripheral.outNack = false
  client : S.client.ended = none → S.client.state.inData.toList = []
  peripheral : S.peripheral.ended = none → S.peripheral.state.inData.toList = []

/-! ### What is still to come -/

/-- What a buffer holds is handed over in one piece; nothing is once the pumps ended. -/
def held (buf : Buffer) (ended : Option ErrorCode) : Nat :=
  if ended = none ∧ buf.toList ≠ [] then 1 else 0

theorem held_le (buf : Buffer) (ended : Option ErrorCode) : held buf ended ≤ 1 := by
  unfold held
  split
  · exact le_rfl
  · exact Nat.zero_le 1

theorem held_of_ended {buf : Buffer} {ended : Option ErrorCode} (h : ended ≠ none) : held buf ended = 0 :=
  if_neg fun hheld => h hheld.1

theorem held_of_empty {buf : Buffer} {ended : Option ErrorCode} (h : buf.toList = []) : held buf ended = 0 :=
  if_neg fun hheld => hheld.2 h

/-- How many deliveries there may be: a segment arrives, is handed over, and is answered. -/
def System.load (S : System β γ) : Nat :=
  3 * (S.requests.length + S.indications.length) + (S.responses.length + S.confirmations) +
    (held S.peripheral.state.inData S.peripheral.ended + held S.client.state.inData S.client.ended)

/-! ### The pumps -/

section Pumps

theorem client_step (E : Btp β) (conn c1Val : Handle) {w : Central.World β} (hrunning : w.aborted = false)
    (hended : w.ended = none) :
    Central.step E conn c1Val w .incoming = (Central.processIncoming E w).finish ∧
      ∀ result, Central.step E conn c1Val w (.outgoing result) =
        (Central.processOutgoing E conn c1Val result w).finish := by
  have hgo : ¬ w.aborted = true := by
    rw [hrunning]
    exact Bool.false_ne_true
  refine ⟨?_, fun result => ?_⟩
  · rw [Central.step, if_neg hgo]
    exact if_pos hended
  · rw [Central.step, if_neg hgo]
    exact if_pos hended

theorem client_stopped (E : Btp β) (conn c1Val : Handle) {w : Central.World β} (hrunning : w.aborted = false)
    (hended : w.ended ≠ none) :
    Central.step E conn c1Val w .incoming = (w, []) ∧
      ∀ result, Central.step E conn c1Val w (.outgoing result) = (w, []) := by
  have hgo : ¬ w.aborted = true := by
    rw [hrunning]
    exact Bool.false_ne_true
  refine ⟨?_, fun result => ?_⟩
  · rw [Central.step, if_neg hgo]
    exact if_neg hended
  · rw [Central.step, if_neg hgo]
    exact if_neg hended

/-- The pumps leave alone what was discovered. -/
theorem client_c1Val (E : Btp β) (conn c1Val : Handle) {w : Central.World β} (hrunning : w.aborted = false) :
    (Central.step E conn c1Val w .incoming).1.state.c1Val = w.state.c1Val ∧
      ∀ result, (Central.step E conn c1Val w (.outgoing result)).1.state.c1Val = w.state.c1Val := by
  have hkept : ∀ it : Central.Iteration β, Central.Pumps w it → it.finish.1.state.c1Val = w.state.c1Val := by
    intro it hit
    obtain ⟨inData, outData, outInflight, hstate⟩ := hit.state
    show it.world.state.c1Val = w.state.c1Val
    rw [hstate]
  by_cases hended : w.ended = none
  · obtain ⟨hincoming, houtgoing⟩ := client_step E conn c1Val hrunning hended
    refine ⟨?_, fun result => ?_⟩
    · rw [hincoming]
      exact hkept _ (Central.pumps_processIncoming E w)
    · rw [houtgoing]
      exact hkept _ (Central.pumps_processOutgoing E conn c1Val result w)
  · obtain ⟨hincoming, houtgoing⟩ := client_stopped E conn c1Val hrunning hended
    refine ⟨?_, fun result => ?_⟩
    · rw [hincoming]
    · rw [houtgoing]

/-- What arrived is handed over, or the pumps end. -/
theorem client_takes (E : Btp β) (conn c1Val : Handle) {w : Central.World β} (hrunning : w.aborted = false)
    (hended : w.ended = none) (hdata : w.state.inData.toList ≠ []) :
    held (Central.step E conn c1Val w .incoming).1.state.inData
      (Central.step E conn c1Val w .incoming).1.ended = 0 := by
  have hoccupied : ¬ w.state.inData.isEmpty = true := fun h => hdata ((BoundedVec.isEmpty_iff _).mp h)
  rw [(client_step E conn c1Val hrunning hended).1]
  by_cases hfailed : w.state.failed = true
  · rw [Central.processIncoming, if_pos hfailed]
    exact held_of_ended (Option.some_ne_none _)
  rw [Central.processIncoming, if_neg hfailed, if_neg hoccupied]
  dsimp only
  split
  · exact held_of_ended (Option.some_ne_none _)
  · exact held_of_empty rfl

theorem peripheral_takes (F : Btp γ) {w : Nimble.World γ} (htracked : w.state.connection.isSome = true)
    (hended : w.ended = none) (hdata : w.state.inData.toList ≠ []) :
    held (Nimble.step F w .incoming).1.state.inData (Nimble.step F w .incoming).1.ended = 0 := by
  have hstep : Nimble.step F w .incoming = (Nimble.processIncoming F w).finish := if_pos hended
  obtain ⟨conn, hconn⟩ := Option.isSome_iff_exists.mp htracked
  have hoccupied : ¬ (w.syncBtp F).1.state.inData.isEmpty = true := by
    rw [Nimble.World.syncBtp_state]
    exact fun h => hdata ((BoundedVec.isEmpty_iff _).mp h)
  rw [hstep]
  unfold Nimble.processIncoming
  rw [hconn]
  dsimp only
  rw [if_neg hoccupied]
  split
  · exact held_of_ended (Option.some_ne_none _)
  · exact held_of_empty rfl

theorem peripheral_tracked (F : Btp γ) (w : Nimble.World γ) :
    (Nimble.step F w .incoming).1.state.connection.isSome = w.state.connection.isSome ∧
      ∀ d, (Nimble.step F w (.outgoing d)).1.state.connection.isSome = w.state.connection.isSome := by
  refine ⟨?_, fun d => ?_⟩
  · by_cases hended : w.ended = none
    · have hstep : Nimble.step F w .incoming = (Nimble.processIncoming F w).finish := if_pos hended
      rw [hstep]
      exact congrArg Option.isSome (Nimble.incoming_frame F w).2
    · rw [show Nimble.step F w .incoming = (w, []) from if_neg hended]
  · by_cases hended : w.ended = none
    · have hstep : Nimble.step F w (.outgoing d) = (Nimble.iterateOutgoing F d w).finish := if_pos hended
      have hlink := congrArg Option.isSome (Nimble.outgoing_frame F d w).2.1
      rw [Nimble.World.link, Nimble.World.link, Option.isSome_map, Option.isSome_map] at hlink
      rw [hstep]
      exact hlink
    · rw [show Nimble.step F w (.outgoing d) = (w, []) from if_neg hended]

/-- A segment that leaves fits the buffer of the other end. -/
theorem client_sized (E : Btp β) (conn c1Val : Handle) {w : Central.World β} (hrunning : w.aborted = false)
    (result : Except Nimble.BleError Unit) :
    ∀ data ∈ (Central.step E conn c1Val w (.outgoing result)).2.filterMap Link.sentBy,
      data.length ≤ maxMtuSize := by
  by_cases hended : w.ended = none
  · rw [(client_step E conn c1Val hrunning hended).2]
    show ∀ data ∈ (Central.processOutgoing E conn c1Val result w).calls.filterMap Link.sentBy, _
    unfold Central.processOutgoing
    dsimp only
    split
    · exact List.forall_mem_nil _
    split
    · exact List.forall_mem_nil _
    split
    · exact List.forall_mem_nil _
    · rename_i btp frame hanswer
      split
      · split
        · exact List.forall_mem_nil _
        · intro data hdata
          have hfront : data = List.take frame.length _ := List.mem_singleton.mp hdata
          rw [hfront, List.length_take]
          exact (Nat.min_le_left _ _).trans frame.length_le
      · exact List.forall_mem_nil _
  · rw [(client_stopped E conn c1Val hrunning hended).2]
    exact List.forall_mem_nil _

theorem peripheral_sized (F : Btp γ) (w : Nimble.World γ) (d : Nimble.Driver) :
    ∀ x ∈ (Nimble.step F w (.outgoing d)).2.filterMap indicationSent, x.2.length ≤ maxMtuSize := by
  by_cases hended : w.ended = none
  · have hstep : Nimble.step F w (.outgoing d) = (Nimble.iterateOutgoing F d w).finish := if_pos hended
    have hsilent := (readvertise_silent d w).2.1
    rw [hstep]
    simp only [Nimble.Iteration.finish, Nimble.iterateOutgoing, List.filterMap_append, hsilent, List.nil_append]
    generalize (Nimble.readvertise d w).1 = w
    have hsynced := (syncBtp_silent F w).2
    unfold Nimble.processOutgoing
    split
    · exact List.forall_mem_nil _
    split
    · exact List.forall_mem_nil _
    dsimp only
    split
    · rw [hsynced]
      exact List.forall_mem_nil _
    split
    · rw [hsynced]
      exact List.forall_mem_nil _
    split
    · simp only [List.filterMap_append, hsynced]
      exact List.forall_mem_nil _
    · rename_i btp frame hanswer
      split
      · simp only [List.filterMap_append, hsynced]
        exact List.forall_mem_nil _
      · simp only [List.filterMap_append, hsynced, Nimble.submit]
        split
        · intro x hx
          have hfront : x = (_, List.take frame.length _) := List.mem_singleton.mp hx
          rw [hfront]
          show (List.take frame.length _).length ≤ maxMtuSize
          rw [List.length_take]
          exact (Nat.min_le_left _ _).trans frame.length_le
        · exact List.forall_mem_nil _
  · have hstep : Nimble.step F w (.outgoing d) = (w, []) := if_neg hended
    rw [hstep]
    exact List.forall_mem_nil _

end Pumps

/-! ### The hooks -/

theorem onEvent_c1Val {event : Central.Event} (hevent : ClientBackground event) {c c' : Central.Context}
    (h : Central.onEvent event c = some c') : c'.state.c1Val = c.state.c1Val := by
  cases event with
  | host event => cases event <;> cases h <;> rfl
  | gap event =>
      cases event with
      | connect connHandle status found attMtu => cases status <;> cases h <;> rfl
      | mtu connHandle value =>
          cases h
          simp only [Central.onGapEvent, Central.Context.modify]
          split
          · rfl
          · rfl
      | _ => cases h; rfl
  | gattc event =>
      cases event with
      | service service =>
          cases service with
          | none => cases h; rfl
          | some service =>
              cases h
              split
              · rfl
              · rfl
      | readComplete => cases h; rfl
      | _ => exact absurd hevent id

theorem exec_tracked {event : Nimble.Event} (hevent : PeripheralBackground event) (w : Nimble.World γ) :
    ((Nimble.hook event).exec w).1.state.connection.isSome = w.state.connection.isSome := by
  rw [Nimble.exec_state]
  cases event with
  | host event => cases event <;> rfl
  | gap event =>
      cases event with
      | connect connHandle status found attMtu =>
          cases status with
          | error e => rfl
          | ok u => exact absurd hevent id
      | disconnect connHandle reason => exact absurd hevent id
      | mtu connHandle value => exact Nimble.modifyConn_isSome _ _ _
      | other => rfl
  | gatts event =>
      cases event with
      | subscriptionChanged connHandle attrHandle curIndicate =>
          simp only [Nimble.Event.update]
          split
          · exact Nimble.modifyConn_isSome _ _ _
          · rfl
      | register reg => rfl
      | read connHandle attrHandle => rfl
      | _ => exact absurd hevent id

/-! ### No end waits in vain -/

/-- Each end waits for one segment at most, and that is on its way. -/
structure Balanced (c1Val c2Val : Handle) (S : System β γ) : Prop where
  steady : Steady c2Val S
  writes : S.client.state.c1Val = some c1Val
  tracked : S.peripheral.state.connection.isSome = true
  asked : S.requests.length + S.responses.length = S.client.state.outInflight.toNat
  /-- what is on its way fits the buffer at its end -/
  requests : ∀ data ∈ S.requests, data.length ≤ maxMtuSize
  indications : ∀ x ∈ S.indications, x.2.length ≤ maxMtuSize

section Balanced

variable {E : Btp β} {F : Btp γ} {conn c1Val c2Val : Handle} {S : System β γ}

theorem Paired.balanced (h : Paired c1Val c2Val S) : Balanced c1Val c2Val S := by
  obtain ⟨hrequests, hresponses, hindications, -⟩ := h.connected.quiet
  refine ⟨h.connected.steady, h.writes, h.tracked, ?_, ?_, ?_⟩
  · rw [hrequests, hresponses, h.free]
    rfl
  · rw [hrequests]
    exact List.forall_mem_nil _
  · rw [hindications]
    exact List.forall_mem_nil _

/-- The answer to the write frees the client. -/
theorem answered_free (hdistinct : c1Val ≠ c2Val + 1) {c : Central.Context} (hc1 : c.state.c1Val = some c1Val)
    (status : Int) :
    (Central.onWriteComplete c1Val status (some (c2Val + 1)) c).state.outInflight = false := by
  have hother : some c1Val ≠ some (c2Val + 1) := fun h => hdistinct (Option.some.inj h)
  rw [Central.onWriteComplete, if_neg hother, if_pos hc1.symm]
  rfl

/-- **Every action keeps the balance.** -/
theorem balanced_step (hdistinct : c1Val ≠ c2Val + 1) (h : Balanced c1Val c2Val S) (action : Action β γ)
    (hcarries : Carries S action) : Balanced c1Val c2Val (step E F conn c1Val S action).1 := by
  have hsteady : Steady c2Val (step E F conn c1Val S action).1 := (moves_step h.steady action hcarries).steady
  have hrunning := h.steady.running
  cases action with
  | writes action =>
      cases action with
      | outgoing result =>
          obtain ⟨produced, hemits, -⟩ := client_outgoing E conn c1Val hrunning result
          refine ⟨hsteady, ((client_c1Val E conn c1Val hrunning).2 result).trans h.writes, h.tracked, ?_, ?_,
            h.indications⟩
          · have hflow := hemits.flow
            have hasked := h.asked
            simp only [step, Link.step, System.setLink, System.link, List.length_append]
            omega
          · exact List.forall_mem_append.mpr ⟨h.requests, client_sized E conn c1Val hrunning result⟩
      | request data =>
          obtain ⟨⟨requests, hrequests⟩, -⟩ := hcarries
          change S.requests = data.payload :: requests at hrequests
          have hstate := Nimble.exec_state (.gatts (.write conn c1Val data)) S.peripheral
          rw [step_request hrequests] at hsteady ⊢
          refine ⟨hsteady, h.writes, ?_, ?_, ?_, h.indications⟩
          · show ((Nimble.hook (.gatts (.write conn c1Val data))).exec S.peripheral).1.state.connection.isSome = _
            rw [hstate]
            exact (congrArg Option.isSome (Nimble.write_connection data S.peripheral.state)).trans h.tracked
          · have hasked := h.asked
            rw [hrequests, List.length_cons] at hasked
            show requests.length + (S.responses ++ [_]).length = S.client.state.outInflight.toNat
            rw [List.length_append, List.length_singleton]
            omega
          · exact (List.forall_mem_cons.mp (hrequests ▸ h.requests)).2
      | response =>
          cases hresponses : S.responses with
          | nil =>
              rw [step_unanswered hresponses]
              exact h
          | cons code responses =>
              obtain ⟨hc1, -, -⟩ :=
                onWriteComplete_frame c1Val code.toNat (some (c2Val + 1)) S.client.context
              rw [step_response h.steady hresponses] at hsteady ⊢
              refine ⟨hsteady, hc1.trans h.writes, h.tracked, ?_, h.requests, h.indications⟩
              show _ = (Central.onWriteComplete _ _ _ S.client.context).state.outInflight.toNat
              rw [answered_free hdistinct h.writes]
              have hasked := h.asked
              have hone := Bool.toNat_le S.client.state.outInflight
              rw [hresponses, List.length_cons] at hasked
              show S.requests.length + responses.length = 0
              omega
      | incoming => exact ⟨hsteady, h.writes, (peripheral_tracked F S.peripheral).1.trans h.tracked, h.asked,
          h.requests, h.indications⟩
      | client btp =>
          have hmatter := client_matter E conn c1Val hrunning btp
          simp only [step, Link.step, System.link, System.setLink, hmatter] at hsteady ⊢
          exact ⟨hsteady, h.writes, h.tracked, h.asked, h.requests, h.indications⟩
      | peripheral btp => exact ⟨hsteady, h.writes, h.tracked, h.asked, h.requests, h.indications⟩
  | outgoing d =>
      refine ⟨hsteady, h.writes, ((peripheral_tracked F S.peripheral).2 d).trans h.tracked, h.asked,
        h.requests, ?_⟩
      exact List.forall_mem_append.mpr ⟨h.indications, peripheral_sized F S.peripheral d⟩
  | indication data =>
      obtain ⟨⟨attr, indications, hindications⟩, -⟩ := hcarries
      obtain ⟨hc1, -, hinflight⟩ := notify_frame data S.client.state
      rw [step_indication h.steady hindications] at hsteady ⊢
      refine ⟨hsteady, hc1.trans h.writes, h.tracked, ?_, h.requests, ?_⟩
      · exact h.asked.trans (congrArg Bool.toNat hinflight.symm)
      · exact (List.forall_mem_cons.mp (hindications ▸ h.indications)).2
  | confirmation =>
      cases hconfirmations : S.confirmations with
      | zero =>
          rw [step_unconfirmed hconfirmations]
          exact h
      | succ confirmations =>
          rw [step_confirmation hconfirmations] at hsteady ⊢
          exact ⟨hsteady, h.writes, h.tracked, h.asked, h.requests, h.indications⟩
  | incoming =>
      obtain ⟨-, -, -, hinflight⟩ := client_incoming E conn c1Val hrunning
      refine ⟨hsteady, (client_c1Val E conn c1Val hrunning).1.trans h.writes, h.tracked, ?_, h.requests,
        h.indications⟩
      exact h.asked.trans (congrArg Bool.toNat hinflight.symm)
  | client event =>
      obtain ⟨context, hcontext, -, hinflight⟩ := onEvent_of_background hcarries S.client.context
      have hc1 := onEvent_c1Val hcarries hcontext
      have hclient : Central.step E conn c1Val S.client (.event event) =
          ({ S.client with context }, []) := client_event hrunning hcontext
      simp only [step, hclient] at hsteady ⊢
      refine ⟨hsteady, hc1.trans h.writes, h.tracked, ?_, h.requests, h.indications⟩
      exact h.asked.trans (congrArg Bool.toNat hinflight.symm)
  | peripheral event =>
      exact ⟨hsteady, h.writes, (exec_tracked hcarries S.peripheral).trans h.tracked, h.asked, h.requests,
        h.indications⟩

/-- **Every delivery lowers the load.** -/
theorem load_step (h : Balanced c1Val c2Val S) {action : Action β γ} (hcarries : Carries S action)
    (hdelivers : Delivers S action) : (step E F conn c1Val S action).1.load < S.load := by
  cases action with
  | writes action =>
      cases action with
      | request data =>
          obtain ⟨⟨requests, hrequests⟩, -⟩ := hcarries
          change S.requests = data.payload :: requests at hrequests
          rw [step_request hrequests]
          have hheld := held_le
            ((Nimble.hook (.gatts (.write conn c1Val data))).exec S.peripheral).1.state.inData
            ((Nimble.hook (.gatts (.write conn c1Val data))).exec S.peripheral).1.ended
          simp only [System.load, hrequests, List.length_cons, List.length_append, List.length_nil]
          omega
      | response =>
          obtain ⟨code, responses, hresponses⟩ := List.exists_cons_of_ne_nil hdelivers
          obtain ⟨-, -, hdata⟩ :=
            onWriteComplete_frame c1Val code.toNat (some (c2Val + 1)) S.client.context
          rw [step_response h.steady hresponses]
          have hsame : held (Central.onWriteComplete c1Val code.toNat (some (c2Val + 1))
              S.client.context).state.inData S.client.ended = held S.client.state.inData S.client.ended := by
            rw [hdata]
            rfl
          simp only [System.load, hresponses, List.length_cons, Central.World.state] at hsame ⊢
          omega
      | incoming =>
          obtain ⟨hended, hdata⟩ := hdelivers
          have htaken := peripheral_takes F h.tracked hended hdata
          have hheld : held S.peripheral.state.inData S.peripheral.ended = 1 := if_pos ⟨hended, hdata⟩
          simp only [step, Link.step, System.link, System.setLink, System.load, htaken, hheld]
          omega
      | _ => exact absurd hdelivers id
  | indication data =>
      obtain ⟨⟨attr, indications, hindications⟩, -⟩ := hcarries
      rw [step_indication h.steady hindications]
      have hheld := held_le (S.client.state.notify data).inData S.client.ended
      simp only [System.load, hindications, List.length_cons, Central.World.state,
        Central.Context.modify, Central.Context.signalIn] at hheld ⊢
      omega
  | confirmation =>
      obtain ⟨confirmations, hconfirmations⟩ := Nat.exists_eq_succ_of_ne_zero hdelivers
      rw [step_confirmation hconfirmations]
      simp only [System.load, hconfirmations, Nimble.World.state_wakeOutgoing, Nimble.World.state_setNack,
        Nimble.World.ended_wakeOutgoing, Nimble.World.ended_setNack]
      omega
  | incoming =>
      obtain ⟨hended, hdata⟩ := hdelivers
      have htaken := client_takes E conn c1Val h.steady.running hended hdata
      have hheld : held S.client.state.inData S.client.ended = 1 := if_pos ⟨hended, hdata⟩
      simp only [step, System.load, htaken, hheld]
      omega
  | _ => exact absurd hdelivers id

end Balanced

/-! ### Runs -/

section Runs

variable {c1Val c2Val : Handle} {S : System β γ}

theorem Balanced.load_le (h : Balanced c1Val c2Val S) : S.load ≤ 8 := by
  have hasked := h.asked
  have htold := h.steady.told
  have hone := Bool.toNat_le S.client.state.outInflight
  have hone' := Bool.toNat_le S.peripheral.outNack
  have hheld := held_le S.peripheral.state.inData S.peripheral.ended
  have hheld' := held_le S.client.state.inData S.client.ended
  unfold System.load
  omega

/-- As long as there is something left, something can be delivered. -/
theorem Balanced.still (h : Balanced c1Val c2Val S) (hstill : ∀ action, Carries S action → ¬ Delivers S action) :
    S.requests = [] ∧ S.responses = [] ∧ S.indications = [] ∧ S.confirmations = 0 ∧
      (S.client.ended = none → S.client.state.inData.toList = []) ∧
      (S.peripheral.ended = none → S.peripheral.state.inData.toList = []) := by
  refine ⟨?_, ?_, ?_, ?_, ?_, ?_⟩
  · cases hrequests : S.requests with
    | nil => rfl
    | cons data requests =>
        have hsized := h.requests data (by rw [hrequests]; exact List.mem_cons_self)
        exact absurd trivial (hstill (.writes (.request (.ofBytes data)))
          ⟨⟨requests, hrequests⟩, Nimble.Mbuf.copiesExactly_ofBytes data hsized⟩)
  · by_contra hresponses
    exact hstill (.writes .response) trivial hresponses
  · cases hindications : S.indications with
    | nil => rfl
    | cons x indications =>
        have hsized := h.indications x (by rw [hindications]; exact List.mem_cons_self)
        exact absurd trivial (hstill (.indication (.ofBytes x.2))
          ⟨⟨x.1, indications, hindications⟩, Nimble.Mbuf.copiesExactly_ofBytes x.2 hsized⟩)
  · by_contra hconfirmations
    exact hstill .confirmation trivial hconfirmations
  · intro hended
    by_contra hdata
    exact hstill .incoming trivial ⟨hended, hdata⟩
  · intro hended
    by_contra hdata
    exact hstill (.writes .incoming) trivial ⟨hended, hdata⟩

/-- **The link settles.** After any actions of the two ends, however deliveries go on there are at most eight
of them; and where nothing is left to deliver, both ends are free to send, and as long as both go on, every
segment was handed over or was lost to a full buffer. -/
theorem link_settles (E : Btp β) (F : Btp γ) (conn : Handle) (h : Paired c1Val c2Val S)
    (actions : List (Action β γ)) (hcarries : Along (step E F conn c1Val) Carries S actions) :
    let S' := after (step E F conn c1Val) S actions
    let history := outputs (step E F conn c1Val) S actions
    let writes := history.filterMap Obs.writes?
    let indicated := history.filterMap Obs.indicated?
    (∀ more, Along (step E F conn c1Val) (fun S action => Carries S action ∧ Delivers S action) S' more →
      more.length ≤ 8) ∧
    ((∀ action, Carries S' action → ¬ Delivers S' action) → Settled S' ∧
      (S'.client.ended = none → S'.peripheral.ended = none →
        (Channel.handed writes ++ Channel.lost writes).Perm (Channel.produced writes) ∧
        (Channel.handed indicated ++ Channel.lost indicated).Perm (Channel.produced indicated))) := by
  intro S' history writes indicated
  have hbalanced : Balanced c1Val c2Val S' :=
    invariant_after (I := Balanced c1Val c2Val) (fun S action hS hc => balanced_step h.distinct hS action hc)
      h.balanced hcarries
  refine ⟨fun more hmore => ?_, fun hstill => ?_⟩
  · have hbound := length_add_rank_le (I := Balanced c1Val c2Val) (r := System.load)
      (fun S action hS hgo => ⟨balanced_step h.distinct hS action hgo.1, load_step hS hgo.1 hgo.2⟩)
      hbalanced hmore
    calc more.length ≤ S'.load := (Nat.le_add_right _ _).trans hbound
      _ ≤ 8 := hbalanced.load_le
  · obtain ⟨hrequests, hresponses, hindications, hconfirmations, hclient, hperipheral⟩ := hbalanced.still hstill
    refine ⟨⟨?_, ?_, hclient, hperipheral⟩, fun hgoes hgoes' => ?_⟩
    · have hasked := hbalanced.asked
      rw [hrequests, hresponses] at hasked
      exact Bool.toNat_eq_zero.mp hasked.symm
    · have htold := hbalanced.steady.told
      rw [hindications, hconfirmations] at htold
      exact Bool.toNat_eq_zero.mp htold.symm
    · obtain ⟨hwrites, hindicated⟩ := runs_reliable E F conn c1Val h.connected hcarries
      have hsending : S'.client.ended.isNone = true := Option.isNone_iff_eq_none.mpr hgoes
      have hreceiving : S'.peripheral.ended.isNone = true := Option.isNone_iff_eq_none.mpr hgoes'
      have hslot : S'.writes.slot = none := if_pos (hperipheral hgoes')
      have hslot' : S'.indicated.slot = none := if_pos (hclient hgoes)
      have hflight : S'.writes.flight = [] := hrequests
      have hflight' : S'.indicated.flight = [] := congrArg (List.map Prod.snd) hindications
      have heach := hwrites.each hsending hreceiving
      have heach' := hindicated.each hreceiving hsending
      rw [hslot, hflight, Option.toList_none, List.append_nil, List.append_nil] at heach
      rw [hslot', hflight', Option.toList_none, List.append_nil, List.append_nil] at heach'
      exact ⟨heach, heach'⟩

end Runs

theorem paired_connectedSystem : Paired 3 5 connectedSystem where
  connected := connected_connectedSystem
  writes := rfl
  distinct := by decide
  free := rfl
  tracked := rfl

/-- A segment each way is still on its way when the second ones are due. -/
def settlingActions : List (Action (List Buffer) (List Buffer)) :=
  [.peripheral (.gatts (.subscriptionChanged 1 5 true)), .writes (.outgoing (.ok ())),
    .outgoing .succeeding, .writes (.outgoing (.ok ())), .outgoing .succeeding]

theorem link_settles_settling :
    let S' := after (step .queue .queue 1 3) connectedSystem settlingActions
    let history := outputs (step .queue .queue 1 3) connectedSystem settlingActions
    let writes := history.filterMap Obs.writes?
    let indicated := history.filterMap Obs.indicated?
    (∀ more, Along (step .queue .queue 1 3) (fun S action => Carries S action ∧ Delivers S action) S' more →
      more.length ≤ 8) ∧
    ((∀ action, Carries S' action → ¬ Delivers S' action) → Settled S' ∧
      (S'.client.ended = none → S'.peripheral.ended = none →
        (Channel.handed writes ++ Channel.lost writes).Perm (Channel.produced writes) ∧
        (Channel.handed indicated ++ Channel.lost indicated).Perm (Channel.produced indicated))) :=
  link_settles .queue .queue 1 paired_connectedSystem settlingActions
    ⟨trivial, trivial, patient_succeeding, trivial, patient_succeeding, trivial⟩

end EspIdfMatter.Duplex
