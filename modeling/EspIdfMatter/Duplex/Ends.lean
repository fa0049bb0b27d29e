import EspIdfMatter.Library.Channel
import EspIdfMatter.Central.Indications
import EspIdfMatter.Nimble.Backend
import EspIdfMatter.Link

/-! The two ends of a connection between the client and the NimBLE peripheral. An iteration of an outgoing
pump emits one segment or none, and one of an incoming pump consumes the segment that waits for it, at
either end alike; in terms of the channel between them, each is an operation at one of its ends. -/

namespace EspIdfMatter.Duplex

open Library Library.Machine

variable {β γ : Type}

/-- The segment in a buffer, if there is one. -/
def waiting (buf : Buffer) : Option Bytes := if buf.toList = [] then none else some buf.toList

theorem waiting_of_empty {buf : Buffer} (h : buf.isEmpty = true) : waiting buf = none :=
  if_pos ((BoundedVec.isEmpty_iff _).mp h)

theorem waiting_of_occupied {buf : Buffer} (h : ¬ buf.isEmpty = true) : waiting buf = some buf.toList :=
  if_neg fun hnil => h ((BoundedVec.isEmpty_iff _).mpr hnil)

/-! ### Emitting -/

/-- What an outgoing pump does: the error that ended the pumps, before and after; whether a segment is out,
before and after; and what was produced and sent. -/
inductive Emits {σ : Type} (segment : σ → Bytes) :
    Option ErrorCode → Option ErrorCode → Bool → Bool → List Bytes → List σ → Prop where
  | idle (ended : Option ErrorCode) (out : Bool) : Emits segment ended ended out out [] []
  | fail (e : ErrorCode) (out : Bool) : Emits segment none (some e) out out [] []
  | spill (e : ErrorCode) (data : Bytes) : Emits segment none (some e) false false [data] []
  | send (x : σ) (hne : segment x ≠ []) : Emits segment none none false true [segment x] [x]

/-- The pumps go on as before, or end now. -/
def Ends (ended ended' : Option ErrorCode) : Prop := ended' = ended ∨ ended = none

section Emits

variable {σ : Type} {segment : σ → Bytes} {ended ended' : Option ErrorCode} {out out' : Bool}
  {produced : List Bytes} {sent : List σ}

theorem Emits.ends (h : Emits segment ended ended' out out' produced sent) : Ends ended ended' := by
  cases h with
  | idle => exact .inl rfl
  | fail => exact .inr rfl
  | spill => exact .inr rfl
  | send => exact .inl rfl

/-- What is sent is out from then on. -/
theorem Emits.flow (h : Emits segment ended ended' out out' produced sent) :
    sent.length + out.toNat = out'.toNat := by
  cases h with
  | idle => exact Nat.zero_add _
  | fail => exact Nat.zero_add _
  | spill => rfl
  | send => rfl

theorem Emits.nonempty (h : Emits segment ended ended' out out' produced sent) :
    ∀ x ∈ sent, segment x ≠ [] := by
  cases h with
  | send x hne => exact List.forall_mem_singleton.mpr hne
  | _ => exact List.forall_mem_nil _

theorem Emits.refines (h : Emits segment ended ended' out out' produced sent) {c : Channel Bytes}
    (hc : c.sending = ended.isNone) :
    ∃ ops, after Channel.step c ops =
        { c with flight := c.flight ++ sent.map segment, sending := ended'.isNone } ∧
      outputs Channel.step c ops = produced.map .produced := by
  cases h with
  | idle =>
      refine ⟨[], ?_, rfl⟩
      rw [after_nil, List.map_nil, List.append_nil, ← hc]
  | fail e =>
      refine ⟨[.stopSending], ?_, rfl⟩
      rw [List.map_nil, List.append_nil]
      rfl
  | spill e data =>
      have hstep : c.step (.spill data) = ({ c with sending := false }, [.produced data]) := if_pos hc
      refine ⟨[.spill data], ?_, ?_⟩
      · rw [after_cons, after_nil, hstep, List.map_nil, List.append_nil]
        rfl
      · rw [outputs_cons, outputs_nil, hstep]
        rfl
  | send x hne =>
      have hstep : c.step (.send (segment x)) =
          ({ c with flight := c.flight ++ [segment x] }, [.produced (segment x)]) := if_pos hc
      refine ⟨[.send (segment x)], ?_, ?_⟩
      · rw [after_cons, after_nil, hstep, List.map_singleton, ← hc]
      · rw [outputs_cons, outputs_nil, hstep]
        rfl

theorem Ends.stops_sending (h : Ends ended ended') {c : Channel Bytes} (hc : c.sending = ended.isNone) :
    ∃ ops, after Channel.step c ops = { c with sending := ended'.isNone } ∧
      outputs Channel.step c ops = [] := by
  cases hended : ended' with
  | none =>
      refine ⟨[], ?_, rfl⟩
      have hsending : c.sending = true := by
        rcases h with rfl | rfl
        · rw [hc, hended]
          rfl
        · exact hc
      rw [after_nil, Option.isNone_none, ← hsending]
  | some e => exact ⟨[.stopSending], rfl, rfl⟩

theorem Ends.stops_receiving (h : Ends ended ended') {c : Channel Bytes}
    (hc : c.receiving = ended.isNone) :
    ∃ ops, after Channel.step c ops = { c with receiving := ended'.isNone } ∧
      outputs Channel.step c ops = [] := by
  cases hended : ended' with
  | none =>
      refine ⟨[], ?_, rfl⟩
      have hreceiving : c.receiving = true := by
        rcases h with rfl | rfl
        · rw [hc, hended]
          rfl
        · exact hc
      rw [after_nil, Option.isNone_none, ← hreceiving]
  | some e => exact ⟨[.stopReceiving], rfl, rfl⟩

end Emits

/-! ### Consuming -/

/-- What an incoming pump does: the error that ended the pumps, before and after; the buffer after; and
what was handed over. -/
inductive Consumes (buf : Buffer) : Option ErrorCode → Option ErrorCode → Buffer → List Bytes → Prop where
  | idle (ended : Option ErrorCode) : Consumes buf ended ended buf []
  | fail (e : ErrorCode) : Consumes buf none (some e) buf []
  | choke (e : ErrorCode) (hne : buf.toList ≠ []) : Consumes buf none (some e) buf [buf.toList]
  | take (hne : buf.toList ≠ []) : Consumes buf none none .empty [buf.toList]

section Consumes

variable {buf buf' : Buffer} {ended ended' : Option ErrorCode} {handed : List Bytes}

theorem Consumes.ends (h : Consumes buf ended ended' buf' handed) : Ends ended ended' := by
  cases h with
  | idle => exact .inl rfl
  | fail => exact .inr rfl
  | choke => exact .inr rfl
  | take => exact .inl rfl

theorem Consumes.refines (h : Consumes buf ended ended' buf' handed) {c : Channel Bytes}
    (hslot : c.slot = waiting buf) (hc : c.receiving = ended.isNone) :
    ∃ ops, after Channel.step c ops = { c with slot := waiting buf', receiving := ended'.isNone } ∧
      outputs Channel.step c ops = handed.map .handed := by
  cases h with
  | idle => exact ⟨[], by rw [after_nil, ← hslot, ← hc], rfl⟩
  | fail e => exact ⟨[.stopReceiving], by rw [← hslot]; rfl, rfl⟩
  | choke e hne =>
      have hsome : c.slot = some buf.toList := hslot.trans (if_neg hne)
      have hstep : c.step .choke = ({ c with receiving := false }, [.handed buf.toList]) := by
        have hreceiving : c.receiving = true := hc
        simp only [Channel.step, hsome, hreceiving, if_true]
      refine ⟨[.choke], ?_, ?_⟩
      · rw [after_cons, after_nil, hstep, ← hslot]
        rfl
      · rw [outputs_cons, outputs_nil, hstep]
        rfl
  | take hne =>
      have hsome : c.slot = some buf.toList := hslot.trans (if_neg hne)
      have hstep : c.step .take = ({ c with slot := none }, [.handed buf.toList]) := by
        have hreceiving : c.receiving = true := hc
        simp only [Channel.step, hsome, hreceiving, if_true]
      refine ⟨[.take], ?_, ?_⟩
      · rw [after_cons, after_nil, hstep, ← hc]
        rfl
      · rw [outputs_cons, outputs_nil, hstep]
        rfl

end Consumes

/-! ### Arriving -/

/-- A segment that arrives is stored if there is room, and is lost otherwise. -/
theorem arrive_refines {c : Channel Bytes} {buf buf' : Buffer} {data : Bytes} {flight : List Bytes}
    (hflight : c.flight = data :: flight) (hslot : c.slot = waiting buf) (hne : data ≠ [])
    (hstored : buf'.toList = if buf.isEmpty = true then data else buf.toList) :
    after Channel.step c [.arrive] = { c with flight, slot := waiting buf' } ∧
      outputs Channel.step c [.arrive] = if buf.isEmpty = true then [] else [.lost data] := by
  by_cases hempty : buf.isEmpty = true
  · have hnone : c.slot = none := hslot.trans (waiting_of_empty hempty)
    have hstep : c.step .arrive = ({ c with flight, slot := some data }, []) := by
      simp only [Channel.step, hflight, hnone]
    rw [if_pos hempty] at hstored
    have hwaiting : waiting buf' = some data := by rw [waiting, hstored, if_neg hne]
    rw [after_cons, after_nil, outputs_cons, outputs_nil, hstep, hwaiting, if_pos hempty]
    exact ⟨rfl, rfl⟩
  · have hsome : c.slot = some buf.toList := hslot.trans (waiting_of_occupied hempty)
    have hstep : c.step .arrive = ({ c with flight }, [.lost data]) := by
      simp only [Channel.step, hflight, hsome]
    rw [if_neg hempty] at hstored
    have hwaiting : waiting buf' = c.slot := by
      rw [hslot, waiting, waiting, hstored]
    rw [after_cons, after_nil, outputs_cons, outputs_nil, hstep, hwaiting, if_neg hempty]
    exact ⟨rfl, rfl⟩

/-! ### The peripheral -/

def indicationProduced : Nimble.Call → Option Bytes
  | .btp (.processOutgoing _ (.ok data)) => if data = [] then none else some data
  | _ => none

/-- An indication that the driver took, with the handle of its attribute. -/
def indicationSent : Nimble.Call → Option (Handle × Bytes)
  | .indicate _ attr data (.ok _) => some (attr, data)
  | _ => none

/-- An indication that the driver takes does not complete for good while it is submitted. One that it refuses
may, with the error of the submission. -/
def Patient (d : Nimble.Driver) : Prop :=
  d.indicate = .ok () → ∀ completion ∈ d.during,
    ¬ (completion.1 = true ∧ (completion.2 = Nimble.bleHsEdone ∨ completion.2 ≠ 0))

section Peripheral

open Nimble

theorem during_of_patient (conn c2 : Handle) {completions : List (Bool × Int)}
    (hpatient : ∀ completion ∈ completions,
      ¬ (completion.1 = true ∧ (completion.2 = bleHsEdone ∨ completion.2 ≠ 0))) (w : World γ) :
    completions.foldl (fun w completion =>
      ((gattsHook (.notifyComplete conn c2 completion.1 completion.2)).exec w).1) w = w := by
  induction completions generalizing w with
  | nil => rfl
  | cons completion completions ih =>
      obtain ⟨hfirst, hrest⟩ := List.forall_mem_cons.mp hpatient
      rw [List.foldl_cons, gattsHook, if_neg hfirst]
      exact ih hrest w

/-- Whatever completes during a submission, the handle of `C2` stays. -/
theorem during_c2ValHandle (conn c2 : Handle) (completions : List (Bool × Int)) (w : World γ) :
    (completions.foldl (fun w completion =>
      ((gattsHook (.notifyComplete conn c2 completion.1 completion.2)).exec w).1) w).c2ValHandle =
      w.c2ValHandle := by
  induction completions generalizing w with
  | nil => rfl
  | cons completion completions ih =>
      rw [List.foldl_cons, ih]
      simp only [gattsHook]
      split
      · rfl
      · rfl

theorem syncBtp_silent (F : Btp γ) (w : World γ) :
    (w.syncBtp F).2.filterMap indicationProduced = [] ∧
      (w.syncBtp F).2.filterMap indicationSent = [] := by
  unfold World.syncBtp State.syncBtp
  split
  · exact ⟨rfl, rfl⟩
  · exact ⟨rfl, rfl⟩

theorem advertise_silent (d : Driver) (w : World γ) :
    (advertise d w).1.filterMap indicationProduced = [] ∧
      (advertise d w).1.filterMap indicationSent = [] := by
  unfold advertise
  repeat' split
  all_goals exact ⟨rfl, rfl⟩

/-- What the outgoing pump of the peripheral does, after the advertising. -/
theorem emits_processOutgoing (F : Btp γ) {d : Driver} (hpatient : Patient d) (w : World γ) :
    Emits Prod.snd none (processOutgoing F d w).processed.error? w.outNack
        (processOutgoing F d w).world.outNack
        ((processOutgoing F d w).calls.filterMap indicationProduced)
        ((processOutgoing F d w).calls.filterMap indicationSent) ∧
      (∀ x ∈ (processOutgoing F d w).calls.filterMap indicationSent, x.1 = w.c2ValHandle) ∧
      (processOutgoing F d w).world.c2ValHandle = w.c2ValHandle := by
  obtain ⟨hproduced, hsent⟩ := syncBtp_silent F w
  unfold processOutgoing
  split
  · exact ⟨.idle none w.outNack, List.forall_mem_nil _, rfl⟩
  split
  · exact ⟨.idle none w.outNack, List.forall_mem_nil _, rfl⟩
  dsimp only
  split
  · rw [hproduced, hsent]
    exact ⟨.idle none w.outNack, List.forall_mem_nil _, rfl⟩
  rename_i hnack
  have hfree : w.outNack = false := by
    rwa [Bool.not_eq_true, World.syncBtp_outNack] at hnack
  split
  · rw [hproduced, hsent]
    exact ⟨.idle none w.outNack, List.forall_mem_nil _, rfl⟩
  split
  · rename_i e hanswer
    simp only [List.filterMap_append, hproduced, hsent]
    exact ⟨.fail _ w.outNack, List.forall_mem_nil _, rfl⟩
  · rename_i btp frame hanswer
    split
    · rename_i hlen
      have hnil : frame.toList = [] := BoundedVec.length_eq_zero_iff.mp hlen
      simp only [List.filterMap_append, hproduced, hsent, hnil]
      exact ⟨.idle none w.outNack, List.forall_mem_nil _, rfl⟩
    · rename_i hlen
      have hne : frame.toList ≠ [] := fun h => hlen (BoundedVec.length_eq_zero_iff.mpr h)
      have hframe := take_overwrite_frame (w.syncBtp F).1.state.outData frame
      simp only [World.state_setBtp, World.state_setState, hframe, submit]
      cases hanswer : d.indicate with
      | error e =>
          simp only [List.filterMap_append, List.filterMap_cons, List.filterMap_nil, hproduced, hsent,
            indicationProduced, indicationSent, if_neg hne, hfree]
          exact ⟨.spill _ _, List.forall_mem_nil _, during_c2ValHandle _ _ d.during _⟩
      | ok u =>
          simp only [during_of_patient _ _ (hpatient hanswer), List.filterMap_append, List.filterMap_cons,
            List.filterMap_nil, hproduced, hsent, indicationProduced, indicationSent, if_neg hne, hfree]
          exact ⟨@Emits.send _ Prod.snd (w.c2ValHandle, frame.toList) hne,
            List.forall_mem_singleton.mpr rfl, rfl⟩

theorem readvertise_silent (d : Driver) (w : World γ) :
    (readvertise d w).2.filterMap indicationProduced = [] ∧
      (readvertise d w).2.filterMap indicationSent = [] ∧
      (readvertise d w).1.outNack = w.outNack ∧ (readvertise d w).1.c2ValHandle = w.c2ValHandle := by
  unfold readvertise
  split
  · exact ⟨(advertise_silent d w).1, (advertise_silent d w).2, rfl, rfl⟩
  · exact ⟨rfl, rfl, rfl, rfl⟩

/-- **The outgoing pump of the peripheral** emits, and leaves what arrives alone. -/
theorem peripheral_outgoing (F : Btp γ) {d : Driver} (hpatient : Patient d) (w : World γ) :
    let next := step F w (.outgoing d)
    Emits Prod.snd w.ended next.1.ended w.outNack next.1.outNack (next.2.filterMap indicationProduced)
        (next.2.filterMap indicationSent) ∧
      (∀ x ∈ next.2.filterMap indicationSent, x.1 = w.c2ValHandle) ∧
      next.1.c2ValHandle = w.c2ValHandle ∧ next.1.state.inData = w.state.inData := by
  by_cases hended : w.ended = none
  · obtain ⟨hproduced, hsent, hnack, hc2⟩ := readvertise_silent d w
    obtain ⟨hemits, hattrs, hhandle⟩ := emits_processOutgoing F hpatient (readvertise d w).1
    have hstep : step F w (.outgoing d) = (iterateOutgoing F d w).finish := if_pos hended
    rw [hnack] at hemits
    rw [hc2] at hattrs hhandle
    simp only [hstep, Iteration.finish, iterateOutgoing, List.filterMap_append, hproduced, hsent,
      List.nil_append, World.ended_setEnded, hended]
    exact ⟨hemits, hattrs, hhandle, (outgoing_frame F d w).2.2⟩
  · have hstep : step F w (.outgoing d) = (w, []) := if_neg hended
    rw [hstep]
    exact ⟨.idle _ _, List.forall_mem_nil _, rfl, rfl⟩

/-- A write that the engine of the peripheral is handed. -/
def writeHanded (call : Call) : Option Bytes := call.handed.map Handed.data

theorem syncBtp_writeHanded (F : Btp γ) (w : World γ) : (w.syncBtp F).2.filterMap writeHanded = [] := by
  unfold World.syncBtp State.syncBtp
  split
  · rfl
  · rfl

theorem consumes_processIncoming (F : Btp γ) (w : World γ) :
    Consumes w.state.inData none (processIncoming F w).processed.error?
        (processIncoming F w).world.state.inData ((processIncoming F w).calls.filterMap writeHanded) ∧
      (processIncoming F w).world.c2ValHandle = w.c2ValHandle ∧
      (processIncoming F w).world.outNack = w.outNack := by
  have hhanded := syncBtp_writeHanded F w
  have hdata : (w.syncBtp F).1.state.inData = w.state.inData := by rw [World.syncBtp_state]
  unfold processIncoming
  split
  · exact ⟨.idle none, rfl, rfl⟩
  dsimp only
  split
  · rw [hhanded, hdata]
    exact ⟨.idle none, rfl, rfl⟩
  · rename_i hoccupied
    rw [hdata] at hoccupied ⊢
    have hne : w.state.inData.toList ≠ [] := fun hnil => hoccupied ((BoundedVec.isEmpty_iff _).mpr hnil)
    split
    · simp only [List.filterMap_append, hhanded, World.state_setBtp, hdata]
      exact ⟨.choke _ hne, rfl, rfl⟩
    · simp only [List.filterMap_append, hhanded]
      exact ⟨.take hne, rfl, rfl⟩

/-- **The incoming pump of the peripheral** consumes, and leaves what is sent alone. -/
theorem peripheral_incoming (F : Btp γ) (w : World γ) :
    let next := step F w .incoming
    Consumes w.state.inData w.ended next.1.ended next.1.state.inData (next.2.filterMap writeHanded) ∧
      next.1.c2ValHandle = w.c2ValHandle ∧ next.1.outNack = w.outNack := by
  by_cases hended : w.ended = none
  · have hstep : step F w .incoming = (processIncoming F w).finish := if_pos hended
    simp only [hstep, Iteration.finish, World.ended_setEnded, World.state_setEnded,
      World.c2ValHandle_setEnded, World.outNack_setEnded, hended]
    exact consumes_processIncoming F w
  · have hstep : step F w .incoming = (w, []) := if_neg hended
    rw [hstep]
    exact ⟨.idle _, rfl, rfl⟩

end Peripheral

/-! ### The client -/

section Client

open Central

variable {w : World β} (E : Btp β) (conn c1Val : Handle)

theorem emits_client (result : Except Nimble.BleError Unit) (w : World β) :
    ∃ produced, Emits id none (processOutgoing E conn c1Val result w).processed.error?
        w.state.outInflight (processOutgoing E conn c1Val result w).world.state.outInflight produced
        ((processOutgoing E conn c1Val result w).calls.filterMap Link.sentBy) ∧
      (processOutgoing E conn c1Val result w).calls.filterMap Link.producedBy =
        produced.map .produced ∧
      (processOutgoing E conn c1Val result w).world.state.c2Val = w.state.c2Val ∧
      (processOutgoing E conn c1Val result w).world.aborted = w.aborted := by
  unfold processOutgoing
  split
  · exact ⟨[], .fail _ _, rfl, rfl, rfl⟩
  split
  · exact ⟨[], .idle none _, rfl, rfl, rfl⟩
  rename_i hinflight
  rw [Bool.not_eq_true] at hinflight
  dsimp only
  split
  · exact ⟨[], .fail _ _, rfl, rfl, rfl⟩
  · rename_i btp frame hanswer
    split
    · rename_i hlen
      have hne : frame.toList ≠ [] := List.ne_nil_of_length_pos hlen
      have hframe := take_overwrite_frame w.state.outData frame
      have hproduced : ∀ data result,
          [Call.btp (.processOutgoing w.state.mtu (.ok frame.toList)),
              .write conn c1Val data result].filterMap Link.producedBy = [.produced frame.toList] :=
        fun _ _ => List.filterMap_cons_some (if_neg hne)
      refine ⟨[frame.toList], ?_⟩
      split
      · have hemits : Emits id none (some .noNetworkInterface) w.state.outInflight w.state.outInflight
            [frame.toList] [] := by
          rw [hinflight]
          exact .spill _ _
        exact ⟨hemits, hproduced _ _, rfl, rfl⟩
      · have hemits : ∀ sent, sent = [frame.toList] →
            Emits id none none w.state.outInflight true [frame.toList] sent := by
          rintro sent rfl
          rw [hinflight]
          exact .send frame.toList hne
        exact ⟨hemits _ (congrArg (fun data => [data]) hframe), hproduced _ _, rfl, rfl⟩
    · rename_i hlen
      have hnil : frame.toList = [] := List.eq_nil_of_length_eq_zero (Nat.eq_zero_of_not_pos hlen)
      simp only [List.filterMap_cons, List.filterMap_nil, Link.producedBy, hnil, if_true]
      exact ⟨[], .idle none _, rfl, rfl, rfl⟩

/-- **The outgoing pump of the client** emits, and leaves what arrives alone. -/
theorem client_outgoing (hrunning : w.aborted = false) (result : Except Nimble.BleError Unit) :
    let next := step E conn c1Val w (.outgoing result)
    ∃ produced, Emits id w.ended next.1.ended w.state.outInflight next.1.state.outInflight produced
        (next.2.filterMap Link.sentBy) ∧
      next.2.filterMap Link.producedBy = produced.map .produced ∧
      next.1.state.c2Val = w.state.c2Val ∧ next.1.aborted = false ∧
      next.1.state.inData = w.state.inData := by
  have hgo : ¬ w.aborted = true := by
    rw [hrunning]
    exact Bool.false_ne_true
  by_cases hended : w.ended = none
  · have hstep : step E conn c1Val w (.outgoing result) =
        (processOutgoing E conn c1Val result w).finish := by
      rw [step, if_neg hgo]
      exact if_pos hended
    obtain ⟨produced, hemits, hproduced, hc2, haborted⟩ := emits_client E conn c1Val result w
    simp only [hstep, Iteration.finish, hended]
    exact ⟨produced, hemits, hproduced, hc2, haborted.trans hrunning,
      (processOutgoing_frame E conn c1Val result w).1⟩
  · have hstep : step E conn c1Val w (.outgoing result) = (w, []) := by
      rw [step, if_neg hgo]
      exact if_neg hended
    rw [hstep]
    exact ⟨[], .idle _ _, rfl, rfl, hrunning, rfl⟩

theorem consumes_client (w : World β) :
    Consumes w.state.inData none (processIncoming E w).processed.error?
        (processIncoming E w).world.state.inData ((processIncoming E w).calls.filterMap Call.handed) ∧
      (processIncoming E w).world.state.c2Val = w.state.c2Val ∧
      (processIncoming E w).world.aborted = w.aborted ∧
      (processIncoming E w).world.state.outInflight = w.state.outInflight := by
  unfold processIncoming
  split
  · exact ⟨.fail _, rfl, rfl, rfl⟩
  split
  · exact ⟨.idle none, rfl, rfl, rfl⟩
  · rename_i hoccupied
    have hne : w.state.inData.toList ≠ [] := fun hnil => hoccupied ((BoundedVec.isEmpty_iff _).mpr hnil)
    dsimp only
    split
    · exact ⟨.choke _ hne, rfl, rfl, rfl⟩
    · exact ⟨.take hne, rfl, rfl, rfl⟩

/-- **The incoming pump of the client** consumes, and leaves what is sent alone. -/
theorem client_incoming (hrunning : w.aborted = false) :
    let next := step E conn c1Val w .incoming
    Consumes w.state.inData w.ended next.1.ended next.1.state.inData (next.2.filterMap Call.handed) ∧
      next.1.state.c2Val = w.state.c2Val ∧ next.1.aborted = false ∧
      next.1.state.outInflight = w.state.outInflight := by
  have hgo : ¬ w.aborted = true := by
    rw [hrunning]
    exact Bool.false_ne_true
  by_cases hended : w.ended = none
  · have hstep : step E conn c1Val w .incoming = (processIncoming E w).finish := by
      rw [step, if_neg hgo]
      exact if_pos hended
    obtain ⟨hconsumes, hc2, haborted, hinflight⟩ := consumes_client E w
    simp only [hstep, Iteration.finish, hended]
    exact ⟨hconsumes, hc2, haborted.trans hrunning, hinflight⟩
  · have hstep : step E conn c1Val w .incoming = (w, []) := by
      rw [step, if_neg hgo]
      exact if_neg hended
    rw [hstep]
    exact ⟨.idle _, rfl, hrunning, rfl⟩

end Client

end EspIdfMatter.Duplex
