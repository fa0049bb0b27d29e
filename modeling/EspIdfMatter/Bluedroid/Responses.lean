import EspIdfMatter.Bluedroid.Buffer
import EspIdfMatter.Bluedroid.FlowControl

/-! Which writes are responded to. A write of the CCCD is responded to at once, and only if it changes
the subscription; a `C1` payload by the incoming pump, whether or not a response was asked for, once the
engine took it. -/

namespace EspIdfMatter.Bluedroid

open Library Library.Machine

variable {β : Type}

/-! ### Responses -/

def Call.response : Call → Option (Handle × TransferId)
  | .driver (.sendResponse _ connId transId _ _) _ => some (connId, transId)
  | _ => none

/-- How many of these calls respond to the request. -/
def responses (connId : Handle) (transId : TransferId) (calls : List Call) : Nat :=
  (calls.filterMap Call.response).count (connId, transId)

/-- How many responses to the request a run sends. -/
def answers (cfg : Config) (E : Btp β) (w : World β) (steps : List (Step β)) (connId : Handle)
    (transId : TransferId) : Nat :=
  responses connId transId (outputs (step cfg E) w steps)

/-- A write that carries this transaction id. -/
def Reuses (connId : Handle) (transId : TransferId) : Step β → Prop
  | .gatts _ (.write ev) _ => ev.connId = connId ∧ ev.transId = transId
  | _ => False

/-- The tracked connection is still the same one. -/
def Lasts (cfg : Config) (E : Btp β) (w : World β) (s : Step β) : Prop :=
  (step cfg E w s).1.state.connGen = w.state.connGen

def Stores (w : World β) : Step β → Prop
  | .gatts _ (.write ev) _ => StoresC1 w ev
  | _ => False

/-- Another write reaches the buffer before the pump runs. -/
def Overtaken (cfg : Config) (E : Btp β) (w : World β) : List (Step β) → Prop
  | [] => False
  | .incoming _ :: _ => False
  | s :: later => Stores w s ∨ Overtaken cfg E (step cfg E w s).1 later

/-- The write stays in the buffer until the pump runs. -/
def Stays (cfg : Config) (E : Btp β) (w : World β) (gattIf : GattInterface) (ev : Write)
    (drv : Driver) (later : List (Step β)) : Prop :=
  ev.offset = 0 ∧ ev.value ≠ [] ∧ ev.value.length ≤ maxMtuSize ∧
    ¬ Overtaken cfg E (step cfg E w (.gatts gattIf (.write ev) drv)).1 later

/-- The write is one that is answered as it asks to be. Of the CCCD, a write that wants a response
has to change the subscription; of `C1`, it has to want one if and only if it stays in the buffer. -/
def Answerable (cfg : Config) (E : Btp β) (w : World β) (gattIf : GattInterface) (ev : Write)
    (drv : Driver) (later : List (Step β)) : Prop :=
  if w.state.c2CccdHandle = some ev.handle then
    ev.needRsp = true → ∃ conn value, w.state.connection = some conn ∧
      cccdValue ev.offset ev.value = some value ∧ conn.subscribed ≠ decide (value = 0x02)
  else
    (ev.needRsp = true ↔ Stays cfg E w gattIf ev drv later)

/-! ### The request in the buffer -/

/-- The request waits for the pump. -/
structure State.Pending (s : State) (connId : Handle) (transId : TransferId) : Prop where
  conn : s.connection.map (·.connId) = some connId
  data : s.inData.toList ≠ []
  trans : s.inTrans = transId

theorem State.SameBuffer.pending {s s' : State} (h : s.SameBuffer s') {connId : Handle}
    {transId : TransferId} : s'.Pending connId transId ↔ s.Pending connId transId := by
  constructor
  · rintro ⟨hconn, hdata, htrans⟩
    exact ⟨h.connId.symm.trans hconn, by rwa [← h.inData], h.inTrans.symm.trans htrans⟩
  · rintro ⟨hconn, hdata, htrans⟩
    exact ⟨h.connId.trans hconn, by rwa [h.inData], h.inTrans.trans htrans⟩

@[simp] theorem responses_nil (connId : Handle) (transId : TransferId) :
    responses connId transId [] = 0 := rfl

theorem responses_append (connId : Handle) (transId : TransferId) (calls calls' : List Call) :
    responses connId transId (calls ++ calls') =
      responses connId transId calls + responses connId transId calls' := by
  rw [responses, List.filterMap_append, List.count_append]
  rfl

theorem responses_of_filterMap {calls : List Call} (h : calls.filterMap Call.response = [])
    (connId : Handle) (transId : TransferId) : responses connId transId calls = 0 := by
  rw [responses, h]
  rfl

theorem Call.response_of_local {call : Call} (h : call.Local) : call.response = none := by
  unfold Call.response
  split
  · exact h.elim
  · rfl

theorem Call.response_of_outgoing {call : Call} (h : call.Outgoing) : call.response = none := by
  unfold Call.response
  split
  · exact h.elim
  · rfl

/-- The handlers respond to the write that they handle, if at all. -/
theorem responses_onGattsEvent (cfg : Config) (drv : Driver) (gattIf : GattInterface)
    (event : GattsEvent) (w : World β) {connId : Handle} {transId : TransferId}
    (hother : ∀ ev, event = .write ev → ¬ (ev.connId = connId ∧ ev.transId = transId)) :
    responses connId transId (onGattsEvent cfg drv gattIf event w).calls = 0 := by
  by_cases hwrite : ∃ ev, event = .write ev
  · obtain ⟨ev, rfl⟩ := hwrite
    refine List.count_eq_zero.mpr fun hmem => ?_
    obtain ⟨call, hcall, hresponse⟩ := List.mem_filterMap.mp hmem
    have hresponds := only_write cfg drv gattIf ev w call hcall
    unfold Call.Responds at hresponds
    split at hresponds
    · obtain ⟨rfl, rfl⟩ := hresponds
      obtain ⟨hconn, htrans⟩ := Prod.mk.inj (Option.some.inj hresponse)
      exact hother ev rfl ⟨hconn, htrans⟩
    · exact hresponds.elim
  · push Not at hwrite
    exact responses_of_filterMap ((only_onGattsEvent cfg drv gattIf hwrite w).filterMap
      fun _ => Call.response_of_local) connId transId

theorem responses_onGapEvent (drv : Driver) (event : BleGapEvent) (w : World β) (connId : Handle)
    (transId : TransferId) : responses connId transId (onGapEvent drv event w).calls = 0 :=
  responses_of_filterMap ((only_onGapEvent drv event w).filterMap fun _ => Call.response_of_local)
    connId transId

theorem responses_processOutgoing (E : Btp β) (drv : Driver) (w : World β) (connId : Handle)
    (transId : TransferId) : responses connId transId (processOutgoing E drv w).calls = 0 :=
  responses_of_filterMap ((outgoing_processOutgoing E drv w).filterMap
    fun _ => Call.response_of_outgoing) connId transId

/-! ### Steps -/

section Steps

variable {cfg : Config} {E : Btp β} {w : World β} {connId : Handle} {transId : TransferId}

/-- What the incoming pump does to the request. -/
theorem incoming_of_not_pending (drv : Driver) (hclear : ¬ w.state.Pending connId transId) :
    ¬ (processIncoming E drv w).world.state.Pending connId transId ∧
      responses connId transId (processIncoming E drv w).calls = 0 := by
  have hsync := filterMap_syncBtp (f := Call.response) rfl E w
  have hother : ∀ conn, w.state.connection = some conn → w.state.inData.toList ≠ [] →
      (conn.connId, w.state.inTrans) ≠ (connId, transId) := by
    intro conn hconn hdata heq
    obtain ⟨rfl, rfl⟩ := Prod.mk.inj heq
    exact hclear ⟨by rw [hconn]; rfl, hdata, rfl⟩
  have hkept : ∀ {w' : World β} {btpGen : Option Usize}, w'.state = { w.state with btpGen } →
      ¬ w'.state.Pending connId transId := by
    intro w' btpGen hstate
    rwa [State.SameBuffer.pending (s := w.state) (by rw [hstate]; exact ⟨rfl, rfl, rfl⟩)]
  cases incoming_cases E drv w with
  | idle hidle btpGen hstate hcalls hprocessed =>
      refine ⟨hkept hstate, responses_of_filterMap ?_ _ _⟩
      rcases hcalls with hcalls | hcalls
      · rw [hcalls]
        rfl
      · rw [hcalls, hsync]
  | refused conn e hconn hdata hstate hcalls hprocessed =>
      refine ⟨hkept hstate, responses_of_filterMap ?_ _ _⟩
      rw [hcalls, List.filterMap_append, hsync]
      rfl
  | unanswered conn e hconn hdata hstate hcalls hprocessed =>
      refine ⟨hkept hstate, ?_⟩
      rw [hcalls, responses, List.filterMap_append, hsync]
      exact List.count_eq_zero.mpr fun hmem =>
        hother conn hconn hdata (List.mem_singleton.mp hmem).symm
  | answered conn hconn hdata hstate hcalls hprocessed =>
      refine ⟨fun h => h.data (by rw [hstate]; rfl), ?_⟩
      rw [hcalls, responses, List.filterMap_append, hsync]
      exact List.count_eq_zero.mpr fun hmem =>
        hother conn hconn hdata (List.mem_singleton.mp hmem).symm

theorem incoming_of_pending (drv : Driver) (hpending : w.state.Pending connId transId)
    (hok : (processIncoming E drv w).processed.error? = none) :
    ¬ (processIncoming E drv w).world.state.Pending connId transId ∧
      responses connId transId (processIncoming E drv w).calls = 1 := by
  have hsync := filterMap_syncBtp (f := Call.response) rfl E w
  cases incoming_cases E drv w with
  | idle hidle btpGen hstate hcalls hprocessed =>
      rcases hidle with hnone | hempty
      · have hconn := hpending.conn
        rw [hnone] at hconn
        cases hconn
      · exact absurd hempty hpending.data
  | refused conn e hconn hdata hstate hcalls hprocessed =>
      rw [hprocessed] at hok
      cases hok
  | unanswered conn e hconn hdata hstate hcalls hprocessed =>
      rw [hprocessed] at hok
      cases hok
  | answered conn hconn hdata hstate hcalls hprocessed =>
      refine ⟨fun h => h.data (by rw [hstate]; rfl), ?_⟩
      obtain ⟨hpeer, -, rfl⟩ := hpending
      rw [hconn] at hpeer
      obtain rfl := Option.some.inj hpeer
      rw [hcalls, responses, List.filterMap_append, hsync]
      exact List.count_singleton_self

variable (cfg E) in
/-- **A request that does not wait is not answered later.** -/
theorem step_of_not_pending {s : Step β} (hclear : ¬ w.state.Pending connId transId)
    (hother : ¬ Reuses connId transId s) :
    ¬ (step cfg E w s).1.state.Pending connId transId ∧
      responses connId transId (step cfg E w s).2 = 0 := by
  cases s with
  | gap event drv =>
      refine ⟨?_, responses_onGapEvent drv event w connId transId⟩
      simp only [step, Handled.finish, onGapEvent_world]
      exact hclear
  | gatts gattIf event drv =>
      refine ⟨?_, responses_onGattsEvent cfg drv gattIf event w fun ev hev heq =>
        hother (by rw [hev]; exact heq)⟩
      change ¬ (onGattsEvent cfg drv gattIf event w).world.state.Pending connId transId
      cases buffered_onGattsEvent cfg drv gattIf event w with
      | same hquiet hsame => rwa [hsame.pending]
      | stored ev hevent hstores hsame =>
          subst hevent
          rw [hsame.pending]
          rintro ⟨hconn, -, htrans⟩
          exact hother ⟨Option.some.inj (hstores.1.symm.trans hconn), htrans⟩
      | connected connId' addr hevent hconn hstate =>
          exact fun h => h.data (by rw [hstate]; rfl)
      | disconnected connId' addr hevent hpeer hstate =>
          intro h
          have hconn := h.conn
          rw [hstate] at hconn
          cases hconn
  | incoming drv =>
      by_cases hended : w.ended = none
      · rw [step, if_pos hended]
        exact incoming_of_not_pending drv hclear
      · rw [step, if_neg hended]
        exact ⟨hclear, rfl⟩
  | outgoing drv =>
      by_cases hended : w.ended = none
      · rw [step, if_pos hended]
        refine ⟨?_, responses_processOutgoing E drv w connId transId⟩
        exact mt (outgoing_processOutgoing E drv w).sameBuffer.pending.mp hclear
      · rw [step, if_neg hended]
        exact ⟨hclear, rfl⟩
  | matter btp => exact ⟨hclear, rfl⟩

/-- A request that waits is answered by the pump, unless another write takes its place before. -/
theorem step_of_pending {s : Step β} (hpending : w.state.Pending connId transId)
    (hother : ¬ Reuses connId transId s) (hlasts : Lasts cfg E w s)
    (hs : ∀ drv, s ≠ .incoming drv) :
    responses connId transId (step cfg E w s).2 = 0 ∧
      ((step cfg E w s).1.state.Pending connId transId ↔ ¬ Stores w s) := by
  cases s with
  | gap event drv =>
      refine ⟨responses_onGapEvent drv event w connId transId, ?_⟩
      simp only [step, Handled.finish, onGapEvent_world]
      exact iff_of_true hpending id
  | gatts gattIf event drv =>
      refine ⟨responses_onGattsEvent cfg drv gattIf event w fun ev hev heq =>
        hother (by rw [hev]; exact heq), ?_⟩
      change (onGattsEvent cfg drv gattIf event w).world.state.connGen = w.state.connGen at hlasts
      change (onGattsEvent cfg drv gattIf event w).world.state.Pending connId transId ↔ _
      cases buffered_onGattsEvent cfg drv gattIf event w with
      | same hquiet hsame =>
          rw [hsame.pending]
          refine iff_of_true hpending fun hstores => ?_
          cases event with
          | write ev => exact hquiet hstores
          | _ => exact hstores
      | stored ev hevent hstores hsame =>
          subst hevent
          rw [hsame.pending]
          refine iff_of_false ?_ fun h => h hstores
          rintro ⟨hconn, -, htrans⟩
          exact hother ⟨Option.some.inj (hstores.1.symm.trans hconn), htrans⟩
      | connected connId' addr hevent hconn hstate =>
          rw [hstate] at hlasts
          exact absurd hlasts (counter_next_ne _)
      | disconnected connId' addr hevent hpeer hstate =>
          rw [hstate] at hlasts
          exact absurd hlasts (counter_next_ne _)
  | incoming drv => exact absurd rfl (hs drv)
  | outgoing drv =>
      by_cases hended : w.ended = none
      · rw [step, if_pos hended]
        refine ⟨responses_processOutgoing E drv w connId transId, ?_⟩
        exact iff_of_true ((outgoing_processOutgoing E drv w).sameBuffer.pending.mpr hpending) id
      · rw [step, if_neg hended]
        exact ⟨rfl, iff_of_true hpending id⟩
  | matter btp => exact ⟨rfl, iff_of_true hpending id⟩

/-- Once the pumps have ended, nothing starts them again. -/
theorem step_ended {s : Step β} (hended : w.ended ≠ none) : (step cfg E w s).1.ended ≠ none := by
  cases s with
  | gap event drv => rwa [step, Handled.finish, onGapEvent_world]
  | gatts gattIf event drv => rwa [step, Handled.finish, (keeps_onGattsEvent cfg drv gattIf event w).ended]
  | incoming drv => rwa [step, if_neg hended]
  | outgoing drv => rwa [step, if_neg hended]
  | matter btp => exact hended

theorem ended_of_after {steps : List (Step β)} (h : (after (step cfg E) w steps).ended = none) :
    w.ended = none := by
  induction steps generalizing w with
  | nil => exact h
  | cons s steps ih =>
      by_contra hended
      exact step_ended hended (ih h)

end Steps

/-! ### Runs -/

section Runs

variable {cfg : Config} {E : Btp β} {w : World β} {connId : Handle} {transId : TransferId}

theorem answers_cons (s : Step β) (steps : List (Step β)) :
    answers cfg E w (s :: steps) connId transId =
      responses connId transId (step cfg E w s).2 +
        answers cfg E (step cfg E w s).1 steps connId transId := by
  rw [answers, outputs_cons, responses_append]
  rfl

theorem run_of_not_pending (cfg : Config) (E : Btp β) {steps : List (Step β)}
    (hclear : ¬ w.state.Pending connId transId)
    (hother : ∀ s ∈ steps, ¬ Reuses connId transId s) :
    ¬ (after (step cfg E) w steps).state.Pending connId transId ∧
      answers cfg E w steps connId transId = 0 := by
  induction steps generalizing w with
  | nil => exact ⟨hclear, rfl⟩
  | cons s steps ih =>
      obtain ⟨hnext, hsilent⟩ := step_of_not_pending cfg E hclear (hother s List.mem_cons_self)
      obtain ⟨hlast, hrest⟩ := ih hnext fun s' hs' => hother s' (List.mem_cons_of_mem _ hs')
      exact ⟨hlast, by rw [answers_cons, hsilent, hrest]⟩

/-- **A request that waits is answered exactly once**, unless another write takes its place. -/
theorem answers_of_pending {steps : List (Step β)} (hpending : w.state.Pending connId transId)
    (hother : ∀ s ∈ steps, ¬ Reuses connId transId s) (hlasts : Along (step cfg E) (Lasts cfg E) w steps)
    (hdone : (after (step cfg E) w steps).state.inData.toList = [])
    (hok : (after (step cfg E) w steps).ended = none) :
    (Overtaken cfg E w steps → answers cfg E w steps connId transId = 0) ∧
      (¬ Overtaken cfg E w steps → answers cfg E w steps connId transId = 1) := by
  induction steps generalizing w with
  | nil => exact absurd hdone hpending.data
  | cons s steps ih =>
      have hrest := fun s' hs' => hother s' (List.mem_cons_of_mem s hs')
      rw [answers_cons]
      by_cases hs : ∃ drv, s = .incoming drv
      · obtain ⟨drv, rfl⟩ := hs
        have hwhole : (after (step cfg E) w (.incoming drv :: steps)).ended = none := hok
        have hended : w.ended = none := ended_of_after hwhole
        have hnext : (step cfg E w (.incoming drv)).1.ended = none := ended_of_after hok
        rw [step, if_pos hended] at hnext
        obtain ⟨hgone, hone⟩ := incoming_of_pending drv hpending hnext
        refine ⟨fun h => h.elim, fun _ => ?_⟩
        rw [step, if_pos hended]
        rw [(run_of_not_pending (w := (processIncoming E drv w).finish.1) cfg E hgone hrest).2]
        exact hone
      · push Not at hs
        obtain ⟨hsilent, hiff⟩ := step_of_pending hpending (hother s List.mem_cons_self) hlasts.1 hs
        rw [hsilent, Nat.zero_add]
        have hover : Overtaken cfg E w (s :: steps) ↔
            Stores w s ∨ Overtaken cfg E (step cfg E w s).1 steps := by
          cases s with
          | incoming drv => exact absurd rfl (hs drv)
          | _ => rfl
        rw [hover]
        by_cases hstores : Stores w s
        · have hgone := (run_of_not_pending cfg E (not_imp_not.mpr hiff.mp (not_not.mpr hstores)) hrest).2
          exact ⟨fun _ => hgone, fun h => absurd (Or.inl hstores) h⟩
        · obtain ⟨hzero, hone⟩ := ih (hiff.mpr hstores) hrest hlasts.2 hdone hok
          exact ⟨fun h => hzero (h.resolve_left hstores), fun h => hone fun h' => h (Or.inr h')⟩

end Runs

/-! ### The event itself -/

theorem responses_perform (drv : Driver) (w : World β) (gattIf : GattInterface) (connId : Handle)
    (transId : TransferId) (status : GattStatus) (response : Option GattResponse) :
    responses connId transId
      (perform drv w [.sendResponse gattIf connId transId status response]).calls = 1 := by
  unfold perform
  split <;> exact List.count_singleton_self

/-- Every value that fits an attribute can be responded to. -/
theorem responses_sendWriteResponse (drv : Driver) (gattIf : GattInterface) {ev : Write}
    (hlen : ev.value.length ≤ gattMaxAttrLen) (w : World β) :
    responses ev.connId ev.transId (sendWriteResponse drv gattIf ev w).calls =
      if ev.needRsp = true then 1 else 0 := by
  unfold sendWriteResponse
  cases ev.needRsp with
  | false => rfl
  | true =>
      rw [if_neg (by decide), if_pos rfl]
      split
      · have hfits := BoundedVec.extendFromSlice_empty (n := gattMaxAttrLen) hlen
        simp only [GattResponse.setValue, hfits, Option.map_some]
        exact responses_perform _ _ _ _ _ _ _
      · exact responses_perform _ _ _ _ _ _ _

theorem length_of_cccdValue {offset : UInt16} {value : Bytes} {v : UInt16}
    (h : cccdValue offset value = some v) : value.length = 2 := by
  unfold cccdValue at h
  split at h
  · rfl
  · cases h

theorem length_of_writeLocked {w : World β} {ev : Write}
    (hcccd : w.state.c2CccdHandle = some ev.handle) (hnow : (writeLocked ev w).2 = true) :
    ev.value.length = 2 := by
  unfold writeLocked at hnow
  split at hnow
  · cases hnow
  rw [if_pos hcccd] at hnow
  split at hnow
  · cases hnow
  split at hnow
  · cases hnow
  · rename_i value hvalue
    exact length_of_cccdValue hvalue

/-- A write of the CCCD is responded to at once if it changes the subscription. -/
theorem writeLocked_cccd {w : World β} {ev : Write} {conn : Connection}
    (hconn : w.state.connection = some conn) (hpeer : conn.connId = ev.connId)
    (hcccd : w.state.c2CccdHandle = some ev.handle) :
    (writeLocked ev w).2 = true ↔ ∃ value, cccdValue ev.offset ev.value = some value ∧
      conn.subscribed ≠ decide (value = 0x02) := by
  unfold writeLocked
  simp only [hconn]
  rw [if_neg (not_not.mpr hpeer), if_pos hcccd]
  cases hvalue : cccdValue ev.offset ev.value with
  | none => simp
  | some value =>
      dsimp only
      split_ifs with hon hsub hsub <;> simp [hon, hsub]

section Event

variable {cfg : Config} {E : Btp β} {w : World β} {gattIf : GattInterface} {ev : Write}
  {drv : Driver} {later : List (Step β)}

theorem answers_cccd
    (hcccd : w.state.c2CccdHandle = some ev.handle)
    (hclear : ¬ w.state.Pending ev.connId ev.transId)
    (hlater : ∀ s ∈ later, ¬ Reuses ev.connId ev.transId s) :
    answers cfg E w (.gatts gattIf (.write ev) drv :: later) ev.connId ev.transId =
      if (writeLocked ev w).2 = true ∧ ev.needRsp = true then 1 else 0 := by
  have hsame := (write_sameSession cfg drv gattIf w ev).sameBuffer
  have hstores : ¬ StoresC1 w ev := fun h => h.2.1 hcccd
  have hkept := writeLocked_of_not_stores hstores
  have hnext : ¬ (step cfg E w (.gatts gattIf (.write ev) drv)).1.state.Pending ev.connId
      ev.transId := mt (hkept.trans hsame).pending.mp hclear
  rw [answers_cons, (run_of_not_pending cfg E hnext hlater).2, Nat.add_zero]
  change responses ev.connId ev.transId (write drv gattIf ev w).calls = _
  unfold write
  dsimp only
  split_ifs with hnow hboth hboth
  · have hlen : ev.value.length ≤ gattMaxAttrLen := by
      rw [length_of_writeLocked hcccd hnow]
      decide
    rw [responses_sendWriteResponse drv gattIf hlen, if_pos hboth.2]
  · have hlen : ev.value.length ≤ gattMaxAttrLen := by
      rw [length_of_writeLocked hcccd hnow]
      decide
    rw [responses_sendWriteResponse drv gattIf hlen, if_neg fun h => hboth ⟨hnow, h⟩]
  · exact absurd hboth.1 hnow
  · rfl

theorem answers_c1 (hcccd : w.state.c2CccdHandle ≠ some ev.handle)
    (hc1 : w.state.c1Handle = some ev.handle)
    (hconn : w.state.connection.map (·.connId) = some ev.connId)
    (hclear : ¬ w.state.Pending ev.connId ev.transId)
    (hlater : ∀ s ∈ later, ¬ Reuses ev.connId ev.transId s)
    (hlasts : Along (step cfg E) (Lasts cfg E) w (.gatts gattIf (.write ev) drv :: later))
    (hidle : (after (step cfg E) w
      (.gatts gattIf (.write ev) drv :: later)).state.inData.toList = [])
    (hrunning : (after (step cfg E) w (.gatts gattIf (.write ev) drv :: later)).ended = none) :
    (Stays cfg E w gattIf ev drv later →
        answers cfg E w (.gatts gattIf (.write ev) drv :: later) ev.connId ev.transId = 1) ∧
      (¬ Stays cfg E w gattIf ev drv later →
        answers cfg E w (.gatts gattIf (.write ev) drv :: later) ev.connId ev.transId = 0) := by
  have hsame := (write_sameSession cfg drv gattIf w ev).sameBuffer
  have hsilent : answers cfg E w (.gatts gattIf (.write ev) drv :: later) ev.connId ev.transId =
      answers cfg E (step cfg E w (.gatts gattIf (.write ev) drv)).1 later ev.connId ev.transId := by
    rw [answers_cons]
    change responses _ _ (write drv gattIf ev w).calls + _ = _
    rw [write_calls_of_not_cccd drv gattIf hcccd, responses_nil, Nat.zero_add]
  rw [hsilent]
  by_cases hstored : ev.offset = 0 ∧ ev.value ≠ [] ∧ ev.value.length ≤ maxMtuSize
  · obtain ⟨hoffset, hvalue, hlen⟩ := hstored
    rw [writeLocked_of_stores ⟨hconn, hcccd, hc1, hoffset⟩] at hsame
    have hpending : (step cfg E w (.gatts gattIf (.write ev) drv)).1.state.Pending ev.connId
        ev.transId := by
      refine hsame.pending.mpr ⟨hconn, ?_, rfl⟩
      simpa [State.storeC1, BoundedVec.extendFromSlice_empty hlen] using hvalue
    obtain ⟨hover, hone⟩ := answers_of_pending hpending hlater hlasts.2 hidle hrunning
    refine ⟨fun h => hone h.2.2.2, fun h => hover ?_⟩
    by_contra hnot
    exact h ⟨hoffset, hvalue, hlen, hnot⟩
  · refine ⟨fun h => absurd ⟨h.1, h.2.1, h.2.2.1⟩ hstored, fun _ => ?_⟩
    refine (run_of_not_pending cfg E ?_ hlater).2
    by_cases hoffset : ev.offset = 0
    · rw [writeLocked_of_stores ⟨hconn, hcccd, hc1, hoffset⟩] at hsame
      refine mt hsame.pending.mp fun h => ?_
      -- an empty or oversized payload leaves nothing in the buffer
      have hdata := h.data
      by_cases hlen : ev.value.length ≤ maxMtuSize
      · simp only [State.storeC1, BoundedVec.extendFromSlice_empty hlen, Option.getD_some,
            World.state_wakeIncoming, World.state_setState] at hdata
        exact hstored ⟨hoffset, hdata, hlen⟩
      · simp [State.storeC1, BoundedVec.extendFromSlice_empty_of_lt (Nat.lt_of_not_le hlen)] at hdata
    · have hstores : ¬ StoresC1 w ev := fun h => hoffset h.2.2.2
      have hkept := writeLocked_of_not_stores hstores
      exact mt (hkept.trans hsame).pending.mp hclear

end Event

/-! ### The whole of a run -/

/-- The tracked peer writes to one of the two handles, with a transaction id that no request waits with;
the connection lasts until the pump is idle again, and no other write has that id meanwhile. -/
structure Asked (cfg : Config) (E : Btp β) (c : Context) (btp : β) (before : List (Step β))
    (gattIf : GattInterface) (ev : Write) (drv : Driver) (later : List (Step β)) : Prop where
  conn : (after (step cfg E) (.fresh c btp) before).state.connection.map (·.connId) =
    some ev.connId
  handle : (after (step cfg E) (.fresh c btp) before).state.c1Handle = some ev.handle ∨
    (after (step cfg E) (.fresh c btp) before).state.c2CccdHandle = some ev.handle
  fresh : ¬ (after (step cfg E) (.fresh c btp) before).state.Pending ev.connId ev.transId
  unique : ∀ s ∈ later, ¬ Reuses ev.connId ev.transId s
  lasts : Along (step cfg E) (Lasts cfg E) (after (step cfg E) (.fresh c btp) before)
    (.gatts gattIf (.write ev) drv :: later)
  idle : (after (step cfg E) (.fresh c btp)
    (before ++ .gatts gattIf (.write ev) drv :: later)).state.inData.toList = []
  running : (after (step cfg E) (.fresh c btp)
    (before ++ .gatts gattIf (.write ev) drv :: later)).ended = none

/-- **A write of the tracked peer is answered as it asks to be if and only if it is answerable.** -/
theorem answered_iff (cfg : Config) (E : Btp β) (c : Context) (btp : β) (before : List (Step β))
    (gattIf : GattInterface) (ev : Write) (drv : Driver) (later : List (Step β))
    (hasked : Asked cfg E c btp before gattIf ev drv later) :
    answers cfg E (after (step cfg E) (.fresh c btp) before)
        (.gatts gattIf (.write ev) drv :: later) ev.connId ev.transId =
          (if ev.needRsp = true then 1 else 0) ↔
      Answerable cfg E (after (step cfg E) (.fresh c btp) before) gattIf ev drv later := by
  obtain ⟨hconn, hhandle, hclear, hlater, hlasts, hidle, hrunning⟩ := hasked
  rw [after_append] at hidle hrunning
  generalize after (step cfg E) (.fresh c btp) before = w at *
  rw [Answerable]
  by_cases hcccd : w.state.c2CccdHandle = some ev.handle
  · obtain ⟨conn, hsome, hpeer⟩ := Option.map_eq_some_iff.mp hconn
    have hlocked := writeLocked_cccd hsome hpeer hcccd
    have hchanges : (writeLocked ev w).2 = true ↔ ∃ conn value, w.state.connection = some conn ∧
        cccdValue ev.offset ev.value = some value ∧ conn.subscribed ≠ decide (value = 0x02) := by
      rw [hlocked, hsome]
      constructor
      · rintro ⟨value, hvalue, hsub⟩
        exact ⟨conn, value, rfl, hvalue, hsub⟩
      · rintro ⟨conn', value, heq, hvalue, hsub⟩
        obtain rfl := Option.some.inj heq
        exact ⟨value, hvalue, hsub⟩
    rw [answers_cccd hcccd hclear hlater, if_pos hcccd, ← hchanges]
    cases ev.needRsp <;> simp
  · rw [if_neg hcccd]
    obtain ⟨hstays, hgone⟩ := answers_c1 hcccd (hhandle.resolve_right hcccd) hconn hclear hlater
      hlasts hidle hrunning
    by_cases h : Stays cfg E w gattIf ev drv later
    · rw [hstays h]
      cases ev.needRsp <;> simp [h]
    · rw [hgone h]
      cases ev.needRsp <;> simp [h]

/-! ### Writes on either side of the condition -/

def writing : Write where
  connId := 1
  transId := 11
  addr := somePeer
  handle := 2
  offset := 0
  needRsp := true
  isPrep := false
  value := [1, 2, 3]

def subscribed : List (Step (List Buffer)) :=
  registering ++
    [.gatts 3 (.peerConnected 1 somePeer) .succeeding, .gatts 3 (.write subscribing) .succeeding]

theorem asked_writing :
    Asked someConfig .queue .new [] subscribed 3 writing .succeeding [.incoming .succeeding] where
  conn := by decide +kernel
  handle := .inl (by decide +kernel)
  fresh := fun hwaiting => hwaiting.data (by decide +kernel)
  unique := List.forall_mem_singleton.mpr id
  lasts := ⟨by unfold Lasts; decide +kernel, by unfold Lasts; decide +kernel, trivial⟩
  idle := by decide +kernel
  running := by decide +kernel

theorem answered_iff_writing :
    answers someConfig .queue (after (step someConfig .queue) (.fresh .new []) subscribed)
      [.gatts 3 (.write writing) .succeeding, .incoming .succeeding] 1 11 = 1 := by
  refine (answered_iff someConfig .queue .new [] subscribed 3 writing .succeeding
    [.incoming .succeeding] asked_writing).mpr ?_
  rw [Answerable, if_neg (by decide +kernel)]
  exact iff_of_true rfl ⟨rfl, by decide, by decide, id⟩

/-- The write that has already subscribed the peer, once more. -/
def resubscribing : Write := { subscribing with transId := 11 }

/-- A peer that subscribes twice waits for its second response. -/
theorem repeated_subscription_unanswered :
    Asked someConfig .queue .new [] subscribed 3 resubscribing .succeeding
        [.incoming .succeeding] ∧
      resubscribing.needRsp = true ∧
      answers someConfig .queue (.fresh .new [])
        (subscribed ++ [.gatts 3 (.write resubscribing) .succeeding, .incoming .succeeding]) 1 11 =
        0 := by
  refine ⟨?_, rfl, by decide +kernel⟩
  constructor
  · decide +kernel
  · exact .inr (by decide +kernel)
  · exact fun hwaiting => hwaiting.data (by decide +kernel)
  · exact List.forall_mem_singleton.mpr id
  · exact ⟨by unfold Lasts; decide +kernel, by unfold Lasts; decide +kernel, trivial⟩
  · decide +kernel
  · decide +kernel

end EspIdfMatter.Bluedroid
