import EspIdfMatter.Duplex.Ends

/-! A connection in use: Write Requests on `C1` travel one way and indications on `C2` the other, at the
same time, and each has to be answered before the next one leaves. Either way the link is a channel, with
the buffer of the receiving end as its slot. -/

namespace EspIdfMatter.Duplex

open Library Library.Machine

variable {β γ : Type}

structure System (β γ : Type) where
  client : Central.World β
  peripheral : Nimble.World γ
  requests : List Bytes
  responses : List UInt8
  /-- with the attribute that each is about -/
  indications : List (Handle × Bytes)
  confirmations : Nat

def System.link (S : System β γ) : Link.System β γ where
  client := S.client
  peripheral := S.peripheral
  requests := S.requests
  responses := S.responses

def System.setLink (S : System β γ) (L : Link.System β γ) : System β γ :=
  { S with client := L.client, peripheral := L.peripheral, requests := L.requests, responses := L.responses }

/-- The channel from the client to the peripheral. -/
def System.writes (S : System β γ) : Channel Bytes where
  flight := S.requests
  slot := waiting S.peripheral.state.inData
  sending := S.client.ended.isNone
  receiving := S.peripheral.ended.isNone

/-- The channel from the peripheral to the client. -/
def System.indicated (S : System β γ) : Channel Bytes where
  flight := S.indications.map Prod.snd
  slot := waiting S.client.state.inData
  sending := S.peripheral.ended.isNone
  receiving := S.client.ended.isNone

inductive Action (β γ : Type) where
  | writes (action : Link.Action β γ)
  /-- an iteration of the peripheral's outgoing pump -/
  | outgoing (driver : Nimble.Driver)
  /-- the oldest indication reaches the client's hook, and its host confirms it -/
  | indication (data : Nimble.Mbuf)
  /-- the oldest confirmation reaches the peripheral's hook -/
  | confirmation
  /-- an iteration of the client's incoming pump -/
  | incoming
  /-- an event that is about neither -/
  | client (event : Central.Event)
  | peripheral (event : Nimble.Event)

inductive Obs where
  | writes (event : Channel.Event Bytes)
  | indicated (event : Channel.Event Bytes)

/-- A request that finds the previous one in the buffer is refused. -/
def observeWrites (w : Nimble.World γ) : Link.Obs → Option Obs
  | .produced data => some (.writes (.produced data))
  | .arrived data => if w.state.inData.isEmpty = true then none else some (.writes (.lost data))
  | .handed data => some (.writes (.handed data))

def step (E : Btp β) (F : Btp γ) (conn c1Val : Handle) (S : System β γ) :
    Action β γ → System β γ × List Obs
  | .writes action =>
      let next := Link.step E F conn c1Val S.link action
      (S.setLink next.1, next.2.filterMap (observeWrites S.peripheral))
  | .outgoing d =>
      let next := Nimble.step F S.peripheral (.outgoing d)
      ({ S with
          peripheral := next.1
          indications := S.indications ++ next.2.filterMap indicationSent },
        (next.2.filterMap indicationProduced).map fun data => .indicated (.produced data))
  | .indication data =>
      match S.indications with
      | [] => (S, [])
      | (attr, _) :: indications =>
          let next := Central.step E conn c1Val S.client (.event (.gattc (.notify attr data)))
          ({ S with client := next.1, indications, confirmations := S.confirmations + 1 },
            if S.client.state.inData.isEmpty = true then [] else [.indicated (.lost data.payload)])
  | .confirmation =>
      match S.confirmations with
      | 0 => (S, [])
      | confirmations + 1 =>
          let event := Nimble.GattsEvent.notifyComplete conn S.peripheral.c2ValHandle true Nimble.bleHsEdone
          ({ S with peripheral := ((Nimble.hook (.gatts event)).exec S.peripheral).1, confirmations }, [])
  | .incoming =>
      let next := Central.step E conn c1Val S.client .incoming
      ({ S with client := next.1 },
        (next.2.filterMap Central.Call.handed).map fun data => .indicated (.handed data))
  | .client event => ({ S with client := (Central.step E conn c1Val S.client (.event event)).1 }, [])
  | .peripheral event => ({ S with peripheral := ((Nimble.hook event).exec S.peripheral).1 }, [])

def Obs.writes? : Obs → Option (Channel.Event Bytes)
  | .writes event => some event
  | .indicated _ => none

def Obs.indicated? : Obs → Option (Channel.Event Bytes)
  | .indicated event => some event
  | .writes _ => none

/-! ### What may happen -/

/-- An event of the client that is about no characteristic and no segment. -/
def ClientBackground : Central.Event → Prop
  | .gattc (.characteristic _) => False
  | .gattc (.notify _ _) => False
  | .gattc (.writeComplete _ _) => False
  | _ => True

/-- An event of the peripheral that is about no segment, and that leaves the connection and the
characteristics alone. -/
def PeripheralBackground : Nimble.Event → Prop
  | .gap (.connect _ (.ok _) _ _) => False
  | .gap (.disconnect _ _) => False
  | .gatts (.write _ _ _) => False
  | .gatts (.notifyComplete _ _ _ _) => False
  | .gatts (.register (.characteristic uuid _)) => uuid ≠ .c2
  | _ => True

/-- Requests and indications arrive as they were sent, and no indication that is out completes before it
arrived. -/
def Carries (S : System β γ) : Action β γ → Prop
  | .writes action => Link.Carries S.link action
  | .outgoing d => Patient d
  | .indication data =>
      (∃ attr rest, S.indications = (attr, data.payload) :: rest) ∧ data.CopiesExactly
  | .client event => ClientBackground event
  | .peripheral event => PeripheralBackground event
  | _ => True

/-- Both ends agree on the handle of `C2`, and know of the one segment that they wait for. -/
structure Steady (c2Val : Handle) (S : System β γ) : Prop where
  running : S.client.aborted = false
  listens : S.client.state.c2Val = some c2Val
  /-- the CCCD follows -/
  cccd : c2Val ≠ 0xFFFF
  indicates : S.peripheral.c2ValHandle = c2Val
  requests : ∀ data ∈ S.requests, data ≠ []
  indications : ∀ x ∈ S.indications, x.1 = c2Val ∧ x.2 ≠ []
  asked : S.requests.length + S.responses.length ≤ S.client.state.outInflight.toNat
  told : S.indications.length + S.confirmations = S.peripheral.outNack.toNat

/-- What an action does: both ways, the link goes on as a channel. -/
structure Moves (c2Val : Handle) (S : System β γ) (next : System β γ × List Obs) : Prop where
  steady : Steady c2Val next.1
  writes : ∃ ops, next.1.writes = after Channel.step S.writes ops ∧
    next.2.filterMap Obs.writes? = outputs Channel.step S.writes ops
  indicated : ∃ ops, next.1.indicated = after Channel.step S.indicated ops ∧
    next.2.filterMap Obs.indicated? = outputs Channel.step S.indicated ops

/-! ### The hooks -/

theorem exec_write_frame (conn attr : Handle) (data : Nimble.Mbuf) (w : Nimble.World γ) :
    ((Nimble.hook (.gatts (.write conn attr data))).exec w).1.outNack = w.outNack ∧
      ((Nimble.hook (.gatts (.write conn attr data))).exec w).1.c2ValHandle = w.c2ValHandle := by
  rw [Nimble.exec_write]
  split
  · exact ⟨rfl, rfl⟩
  · exact ⟨rfl, rfl⟩

theorem write_stored {data : Nimble.Mbuf} (hexact : data.CopiesExactly) (s : Nimble.State) :
    (s.write data).1.inData.toList = if s.inData.isEmpty = true then data.payload else s.inData.toList := by
  split
  · rename_i hroom
    rw [Nimble.State.write_of_copiesExactly hroom hexact]
  · rename_i hfull
    rw [Nimble.State.write_of_occupied data (eq_false_of_ne_true hfull)]

theorem notify_stored {data : Nimble.Mbuf} (hexact : data.CopiesExactly) (s : Central.State) :
    (s.notify data).inData.toList = if s.inData.isEmpty = true then data.payload else s.inData.toList := by
  split
  · rename_i hroom
    rw [Central.State.notify_of_empty hroom hexact]
  · rename_i hfull
    rw [Central.State.notify_of_occupied data hfull]

theorem client_event {E : Btp β} {conn c1Val : Handle} {w : Central.World β}
    (hrunning : w.aborted = false) {event : Central.Event} {context : Central.Context}
    (hevent : Central.onEvent event w.context = some context) :
    Central.step E conn c1Val w (.event event) = ({ w with context }, []) := by
  have hgo : ¬ w.aborted = true := by
    rw [hrunning]
    exact Bool.false_ne_true
  rw [Central.step, if_neg hgo]
  simp only [hevent]

theorem client_matter (E : Btp β) (conn c1Val : Handle) {w : Central.World β} (hrunning : w.aborted = false)
    (btp : β) : Central.step E conn c1Val w (.matter btp) = (w.setBtp btp, []) := by
  have hgo : ¬ w.aborted = true := by
    rw [hrunning]
    exact Bool.false_ne_true
  rw [Central.step, if_neg hgo]

theorem onEvent_of_background {event : Central.Event} (hevent : ClientBackground event)
    (c : Central.Context) : ∃ c', Central.onEvent event c = some c' ∧
      c'.state.c2Val = c.state.c2Val ∧ c'.state.outInflight = c.state.outInflight := by
  cases event with
  | host event => cases event <;> exact ⟨_, rfl, rfl, rfl⟩
  | gap event =>
      cases event with
      | connect connHandle status found attMtu => cases status <;> exact ⟨_, rfl, rfl, rfl⟩
      | mtu connHandle value =>
          refine ⟨_, rfl, ?_⟩
          simp only [Central.onGapEvent, Central.Context.modify]
          split
          · exact ⟨rfl, rfl⟩
          · exact ⟨rfl, rfl⟩
      | _ => exact ⟨_, rfl, rfl, rfl⟩
  | gattc event =>
      cases event with
      | service service =>
          cases service with
          | none => exact ⟨_, rfl, rfl, rfl⟩
          | some service =>
              refine ⟨_, rfl, ?_⟩
              split
              · exact ⟨rfl, rfl⟩
              · exact ⟨rfl, rfl⟩
      | readComplete => exact ⟨_, rfl, rfl, rfl⟩
      | _ => exact absurd hevent id

theorem exec_of_background {event : Nimble.Event} (hevent : PeripheralBackground event)
    (w : Nimble.World γ) :
    ((Nimble.hook event).exec w).1.state.inData = w.state.inData ∧
      ((Nimble.hook event).exec w).1.outNack = w.outNack ∧
      ((Nimble.hook event).exec w).1.c2ValHandle = w.c2ValHandle := by
  have hmodify : ∀ connHandle f, (w.state.modifyConn connHandle f).inData = w.state.inData := by
    intro connHandle f
    obtain ⟨connection, hmodified, -⟩ := w.state.modifyConn_eq connHandle f
    rw [hmodified]
  cases event with
  | host event => cases event <;> exact ⟨rfl, rfl, rfl⟩
  | gap event =>
      cases event with
      | connect connHandle status found attMtu =>
          cases status with
          | error e => exact ⟨rfl, rfl, rfl⟩
          | ok u => exact absurd hevent id
      | disconnect connHandle reason => exact absurd hevent id
      | mtu connHandle value => exact ⟨hmodify _ _, rfl, rfl⟩
      | other => exact ⟨rfl, rfl, rfl⟩
  | gatts event =>
      cases event with
      | register reg =>
          cases reg with
          | characteristic uuid valHandle =>
              simp only [Nimble.hook, Nimble.gattsHook, if_neg (show uuid ≠ .c2 from hevent)]
              exact ⟨rfl, rfl, rfl⟩
          | other => exact ⟨rfl, rfl, rfl⟩
      | read connHandle attrHandle => exact ⟨rfl, rfl, rfl⟩
      | subscriptionChanged connHandle attrHandle curIndicate =>
          simp only [Nimble.hook, Nimble.gattsHook, Nimble.Hook.exec]
          split
          · exact ⟨hmodify _ _, rfl, rfl⟩
          · exact ⟨rfl, rfl, rfl⟩
      | _ => exact absurd hevent id

/-! ### One action -/

section Actions

variable {E : Btp β} {F : Btp γ} {conn c1Val c2Val : Handle} {S : System β γ}

theorem writes_map {ι : Type} (f : ι → Channel.Event Bytes) (xs : List ι) :
    (xs.map fun x => Obs.writes (f x)).filterMap Obs.writes? = xs.map f ∧
      (xs.map fun x => Obs.writes (f x)).filterMap Obs.indicated? = [] := by
  refine ⟨?_, ?_⟩
  · rw [List.filterMap_map]
    exact congrFun List.filterMap_eq_map xs
  · rw [List.filterMap_map]
    exact List.filterMap_eq_nil_iff.mpr fun _ _ => rfl

theorem indicated_map {ι : Type} (f : ι → Channel.Event Bytes) (xs : List ι) :
    (xs.map fun x => Obs.indicated (f x)).filterMap Obs.indicated? = xs.map f ∧
      (xs.map fun x => Obs.indicated (f x)).filterMap Obs.writes? = [] := by
  refine ⟨?_, ?_⟩
  · rw [List.filterMap_map]
    exact congrFun List.filterMap_eq_map xs
  · rw [List.filterMap_map]
    exact List.filterMap_eq_nil_iff.mpr fun _ _ => rfl

theorem observeWrites_produced (w : Nimble.World γ) (xs : List Bytes) :
    (xs.map Link.Obs.produced).filterMap (observeWrites w) = xs.map fun x => .writes (.produced x) := by
  rw [List.filterMap_map]
  exact congrFun List.filterMap_eq_map xs

theorem observeWrites_handed (w : Nimble.World γ) (calls : List Nimble.Call) :
    (calls.filterMap Link.handedBy).filterMap (observeWrites w) =
      (calls.filterMap writeHanded).map fun x => .writes (.handed x) := by
  rw [List.filterMap_filterMap, List.map_filterMap]
  refine List.filterMap_congr fun call _ => ?_
  unfold Link.handedBy writeHanded
  cases call.handed with
  | none => rfl
  | some h => rfl

/-- An iteration of the outgoing pump of the client. -/
theorem moves_clientOutgoing (h : Steady c2Val S) (result : Except Nimble.BleError Unit) :
    Moves c2Val S (step E F conn c1Val S (.writes (.outgoing result))) := by
  obtain ⟨produced, hemits, hproduced, hc2, haborted, hdata⟩ :=
    client_outgoing E conn c1Val h.running result
  obtain ⟨ops, hview, hout⟩ := hemits.refines (c := S.writes) rfl
  obtain ⟨ops', hview', hout'⟩ := hemits.ends.stops_receiving (c := S.indicated) rfl
  refine ⟨⟨haborted, hc2.trans h.listens, h.cccd, h.indicates, ?_, h.indications, ?_, h.told⟩, ⟨ops, ?_, ?_⟩,
    ⟨ops', ?_, ?_⟩⟩
  · exact List.forall_mem_append.mpr ⟨h.requests, hemits.nonempty⟩
  · have hflow := hemits.flow
    have hasked := h.asked
    simp only [step, Link.step, System.setLink, System.link, List.length_append] at hflow ⊢
    omega
  · rw [hview, List.map_id]
    rfl
  · simp only [step, Link.step, System.link]
    rw [hout, hproduced, observeWrites_produced, (writes_map _ _).1]
  · rw [hview']
    simp only [step, Link.step, System.setLink, System.link, System.indicated, hdata]
  · simp only [step, Link.step, System.link]
    rw [hout', hproduced, observeWrites_produced, (writes_map _ _).2]

/-- An iteration of the incoming pump of the peripheral. -/
theorem moves_peripheralIncoming (h : Steady c2Val S) :
    Moves c2Val S (step E F conn c1Val S (.writes .incoming)) := by
  obtain ⟨hconsumes, hc2, hnack⟩ := peripheral_incoming F S.peripheral
  obtain ⟨ops, hview, hout⟩ := hconsumes.refines (c := S.writes) rfl rfl
  obtain ⟨ops', hview', hout'⟩ := hconsumes.ends.stops_sending (c := S.indicated) rfl
  refine ⟨⟨h.running, h.listens, h.cccd, hc2.trans h.indicates, h.requests, h.indications, h.asked, ?_⟩,
    ⟨ops, hview.symm, ?_⟩, ⟨ops', hview'.symm, ?_⟩⟩
  · exact h.told.trans (congrArg Bool.toNat hnack.symm)
  · simp only [step, Link.step, System.link]
    rw [hout, observeWrites_handed, (writes_map _ _).1]
  · simp only [step, Link.step, System.link]
    rw [hout', observeWrites_handed, (writes_map _ _).2]

/-- An iteration of the outgoing pump of the peripheral. -/
theorem moves_peripheralOutgoing (h : Steady c2Val S) {d : Nimble.Driver} (hpatient : Patient d) :
    Moves c2Val S (step E F conn c1Val S (.outgoing d)) := by
  obtain ⟨hemits, hattrs, hc2, hdata⟩ := peripheral_outgoing F hpatient S.peripheral
  obtain ⟨ops, hview, hout⟩ := hemits.refines (c := S.indicated) rfl
  obtain ⟨ops', hview', hout'⟩ := hemits.ends.stops_receiving (c := S.writes) rfl
  refine ⟨⟨h.running, h.listens, h.cccd, hc2.trans h.indicates, h.requests, ?_, h.asked, ?_⟩, ⟨ops', ?_, ?_⟩,
    ⟨ops, ?_, ?_⟩⟩
  · refine List.forall_mem_append.mpr ⟨h.indications, fun x hx => ⟨?_, hemits.nonempty x hx⟩⟩
    exact (hattrs x hx).trans h.indicates
  · have hflow := hemits.flow
    have htold := h.told
    simp only [step, List.length_append]
    omega
  · rw [hview']
    simp only [step, System.writes, hdata]
  · simp only [step]
    rw [hout', (indicated_map _ _).2]
  · rw [hview]
    simp only [step, System.indicated, List.map_append]
  · simp only [step]
    rw [hout, (indicated_map _ _).1]

/-- An iteration of the incoming pump of the client. -/
theorem moves_clientIncoming (h : Steady c2Val S) :
    Moves c2Val S (step E F conn c1Val S .incoming) := by
  obtain ⟨hconsumes, hc2, haborted, hinflight⟩ := client_incoming E conn c1Val h.running
  obtain ⟨ops, hview, hout⟩ := hconsumes.refines (c := S.indicated) rfl rfl
  obtain ⟨ops', hview', hout'⟩ := hconsumes.ends.stops_sending (c := S.writes) rfl
  refine ⟨⟨haborted, hc2.trans h.listens, h.cccd, h.indicates, h.requests, h.indications, ?_, h.told⟩,
    ⟨ops', hview'.symm, ?_⟩, ⟨ops, hview.symm, ?_⟩⟩
  · exact h.asked.trans (Nat.le_of_eq (congrArg Bool.toNat hinflight.symm))
  · simp only [step]
    rw [hout', (indicated_map _ _).2]
  · simp only [step]
    rw [hout, (indicated_map _ _).1]

/-- The oldest request reaches the peripheral. -/
theorem step_request {data : Nimble.Mbuf} {requests : List Bytes}
    (hrequests : S.requests = data.payload :: requests) :
    step E F conn c1Val S (.writes (.request data)) =
      ({ S with
          peripheral := ((Nimble.hook (.gatts (.write conn c1Val data))).exec S.peripheral).1
          requests
          responses := S.responses ++
            [((Nimble.hook (.gatts (.write conn c1Val data))).exec S.peripheral).2] },
        if S.peripheral.state.inData.isEmpty = true then [] else [.writes (.lost data.payload)]) := by
  simp only [step, Link.step, System.link, hrequests, System.setLink, List.filterMap_cons,
    List.filterMap_nil, observeWrites]
  split
  · rename_i hnone
    split at hnone
    · rename_i hempty
      rw [if_pos hempty]
    · cases hnone
  · rename_i hsome
    split at hsome
    · cases hsome
    · rename_i hfull
      cases hsome
      rw [if_neg hfull]

theorem moves_request (h : Steady c2Val S) {data : Nimble.Mbuf}
    (hcarries : Carries S (.writes (.request data))) :
    Moves c2Val S (step E F conn c1Val S (.writes (.request data))) := by
  obtain ⟨⟨requests, hrequests⟩, hexact⟩ := hcarries
  change S.requests = data.payload :: requests at hrequests
  obtain ⟨hne, hrest⟩ := List.forall_mem_cons.mp (hrequests ▸ h.requests)
  have hstate := Nimble.exec_state (.gatts (.write conn c1Val data)) S.peripheral
  have hended := Nimble.exec_ended (Nimble.hook (.gatts (.write conn c1Val data))) S.peripheral
  obtain ⟨hnack, hc2⟩ := exec_write_frame conn c1Val data S.peripheral
  have hflow : requests.length + (S.responses.length + 1) ≤ S.client.state.outInflight.toNat := by
    have hasked := h.asked
    rw [hrequests, List.length_cons] at hasked
    omega
  rw [step_request hrequests]
  refine ⟨⟨h.running, h.listens, h.cccd, hc2.trans h.indicates, hrest, h.indications, ?_, ?_⟩, ?_, ?_⟩
  · rwa [List.length_append]
  · exact h.told.trans (congrArg Bool.toNat hnack.symm)
  · obtain ⟨hview, hout⟩ := arrive_refines (c := S.writes) hrequests rfl hne
      (write_stored hexact S.peripheral.state)
    refine ⟨[.arrive], ?_, ?_⟩
    · rw [hview]
      simp only [System.writes, hstate, hended]
      rfl
    · rw [hout]
      split
      · rfl
      · rfl
  · refine ⟨[], ?_, ?_⟩
    · rw [after_nil]
      simp only [System.indicated, hended]
    · split
      · rfl
      · rfl

/-- The oldest indication reaches the client. -/
theorem step_indication (h : Steady c2Val S) {attr : Handle} {data : Nimble.Mbuf}
    {indications : List (Handle × Bytes)} (hindications : S.indications = (attr, data.payload) :: indications) :
    step E F conn c1Val S (.indication data) =
      ({ S with
          client := { S.client with context := (S.client.context.modify (.notify data)).signalIn }
          indications
          confirmations := S.confirmations + 1 },
        if S.client.state.inData.isEmpty = true then [] else [.indicated (.lost data.payload)]) := by
  have hattr := (h.indications _ (by rw [hindications]; exact List.mem_cons_self)).1
  have hlistens : Central.onEvent (.gattc (.notify attr data)) S.client.context =
      some (S.client.context.modify (.notify data)).signalIn := by
    have hc2 : some attr = S.client.context.state.c2Val := (congrArg some hattr).trans h.listens.symm
    simp only [Central.onEvent, Central.onGattcEvent, if_pos hc2]
  simp only [step, hindications, client_event h.running hlistens]

theorem notify_frame (data : Nimble.Mbuf) (s : Central.State) :
    (s.notify data).c1Val = s.c1Val ∧ (s.notify data).c2Val = s.c2Val ∧
      (s.notify data).outInflight = s.outInflight := by
  unfold Central.State.notify
  repeat' split
  all_goals exact ⟨rfl, rfl, rfl⟩

theorem moves_indication (h : Steady c2Val S) {data : Nimble.Mbuf}
    (hcarries : Carries S (.indication data)) :
    Moves c2Val S (step E F conn c1Val S (.indication data)) := by
  obtain ⟨⟨attr, indications, hindications⟩, hexact⟩ := hcarries
  obtain ⟨⟨hattr, hne⟩, hrest⟩ := List.forall_mem_cons.mp (hindications ▸ h.indications)
  obtain ⟨-, hc2, hinflight⟩ := notify_frame data S.client.state
  rw [step_indication h hindications]
  refine ⟨⟨h.running, hc2.trans h.listens, h.cccd, h.indicates, h.requests, hrest, ?_, ?_⟩, ?_, ?_⟩
  · exact h.asked.trans (Nat.le_of_eq (congrArg Bool.toNat hinflight.symm))
  · have htold := h.told
    rw [hindications, List.length_cons] at htold
    dsimp only
    omega
  · refine ⟨[], rfl, ?_⟩
    split
    · rfl
    · rfl
  · obtain ⟨hview, hout⟩ := arrive_refines (c := S.indicated)
      (congrArg (List.map Prod.snd) hindications) rfl hne (notify_stored hexact S.client.state)
    refine ⟨[.arrive], hview.symm, ?_⟩
    rw [hout]
    split
    · rfl
    · rfl

/-- An event of the client that leaves its buffer alone. -/
theorem moves_quiet (h : Steady c2Val S) {client : Central.World β} {responses : List UInt8}
    (hrunning : client.aborted = false) (hc2 : client.state.c2Val = S.client.state.c2Val)
    (hdata : client.state.inData = S.client.state.inData) (hended : client.ended = S.client.ended)
    (hasked : S.requests.length + responses.length ≤ client.state.outInflight.toNat) :
    Moves c2Val S ({ S with client, responses }, []) := by
  refine ⟨⟨hrunning, hc2.trans h.listens, h.cccd, h.indicates, h.requests, h.indications, hasked, h.told⟩,
    ⟨[], ?_, rfl⟩, ⟨[], ?_, rfl⟩⟩
  · rw [after_nil]
    simp only [System.writes, hended]
  · rw [after_nil]
    simp only [System.indicated, hended, hdata]

/-- The oldest response reaches the client. -/
theorem step_response (h : Steady c2Val S) {code : UInt8} {responses : List UInt8}
    (hresponses : S.responses = code :: responses) :
    step E F conn c1Val S (.writes .response) =
      ({ S with
          client := { S.client with
            context := Central.onWriteComplete c1Val code.toNat (some (c2Val + 1)) S.client.context }
          responses }, []) := by
  have hanswered : Central.onEvent (.gattc (.writeComplete c1Val code.toNat)) S.client.context =
      some (Central.onWriteComplete c1Val code.toNat (some (c2Val + 1)) S.client.context) := by
    have hc2 : S.client.context.state.c2Val = some c2Val := h.listens
    simp only [Central.onEvent, Central.onGattcEvent, hc2, Central.cccdHandle, if_neg h.cccd,
      Option.map_some]
  simp only [step, Link.step, System.link, hresponses, System.setLink, List.filterMap_nil,
    client_event h.running hanswered]

theorem step_unanswered (hresponses : S.responses = []) :
    step E F conn c1Val S (.writes .response) = (S, []) := by
  simp only [step, Link.step, System.link, hresponses, System.setLink, List.filterMap_nil]
  rw [← hresponses]

theorem onWriteComplete_frame (attrHandle : Handle) (status : Int) (cccd : Option Handle) (c : Central.Context) :
    (Central.onWriteComplete attrHandle status cccd c).state.c1Val = c.state.c1Val ∧
      (Central.onWriteComplete attrHandle status cccd c).state.c2Val = c.state.c2Val ∧
      (Central.onWriteComplete attrHandle status cccd c).state.inData = c.state.inData := by
  unfold Central.onWriteComplete
  repeat' split
  all_goals exact ⟨rfl, rfl, rfl⟩

theorem moves_response (h : Steady c2Val S) :
    Moves c2Val S (step E F conn c1Val S (.writes .response)) := by
  cases hresponses : S.responses with
  | nil =>
      rw [step_unanswered hresponses]
      exact ⟨h, ⟨[], rfl, rfl⟩, ⟨[], rfl, rfl⟩⟩
  | cons code responses =>
      have hflow : S.requests.length + responses.length = 0 := by
        have hasked := h.asked
        have hone := Bool.toNat_le S.client.state.outInflight
        rw [hresponses, List.length_cons] at hasked
        omega
      obtain ⟨-, hc2, hdata⟩ :=
        onWriteComplete_frame c1Val code.toNat (some (c2Val + 1)) S.client.context
      rw [step_response h hresponses]
      refine moves_quiet h h.running hc2 hdata rfl ?_
      rw [hflow]
      exact Nat.zero_le _

/-- The oldest confirmation reaches the peripheral. -/
theorem step_confirmation {confirmations : Nat} (hconfirmations : S.confirmations = confirmations + 1) :
    step E F conn c1Val S .confirmation =
      ({ S with peripheral := (S.peripheral.setNack false).wakeOutgoing, confirmations }, []) := by
  simp only [step, hconfirmations]
  rfl

theorem step_unconfirmed (hconfirmations : S.confirmations = 0) :
    step E F conn c1Val S .confirmation = (S, []) := by
  simp only [step, hconfirmations]

theorem moves_confirmation (h : Steady c2Val S) :
    Moves c2Val S (step E F conn c1Val S .confirmation) := by
  cases hconfirmations : S.confirmations with
  | zero =>
      rw [step_unconfirmed hconfirmations]
      exact ⟨h, ⟨[], rfl, rfl⟩, ⟨[], rfl, rfl⟩⟩
  | succ confirmations =>
      have hflow : S.indications.length + confirmations = 0 := by
        have htold := h.told
        have hone := Bool.toNat_le S.peripheral.outNack
        omega
      rw [step_confirmation hconfirmations]
      exact ⟨⟨h.running, h.listens, h.cccd, h.indicates, h.requests, h.indications, h.asked, hflow⟩,
        ⟨[], rfl, rfl⟩, ⟨[], rfl, rfl⟩⟩

theorem moves_client (h : Steady c2Val S) {event : Central.Event} (hevent : ClientBackground event) :
    Moves c2Val S (step E F conn c1Val S (.client event)) := by
  obtain ⟨context, hcontext, hc2, hinflight⟩ := onEvent_of_background hevent S.client.context
  have hdata := Central.onEvent_inData hcontext fun _ _ hnotify => by
    rw [hnotify] at hevent
    exact absurd hevent id
  simp only [step, client_event h.running hcontext]
  exact moves_quiet h h.running hc2 hdata rfl
    (h.asked.trans (Nat.le_of_eq (congrArg Bool.toNat hinflight.symm)))

theorem moves_peripheral (h : Steady c2Val S) {event : Nimble.Event}
    (hevent : PeripheralBackground event) :
    Moves c2Val S (step E F conn c1Val S (.peripheral event)) := by
  obtain ⟨hdata, hnack, hc2⟩ := exec_of_background hevent S.peripheral
  have hended := Nimble.exec_ended (Nimble.hook event) S.peripheral
  refine ⟨⟨h.running, h.listens, h.cccd, hc2.trans h.indicates, h.requests, h.indications, h.asked,
    h.told.trans (congrArg Bool.toNat hnack.symm)⟩, ⟨[], ?_, rfl⟩, ⟨[], ?_, rfl⟩⟩
  · rw [after_nil]
    simp only [step, System.writes, hdata, hended]
  · rw [after_nil]
    simp only [step, System.indicated, hended]

/-- **Every action moves both channels.** -/
theorem moves_step (h : Steady c2Val S) (action : Action β γ) (hcarries : Carries S action) :
    Moves c2Val S (step E F conn c1Val S action) := by
  cases action with
  | writes action =>
      cases action with
      | outgoing result => exact moves_clientOutgoing h result
      | request data => exact moves_request h hcarries
      | response => exact moves_response h
      | incoming => exact moves_peripheralIncoming h
      | client btp =>
          simp only [step, Link.step, System.link, System.setLink, client_matter E conn c1Val h.running]
          exact moves_quiet h h.running rfl rfl rfl h.asked
      | peripheral btp =>
          have hsteady : Steady c2Val { S with peripheral := S.peripheral.setBtp btp } :=
            ⟨h.running, h.listens, h.cccd, h.indicates, h.requests, h.indications, h.asked, h.told⟩
          exact ⟨hsteady, ⟨[], rfl, rfl⟩, ⟨[], rfl, rfl⟩⟩
  | outgoing d => exact moves_peripheralOutgoing h hcarries
  | indication data => exact moves_indication h hcarries
  | confirmation => exact moves_confirmation h
  | incoming => exact moves_clientIncoming h
  | client event => exact moves_client h hcarries
  | peripheral event => exact moves_peripheral h hcarries

end Actions

/-! ### Runs -/

/-- Just after the subscription, with nothing on the way. -/
structure Connected (c2Val : Handle) (S : System β γ) : Prop where
  client : S.client.aborted = false ∧ S.client.ended = none ∧ S.client.state.c2Val = some c2Val ∧
    S.client.state.inData = .empty
  peripheral : S.peripheral.ended = none ∧ S.peripheral.c2ValHandle = c2Val ∧
    S.peripheral.outNack = false ∧ S.peripheral.state.inData = .empty
  cccd : c2Val ≠ 0xFFFF
  quiet : S.requests = [] ∧ S.responses = [] ∧ S.indications = [] ∧ S.confirmations = 0

section Runs

variable {E : Btp β} {F : Btp γ} {conn c1Val c2Val : Handle} {S : System β γ}

theorem Connected.steady (h : Connected c2Val S) : Steady c2Val S := by
  obtain ⟨hrunning, -, hlistens, -⟩ := h.client
  obtain ⟨-, hc2, hnack, -⟩ := h.peripheral
  obtain ⟨hrequests, hresponses, hindications, hconfirmations⟩ := h.quiet
  refine ⟨hrunning, hlistens, h.cccd, hc2, ?_, ?_, ?_, ?_⟩
  · rw [hrequests]
    exact List.forall_mem_nil _
  · rw [hindications]
    exact List.forall_mem_nil _
  · rw [hrequests, hresponses]
    exact Nat.zero_le _
  · rw [hindications, hconfirmations, hnack]
    rfl

theorem Connected.fresh (h : Connected c2Val S) : S.writes = .fresh ∧ S.indicated = .fresh := by
  obtain ⟨-, hclient, -, hslot⟩ := h.client
  obtain ⟨hperipheral, -, -, hslot'⟩ := h.peripheral
  obtain ⟨hrequests, -, hindications, -⟩ := h.quiet
  refine ⟨?_, ?_⟩
  · rw [System.writes, hclient, hperipheral, hslot', hrequests]
    rfl
  · rw [System.indicated, hclient, hperipheral, hslot, hindications]
    rfl

theorem reliable_of_refines {events : List (Channel.Event Bytes)} {c c' : Channel Bytes} (hc : c = .fresh)
    (h : ∃ ops, c' = after Channel.step c ops ∧ events = outputs Channel.step c ops) :
    Channel.Reliable events c' := by
  obtain ⟨ops, hview, hout⟩ := h
  rw [hview, hout, hc]
  exact Channel.reliable_run ops

theorem runs_reliable (E : Btp β) (F : Btp γ) (conn c1Val : Handle) (h : Connected c2Val S)
    {actions : List (Action β γ)} (hcarries : Along (step E F conn c1Val) Carries S actions) :
    Channel.Reliable ((outputs (step E F conn c1Val) S actions).filterMap Obs.writes?)
        (after (step E F conn c1Val) S actions).writes ∧
      Channel.Reliable ((outputs (step E F conn c1Val) S actions).filterMap Obs.indicated?)
        (after (step E F conn c1Val) S actions).indicated := by
  obtain ⟨hwrites, hindicated⟩ := h.fresh
  refine ⟨reliable_of_refines hwrites ?_, reliable_of_refines hindicated ?_⟩
  · exact exists_run_of_refinement _ Channel.step System.writes Obs.writes? (fun S action hS hc =>
      have hmoves := moves_step hS action hc
      ⟨hmoves.steady, hmoves.writes⟩) h.steady hcarries
  · exact exists_run_of_refinement _ Channel.step System.indicated Obs.indicated? (fun S action hS hc =>
      have hmoves := moves_step hS action hc
      ⟨hmoves.steady, hmoves.indicated⟩) h.steady hcarries

/-- **Both ways, the link is a channel**: in any interleaving of the two ends no segment is duplicated or
overtaken, none is skipped unless one was lost, and no more than one is out. -/
theorem link_reliable (E : Btp β) (F : Btp γ) (conn c1Val : Handle) (h : Connected c2Val S)
    (actions : List (Action β γ)) (hcarries : Along (step E F conn c1Val) Carries S actions) :
    let S' := after (step E F conn c1Val) S actions
    let history := outputs (step E F conn c1Val) S actions
    Channel.Reliable (history.filterMap Obs.writes?) S'.writes ∧
      Channel.Reliable (history.filterMap Obs.indicated?) S'.indicated ∧
      S'.requests.length + S'.responses.length ≤ 1 ∧ S'.indications.length + S'.confirmations ≤ 1 := by
  intro S' history
  obtain ⟨hwrites, hindicated⟩ := runs_reliable E F conn c1Val h hcarries
  have hsteady : Steady c2Val S' :=
    invariant_after (I := Steady c2Val) (fun S action hS hc => (moves_step hS action hc).steady) h.steady hcarries
  refine ⟨hwrites, hindicated, ?_, ?_⟩
  · exact hsteady.asked.trans (Bool.toNat_le _)
  · exact hsteady.told.trans_le (Bool.toNat_le _)

end Runs

def oneByte (x : UInt8) : Buffer := (BoundedVec.empty.extendFromSlice [x]).getD .empty

/-- Both ends just after the subscription; each engine has two segments to send. -/
def connectedSystem : System (List Buffer) (List Buffer) where
  client :=
    { context := { Central.Context.new with
        state := { Central.State.new with c1Val := some 3, c2Val := some 5 } }
      btp := [oneByte 1, oneByte 2]
      ended := none
      aborted := false }
  peripheral := ((Nimble.hook (.gap (.connect 1 (.ok ()) (.ok ⟨.replicate 6 7⟩) (.ok 247)))).exec
    (.fresh .new 5 [oneByte 8, oneByte 9])).1
  requests := []
  responses := []
  indications := []
  confirmations := 0

/-- The segments cross, and the second indication finds the first one in the buffer. -/
def crossingActions : List (Action (List Buffer) (List Buffer)) :=
  [.peripheral (.gatts (.subscriptionChanged 1 5 true)), .writes (.outgoing (.ok ())),
    .outgoing .succeeding, .indication (.ofBytes [8]), .writes (.request (.ofBytes [1])), .confirmation,
    .writes .incoming, .outgoing .succeeding, .writes .response, .indication (.ofBytes [9]), .incoming,
    .writes (.outgoing (.ok ()))]

theorem connected_connectedSystem : Connected 5 connectedSystem where
  client := ⟨rfl, rfl, rfl, rfl⟩
  peripheral := ⟨rfl, rfl, rfl, rfl⟩
  cccd := by decide
  quiet := ⟨rfl, rfl, rfl, rfl⟩

theorem carries_indication {S : System (List Buffer) (List Buffer)} {x : UInt8}
    (hindications : S.indications = [(5, [x])]) : Carries S (.indication (.ofBytes [x])) :=
  ⟨⟨5, [], hindications⟩, Nimble.Mbuf.copiesExactly_ofBytes [x] (show 1 ≤ 512 by decide)⟩

theorem patient_succeeding : Patient .succeeding := fun _ => List.forall_mem_nil _

theorem link_reliable_crossingActions :
    let S' := after (step .queue .queue 1 3) connectedSystem crossingActions
    let history := outputs (step .queue .queue 1 3) connectedSystem crossingActions
    Channel.Reliable (history.filterMap Obs.writes?) S'.writes ∧
      Channel.Reliable (history.filterMap Obs.indicated?) S'.indicated ∧
      S'.requests.length + S'.responses.length ≤ 1 ∧ S'.indications.length + S'.confirmations ≤ 1 := by
  refine link_reliable .queue .queue 1 3 connected_connectedSystem crossingActions ?_
  exact ⟨trivial, trivial, patient_succeeding, carries_indication (by decide +kernel),
    Link.carries_carrying (by decide +kernel), trivial, trivial, patient_succeeding, trivial,
    carries_indication (by decide +kernel), trivial, trivial, trivial⟩

/-- The first indication is handed over, and the second is lost. -/
example : Channel.lost ((outputs (step .queue .queue 1 3) connectedSystem crossingActions).filterMap
    Obs.indicated?) = [[9]] := by decide +kernel

end EspIdfMatter.Duplex
