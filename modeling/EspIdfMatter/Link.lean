import EspIdfMatter.Central.Client
import EspIdfMatter.Nimble.Delivery

/-! The client and the NimBLE peripheral on the two ends of one connection. The link carries each
Write Request on `C1` to the peripheral's hook, once and in order, and what the hook returns back to
the client's. -/

namespace EspIdfMatter.Link

open Library Library.Machine

variable {β γ : Type}

structure System (β γ : Type) where
  client : Central.World β
  peripheral : Nimble.World γ
  requests : List Bytes
  responses : List UInt8

inductive Action (β γ : Type) where
  /-- an iteration of the client's outgoing pump, with the driver's answer to the write -/
  | outgoing (result : Except Nimble.BleError Unit)
  /-- the oldest request reaches the peripheral's hook -/
  | request (data : Nimble.Mbuf)
  /-- the oldest response reaches the client's hook -/
  | response
  /-- an iteration of the peripheral's incoming pump -/
  | incoming
  /-- the rest of the Matter stack leaves the client's engine in this state -/
  | client (btp : β)
  /-- and the peripheral's -/
  | peripheral (btp : γ)

inductive Obs where
  /-- the client's engine produced a segment -/
  | produced (data : Bytes)
  /-- a request reached the peripheral's hook -/
  | arrived (data : Bytes)
  /-- the peripheral's engine was handed a segment -/
  | handed (data : Bytes)
  deriving DecidableEq

def producedBy : Central.Call → Option Obs
  | .btp (.processOutgoing _ (.ok data)) => if data = [] then none else some (.produced data)
  | _ => none

/-- A write that the driver took is on its way. -/
def sentBy : Central.Call → Option Bytes
  | .write _ _ data (.ok _) => some data
  | _ => none

def handedBy (call : Nimble.Call) : Option Obs :=
  call.handed.map fun h => .handed h.data

/-- The client writes to the `C1` handle `c1Val` on its connection `conn`. -/
def step (E : Btp β) (F : Btp γ) (conn c1Val : Handle) (S : System β γ) :
    Action β γ → System β γ × List Obs
  | .outgoing result =>
      let next := Central.step E conn c1Val S.client (.outgoing result)
      ({ S with client := next.1, requests := S.requests ++ next.2.filterMap sentBy },
        next.2.filterMap producedBy)
  | .request data =>
      match S.requests with
      | [] => (S, [])
      | _ :: requests =>
          let next := (Nimble.hook (.gatts (.write conn c1Val data))).exec S.peripheral
          ({ S with peripheral := next.1, requests, responses := S.responses ++ [next.2] },
            [.arrived data.payload])
  | .response =>
      match S.responses with
      | [] => (S, [])
      | code :: responses =>
          let next := Central.step E conn c1Val S.client
            (.event (.gattc (.writeComplete c1Val code.toNat)))
          ({ S with client := next.1, responses }, [])
  | .incoming =>
      let next := Nimble.step F S.peripheral .incoming
      ({ S with peripheral := next.1 }, next.2.filterMap handedBy)
  | .client btp => ({ S with client := (Central.step E conn c1Val S.client (.matter btp)).1 }, [])
  | .peripheral btp =>
      ({ S with peripheral := (Nimble.step F S.peripheral (.matter btp)).1 }, [])

/-- A request arrives as it was sent. -/
def Carries (S : System β γ) : Action β γ → Prop
  | .request data => (∃ rest, S.requests = data.payload :: rest) ∧ data.CopiesExactly
  | _ => True

/-- No request finds the previous one unprocessed. -/
def Room (S : System β γ) : Action β γ → Prop
  | .request _ => S.peripheral.state.inData.isEmpty = true
  | _ => True

def Obs.produced? : Obs → Option Bytes
  | .produced data => some data
  | _ => none

def Obs.arrived? : Obs → Option Bytes
  | .arrived data => some data
  | _ => none

def Obs.handed? : Obs → Option Bytes
  | .handed data => some data
  | _ => none

/-! ### The invariant -/

/-- The segment that waits in the peripheral's buffer, if any. -/
def waiting (w : Nimble.World γ) : List Bytes :=
  if w.state.inData.toList = [] then [] else [w.state.inData.toList]

/-- Nothing gets lost on the way from one engine to the other, as long as neither end fails. -/
structure Conserved (history : List Obs) (S : System β γ) : Prop where
  nonempty : ∀ data ∈ S.requests, data ≠ []
  link : if S.client.ended = none then
      history.filterMap Obs.produced? = history.filterMap Obs.arrived? ++ S.requests
    else
      history.filterMap Obs.arrived? ++ S.requests <+: history.filterMap Obs.produced?
  slot : if S.peripheral.ended = none then
      history.filterMap Obs.arrived? = history.filterMap Obs.handed? ++ waiting S.peripheral
    else
      history.filterMap Obs.handed? <+: history.filterMap Obs.arrived?

/-! ### The ends of the link -/

/-- What an iteration of the client's outgoing pump produces is sent, unless the iteration fails. -/
theorem outgoing_cases (E : Btp β) (conn c1Val : Handle) (result : Except Nimble.BleError Unit)
    (w : Central.World β) :
    let next := Central.step E conn c1Val w (.outgoing result)
    (next.2.filterMap sentBy = [] ∧ next.2.filterMap producedBy = [] ∧
        (next.1.ended = none → w.ended = none)) ∨
      (∃ data, next.2.filterMap sentBy = [] ∧ next.2.filterMap producedBy = [.produced data] ∧
        next.1.ended ≠ none ∧ w.ended = none) ∨
      ∃ data, data ≠ [] ∧ next.2.filterMap sentBy = [data] ∧
        next.2.filterMap producedBy = [.produced data] ∧ next.1.ended = none ∧ w.ended = none := by
  dsimp only
  unfold Central.step
  split
  · exact Or.inl ⟨rfl, rfl, id⟩
  dsimp only
  split
  · rename_i hended
    unfold Central.processOutgoing
    split
    · exact Or.inl ⟨rfl, rfl, fun _ => hended⟩
    split
    · exact Or.inl ⟨rfl, rfl, fun _ => hended⟩
    dsimp only
    split
    · exact Or.inl ⟨rfl, rfl, fun _ => hended⟩
    · rename_i btp frame hanswer
      split
      · rename_i hlen
        have hne : frame.toList ≠ [] := List.ne_nil_of_length_pos hlen
        split
        · refine Or.inr (Or.inl ⟨frame.toList, rfl, ?_, Option.some_ne_none _, hended⟩)
          simp [Central.Iteration.finish, producedBy, hne]
        · refine Or.inr (Or.inr ⟨frame.toList, hne, ?_, ?_, rfl, hended⟩)
          · have hframe := take_overwrite_frame w.state.outData frame
            simp only [Central.Iteration.finish, List.filterMap_cons, sentBy, List.filterMap_nil]
            exact congrArg (fun data => [data]) hframe
          · simp [Central.Iteration.finish, producedBy, hne]
      · rename_i hlen
        have hnil : frame.toList = [] := List.eq_nil_of_length_eq_zero (Nat.eq_zero_of_not_pos hlen)
        refine Or.inl ⟨rfl, ?_, fun _ => hended⟩
        simp [Central.Iteration.finish, producedBy, hnil]
  · exact Or.inl ⟨rfl, rfl, id⟩

theorem waiting_congr {w w' : Nimble.World γ} (h : w'.state.inData = w.state.inData) :
    waiting w' = waiting w := by
  simp only [waiting, h]

/-! ### One action -/

section Actions

variable {E : Btp β} {F : Btp γ} {conn c1Val : Handle} {history : List Obs} {S : System β γ}

theorem conserved_outgoing (h : Conserved history S) (result : Except Nimble.BleError Unit) :
    Conserved (history ++ (step E F conn c1Val S (.outgoing result)).2)
      (step E F conn c1Val S (.outgoing result)).1 := by
  have hlink := h.link
  rcases outgoing_cases E conn c1Val result S.client with
    ⟨hsent, hproduced, hended⟩ | ⟨data, hsent, hproduced, hended', hended⟩ |
      ⟨data, hne, hsent, hproduced, hended', hended⟩
  · simp only [step, hsent, hproduced, List.append_nil]
    refine ⟨h.nonempty, ?_, h.slot⟩
    dsimp only
    split
    · rename_i hnone
      rwa [if_pos (hended hnone)] at hlink
    · split at hlink
      · rw [hlink]
      · exact hlink
  · rw [if_pos hended] at hlink
    simp only [step, hsent, hproduced]
    refine ⟨by simpa using h.nonempty, ?_, ?_⟩
    · rw [if_neg hended']
      simp [hlink, List.filterMap_append, List.filterMap_cons, Obs.produced?, Obs.arrived?]
    · simpa [List.filterMap_append, List.filterMap_cons, Obs.arrived?, Obs.handed?] using h.slot
  · rw [if_pos hended] at hlink
    simp only [step, hsent, hproduced]
    refine ⟨?_, ?_, ?_⟩
    · intro data' hmem
      rcases List.mem_append.mp hmem with hold | hnew
      · exact h.nonempty data' hold
      · rw [List.mem_singleton.mp hnew]
        exact hne
    · rw [if_pos hended']
      simp [hlink, List.filterMap_append, List.filterMap_cons, Obs.produced?, Obs.arrived?]
    · simpa [List.filterMap_append, List.filterMap_cons, Obs.arrived?, Obs.handed?] using h.slot

/-- A request that finds room is stored. -/
theorem conserved_request (h : Conserved history S) {data : Nimble.Mbuf}
    (hcarries : Carries S (.request data)) (hroom : Room S (.request data)) :
    Conserved (history ++ (step E F conn c1Val S (.request data)).2)
      (step E F conn c1Val S (.request data)).1 := by
  obtain ⟨⟨requests, hrequests⟩, hexact⟩ := hcarries
  have hlink := h.link
  have hslot := h.slot
  have hne : data.payload ≠ [] := h.nonempty _ (by simp [hrequests])
  have hnone : waiting S.peripheral = [] := if_pos ((BoundedVec.isEmpty_iff _).mp hroom)
  have hwrite := Nimble.State.write_of_copiesExactly hroom hexact
  have hstored : ((Nimble.hook (.gatts (.write conn c1Val data))).exec S.peripheral).1.state.inData =
      ⟨data.payload, hexact.1⟩ ∧
      ((Nimble.hook (.gatts (.write conn c1Val data))).exec S.peripheral).1.ended =
        S.peripheral.ended := by
    simp only [Nimble.exec_write, hwrite]
    exact ⟨rfl, rfl⟩
  simp only [step, hrequests]
  refine ⟨fun data' hmem => h.nonempty data' (by simp [hrequests, hmem]), ?_, ?_⟩
  · rw [hrequests] at hlink
    simpa [List.filterMap_append, List.filterMap_cons, Obs.produced?, Obs.arrived?] using hlink
  · have hwaiting : waiting ((Nimble.hook (.gatts (.write conn c1Val data))).exec
        S.peripheral).1 = [data.payload] := by
      simp only [waiting, hstored.1, if_neg hne]
    dsimp only
    rw [hstored.2]
    split
    · rename_i hended
      rw [if_pos hended, hnone, List.append_nil] at hslot
      simp only [List.filterMap_append, hslot]
      simpa [List.filterMap_cons, Obs.arrived?, Obs.handed?] using hwaiting.symm
    · rename_i hended
      rw [if_neg hended] at hslot
      simpa [List.filterMap_append, List.filterMap_cons, Obs.arrived?, Obs.handed?] using
        hslot.trans (List.prefix_append _ _)

theorem conserved_response (h : Conserved history S) :
    Conserved (history ++ (step E F conn c1Val S .response).2)
      (step E F conn c1Val S .response).1 := by
  have hended : ∀ code : UInt8, (Central.step E conn c1Val S.client
      (.event (.gattc (.writeComplete c1Val code.toNat)))).1.ended = S.client.ended := by
    intro code
    unfold Central.step
    split
    · rfl
    · dsimp only
      split <;> rfl
  simp only [step]
  split
  · rw [List.append_nil]
    exact h
  · rw [List.append_nil]
    refine ⟨h.nonempty, ?_, h.slot⟩
    rw [hended]
    exact h.link

theorem filterMap_handedBy (calls : List Nimble.Call) :
    calls.filterMap handedBy = (calls.filterMap Nimble.Call.handed).map fun h => .handed h.data := by
  rw [List.map_filterMap]
  rfl

/-- An iteration of the pump hands over the segment that waits, or does nothing. -/
theorem conserved_incoming (h : Conserved history S) :
    Conserved (history ++ (step E F conn c1Val S .incoming).2)
      (step E F conn c1Val S .incoming).1 := by
  have hslot := h.slot
  by_cases hended : S.peripheral.ended = none
  · have hstep : Nimble.step F S.peripheral .incoming =
        (Nimble.processIncoming F S.peripheral).finish := if_pos hended
    rw [if_pos hended] at hslot
    simp only [step, hstep, Nimble.Iteration.finish, filterMap_handedBy]
    rcases Nimble.processIncoming_cases F S.peripheral with
      ⟨hhanded, hdata, hprocessed⟩ | ⟨mtu, peer, hhanded, hne, hcases⟩
    · simp only [hhanded, hprocessed, List.map_nil, List.append_nil]
      refine ⟨h.nonempty, h.link, ?_⟩
      dsimp only
      rw [Nimble.World.ended_setEnded, if_pos (by rfl), hslot, ← waiting_congr hdata]
      rfl
    · have hwaiting : waiting S.peripheral = [S.peripheral.state.inData.toList] := if_neg hne
      rw [hwaiting] at hslot
      simp only [hhanded, List.map_cons, List.map_nil]
      refine ⟨h.nonempty, ?_, ?_⟩
      · simpa [List.filterMap_append, List.filterMap_cons, Obs.produced?, Obs.arrived?] using h.link
      · rcases hcases with ⟨hdata, hprocessed⟩ | ⟨e, hprocessed⟩
        · have hnone : waiting ((Nimble.processIncoming F S.peripheral).world.setEnded none) = [] := by
            unfold waiting
            rw [Nimble.World.state_setEnded, hdata]
            rfl
          dsimp only
          rw [Nimble.World.ended_setEnded, hprocessed, if_pos (by rfl)]
          simpa [List.filterMap_append, List.filterMap_cons, Obs.arrived?, Obs.handed?, hslot] using hnone
        · dsimp only
          rw [Nimble.World.ended_setEnded, hprocessed, if_neg (by exact Option.some_ne_none e)]
          simp [List.filterMap_append, List.filterMap_cons, Obs.arrived?, Obs.handed?, hslot]
  · have hstep : Nimble.step F S.peripheral .incoming = (S.peripheral, []) := if_neg hended
    simp only [step, hstep, List.filterMap_nil, List.append_nil]
    exact h

/-- **Every action conserves the segments**, as long as no request finds the buffer occupied. -/
theorem conserved_step (h : Conserved history S) (a : Action β γ) (hcarries : Carries S a)
    (hroom : Room S a) :
    Conserved (history ++ (step E F conn c1Val S a).2) (step E F conn c1Val S a).1 := by
  cases a with
  | outgoing result => exact conserved_outgoing h result
  | request data => exact conserved_request h hcarries hroom
  | response => exact conserved_response h
  | incoming => exact conserved_incoming h
  | client btp =>
      have hended : (Central.step E conn c1Val S.client (.matter btp)).1.ended = S.client.ended := by
        unfold Central.step
        split <;> rfl
      simp only [step, List.append_nil]
      refine ⟨h.nonempty, ?_, h.slot⟩
      rw [hended]
      exact h.link
  | peripheral btp =>
      simp only [step, List.append_nil]
      exact ⟨h.nonempty, h.link, h.slot⟩

theorem Conserved.delivered (h : Conserved history S) :
    history.filterMap Obs.handed? <+: history.filterMap Obs.produced? := by
  have hslot : history.filterMap Obs.handed? <+: history.filterMap Obs.arrived? := by
    have h' := h.slot
    split at h'
    · rw [h']
      exact List.prefix_append _ _
    · exact h'
  have hlink : history.filterMap Obs.arrived? <+: history.filterMap Obs.produced? := by
    have h' := h.link
    split at h'
    · rw [h']
      exact List.prefix_append _ _
    · exact (List.prefix_append _ _).trans h'
  exact hslot.trans hlink

end Actions

/-- **The segments are delivered in order, and none is skipped**, as long as no request finds the
peripheral's buffer occupied. -/
theorem segments_delivered (E : Btp β) (F : Btp γ) (conn c1Val : Handle) {S : System β γ}
    (hrequests : S.requests = []) (hempty : S.peripheral.state.inData = .empty)
    (actions : List (Action β γ))
    (hcarries : Along (step E F conn c1Val) Carries S actions)
    (hroom : Along (step E F conn c1Val) Room S actions) :
    (outputs (step E F conn c1Val) S actions).filterMap Obs.handed? <+:
      (outputs (step E F conn c1Val) S actions).filterMap Obs.produced? := by
  have hstart : Conserved [] S := by
    have hnone : waiting S.peripheral = [] := by
      unfold waiting
      rw [hempty]
      rfl
    refine ⟨by simp [hrequests], ?_, ?_⟩
    · simp [hrequests]
    · simp [hnone]
  have hinv := run_induction (step E F conn c1Val)
    (I := fun history S actions => Conserved history S ∧
      Along (step E F conn c1Val) Carries S actions ∧ Along (step E F conn c1Val) Room S actions)
    (fun history S a actions h => ⟨conserved_step h.1 a h.2.1.1 h.2.2.1, h.2.1.2, h.2.2.2⟩)
    (h := []) (s := S) (t := actions) ⟨hstart, hcarries, hroom⟩
  exact hinv.1.delivered

/-! ### Runs on either side of the condition -/

/-- Both ends just after the connection; the client's engine has three segments to send. -/
def connectedSystem : System (List Buffer) (List Buffer) where
  client :=
    { context := { Central.Context.new with
        state := { Central.State.new with c1Val := some 3, c2Val := some 7 } }
      btp := [⟨[1], by decide⟩, ⟨[2], by decide⟩, ⟨[3], by decide⟩]
      ended := none
      aborted := false }
  peripheral := ((Nimble.hook (.gap (.connect 1 (.ok ()) (.ok ⟨.replicate 6 7⟩) (.ok 247)))).exec
    (.fresh .new 5 [])).1
  requests := []
  responses := []

def carrying (x : UInt8) : Action (List Buffer) (List Buffer) := .request (.ofBytes [x])

/-- The peripheral's pump runs before every request. -/
def timelyActions : List (Action (List Buffer) (List Buffer)) :=
  [.outgoing (.ok ()), carrying 1, .response, .incoming, .outgoing (.ok ()), carrying 2, .incoming]

/-- The second request comes before the pump took the first. -/
def lateActions : List (Action (List Buffer) (List Buffer)) :=
  [.outgoing (.ok ()), carrying 1, .response, .outgoing (.ok ()), carrying 2, .response, .incoming,
    .outgoing (.ok ()), carrying 3, .incoming]

theorem carries_carrying {S : System (List Buffer) (List Buffer)} {x : UInt8}
    (hrequests : S.requests = [[x]]) : Carries S (carrying x) :=
  ⟨⟨[], hrequests⟩, Nimble.Mbuf.copiesExactly_ofBytes [x] (show 1 ≤ 512 by decide)⟩

theorem segments_delivered_timelyActions :
    (outputs (step .queue .queue 1 3) connectedSystem timelyActions).filterMap Obs.handed? <+:
      (outputs (step .queue .queue 1 3) connectedSystem timelyActions).filterMap Obs.produced? := by
  refine segments_delivered .queue .queue 1 3 rfl rfl timelyActions ?_ ?_
  · exact ⟨trivial, carries_carrying (by decide +kernel), trivial, trivial, trivial,
      carries_carrying (by decide +kernel), trivial, trivial⟩
  · exact ⟨trivial, by unfold Room carrying; decide +kernel, trivial, trivial, trivial, by
      unfold Room carrying; decide +kernel, trivial, trivial⟩

/-- The refused segment is skipped, and the next one gets through. -/
theorem refused_segment_skipped :
    Along (step .queue .queue 1 3) Carries connectedSystem lateActions ∧
      ¬ (outputs (step .queue .queue 1 3) connectedSystem lateActions).filterMap Obs.handed? <+:
        (outputs (step .queue .queue 1 3) connectedSystem lateActions).filterMap Obs.produced? := by
  refine ⟨?_, by decide +kernel⟩
  exact ⟨trivial, carries_carrying (by decide +kernel), trivial, trivial,
    carries_carrying (by decide +kernel), trivial, trivial, trivial,
    carries_carrying (by decide +kernel), trivial, trivial⟩

end EspIdfMatter.Link
