import EspIdfMatter.Nimble.Isolation

/-! Delivery of the accepted `C1` writes to the engine. What is due is read off the marks that the
steps leave in the history, from each write forward: it is handed over by the next iteration of the
incoming pump, unless a connection or a disconnection comes first. -/

namespace EspIdfMatter.Nimble

open Library Library.Machine

variable {β : Type}

/-- A `C1` payload as the engine is given it. -/
structure Handed where
  mtu : Option UInt16
  peer : BtAddr
  data : Bytes
  deriving DecidableEq

def Call.handed : Call → Option Handed
  | .btp (.processIncoming mtu peer data _) => some ⟨mtu, peer, data⟩
  | _ => none

/-- What the engine is handed along a run. -/
def handed (E : Btp β) (w : World β) (steps : List (Step β)) : List Handed :=
  (outputs (step E) w steps).filterMap Call.handed

/-! ### What is due -/

/-- The marks that matter for delivery. -/
inductive Mark where
  | connect (peer : BtAddr) (mtu : Option UInt16)
  | disconnect
  /-- on the tracked connection -/
  | mtu (value : UInt16)
  /-- the hook returned 0 -/
  | write (data : Bytes)
  | pump
  deriving DecidableEq

def mark (w : World β) : Step β → List Mark
  | .event (.gap (.connect _ (.ok _) found attMtu)) =>
      [.connect (found.toOption.getD ⟨.replicate 6 0⟩) attMtu.toOption]
  | .event (.gap (.disconnect _ _)) => [.disconnect]
  | .event (.gap (.mtu connHandle value)) =>
      if w.state.connection.map (·.connHandle) = some connHandle then [.mtu value] else []
  | .event (.gatts (.write connHandle attrHandle data)) =>
      if ((hook (.gatts (.write connHandle attrHandle data))).exec w).2 = 0 then
        [.write data.payload]
      else
        []
  | .incoming => if w.ended = none then [.pump] else []
  | _ => []

def marks (E : Btp β) (w : World β) (steps : List (Step β)) : List Mark :=
  outputs (fun w s => ((step E w s).1, mark w s)) w steps

/-- What becomes of a payload accepted on a connection with this peer and, up to here, this MTU. -/
def fate (peer : BtAddr) (mtu : Option UInt16) (data : Bytes) : List Mark → List Handed
  | [] => []
  | .pump :: _ => [⟨mtu, peer, data⟩]
  | .connect _ _ :: _ => []
  | .disconnect :: _ => []
  | .mtu value :: later => fate peer (some value) data later
  | .write _ :: later => fate peer mtu data later

/-- An empty payload is never handed over. -/
def dueFor (peer : BtAddr) (mtu : Option UInt16) (data : Bytes) (later : List Mark) : List Handed :=
  if data = [] then [] else fate peer mtu data later

/-- What the engine is due, when the tracked connection has this peer and this MTU. -/
def due : Option (BtAddr × Option UInt16) → List Mark → List Handed
  | _, [] => []
  | _, .connect peer mtu :: later => due (some (peer, mtu)) later
  | _, .disconnect :: later => due none later
  | link, .mtu value :: later => due (link.map fun link => (link.1, some value)) later
  | some (peer, mtu), .write data :: later =>
      dueFor peer mtu data later ++ due (some (peer, mtu)) later
  | none, .write _ :: later => due none later
  | link, .pump :: later => due link later

/-! ### Delivery -/

/-- A write is read exactly, and the engine takes what an iteration hands it. -/
def Delivers (E : Btp β) (w : World β) (s : Step β) : Prop :=
  ReadsExactly w s ∧
    (s = .incoming → w.ended = none → ∀ e, (processIncoming E w).processed ≠ .error e)

def World.link (w : World β) : Option (BtAddr × Option UInt16) :=
  w.state.connection.map fun conn => (conn.peer, conn.mtu)

/-- What is due for the payload that waits in the buffer, if any. -/
def World.waiting (w : World β) (later : List Mark) : List Handed :=
  match w.link with
  | some (peer, mtu) => dueFor peer mtu w.state.inData.toList later
  | none => []

/-- What is due in the present world. -/
def World.due (w : World β) (later : List Mark) : List Handed :=
  w.waiting later ++ Nimble.due w.link later

section Fate

variable (peer : BtAddr) (mtu : Option UInt16) (data : Bytes) (later : List Mark)

@[simp] theorem dueFor_empty : dueFor peer mtu [] later = [] := rfl

theorem dueFor_pump {data : Bytes} (h : data ≠ []) :
    dueFor peer mtu data (.pump :: later) = [⟨mtu, peer, data⟩] := if_neg h

@[simp] theorem dueFor_connect (peer' : BtAddr) (mtu' : Option UInt16) :
    dueFor peer mtu data (.connect peer' mtu' :: later) = [] := ite_self _

@[simp] theorem dueFor_disconnect : dueFor peer mtu data (.disconnect :: later) = [] := ite_self _

@[simp] theorem dueFor_mtu (value : UInt16) :
    dueFor peer mtu data (.mtu value :: later) = dueFor peer (some value) data later := rfl

@[simp] theorem dueFor_write (data' : Bytes) :
    dueFor peer mtu data (.write data' :: later) = dueFor peer mtu data later := rfl

end Fate

theorem due_of_same {w w' : World β} (hlink : w'.link = w.link)
    (hdata : w'.state.inData = w.state.inData) (later : List Mark) : w'.due later = w.due later := by
  simp only [World.due, World.waiting, hlink, hdata]

/-- A step that neither marks nor hands anything, and leaves the link and the buffer alone. -/
theorem due_step_of_same {E : Btp β} {w : World β} {s : Step β} (hmark : mark w s = [])
    (hcalls : (step E w s).2.filterMap Call.handed = [])
    (hlink : (step E w s).1.link = w.link)
    (hdata : (step E w s).1.state.inData = w.state.inData) (later : List Mark) :
    (step E w s).2.filterMap Call.handed ++ (step E w s).1.due later =
      w.due (mark w s ++ later) := by
  rw [hmark, hcalls, List.nil_append, List.nil_append, due_of_same hlink hdata]

/-! ### Hooks -/

theorem due_mtu (w : World β) (connHandle : Handle) (value : UInt16) (later : List Mark) :
    (w.setState (w.state.setMtu connHandle value)).due later =
      w.due ((if w.state.connection.map (·.connHandle) = some connHandle then
        [.mtu value] else []) ++ later) := by
  unfold State.setMtu State.modifyConn
  cases hconn : w.state.connection with
  | none => rfl
  | some conn =>
      by_cases hhandle : conn.connHandle = connHandle
      · simp [World.due, World.waiting, World.link, due, hconn, hhandle]
      · simp only [hhandle, if_false, Option.map_some, Option.some.injEq, List.nil_append]
        rfl

/-- An accepted write is due what is due for its payload; a refused one changes nothing. -/
theorem due_write (w : World β) (conn attr : Handle) (data : Mbuf)
    (hread : w.state.inData.isEmpty = true → data.CopiesExactly) (later : List Mark) :
    ((hook (.gatts (.write conn attr data))).exec w).1.due later =
      w.due ((if ((hook (.gatts (.write conn attr data))).exec w).2 = 0 then
        [.write data.payload] else []) ++ later) := by
  by_cases hroom : w.state.inData.isEmpty = true
  · have hwrite := State.write_of_copiesExactly hroom (hread hroom)
    have hempty : w.state.inData.toList = [] := (BoundedVec.isEmpty_iff _).mp hroom
    simp only [exec_write, hwrite, if_true, List.singleton_append]
    cases hconn : w.state.connection with
    | none => simp [World.due, World.waiting, World.link, due, hconn]
    | some link => simp [World.due, World.waiting, World.link, due, hconn, hempty]
  · have hwrite := State.write_of_occupied data (eq_false_of_ne_true hroom)
    simp only [exec_write, hwrite]
    rfl

theorem due_connect (w : World β) (connHandle : Handle) (u : Unit)
    (found : Except BleError BtAddr) (attMtu : Except BleError UInt16) (later : List Mark) :
    ((hook (.gap (.connect connHandle (.ok u) found attMtu))).exec w).1.due later =
      w.due (.connect (found.toOption.getD ⟨.replicate 6 0⟩) attMtu.toOption :: later) := by
  have hwaiting : w.waiting (.connect (found.toOption.getD ⟨.replicate 6 0⟩) attMtu.toOption ::
      later) = [] := by
    unfold World.waiting
    split
    · exact dueFor_connect ..
    · rfl
  rw [World.due.eq_1 w, hwaiting]
  cases found <;> rfl

theorem due_disconnect (w : World β) (connHandle : Handle) (reason : Int) (later : List Mark) :
    ((hook (.gap (.disconnect connHandle reason))).exec w).1.due later =
      w.due (.disconnect :: later) := by
  have hwaiting : w.waiting (.disconnect :: later) = [] := by
    unfold World.waiting
    split
    · exact dueFor_disconnect ..
    · rfl
  rw [World.due.eq_1 w, hwaiting]
  rfl

/-- A change to the connection that keeps its peer and its MTU does not matter here. -/
theorem due_modifyConn (w : World β) (connHandle : Handle) {f : Connection → Connection}
    (hpeer : ∀ c, (f c).peer = c.peer) (hmtu : ∀ c, (f c).mtu = c.mtu) (later : List Mark) :
    (w.setState (w.state.modifyConn connHandle f)).due later = w.due later := by
  unfold State.modifyConn
  cases hconn : w.state.connection with
  | none => rfl
  | some conn =>
      dsimp only
      split
      · have hlink : (w.setState { w.state with connection := some (f conn) }).link = w.link := by
          simp [World.link, hconn, hpeer, hmtu]
        exact due_of_same hlink rfl later
      · rfl

theorem due_subscriptionChanged (w : World β) (connHandle attrHandle : Handle)
    (curIndicate : Bool) (later : List Mark) :
    ((hook (.gatts (.subscriptionChanged connHandle attrHandle curIndicate))).exec w).1.due later =
      w.due later := by
  simp only [hook, gattsHook, Hook.exec]
  split
  · exact due_modifyConn w connHandle (f := fun conn => { conn with subscribed := curIndicate })
      (fun _ => rfl) (fun _ => rfl) later
  · rfl

/-- **A hook leaves due what its mark says.** -/
theorem due_event (E : Btp β) (w : World β) (event : Event)
    (hread : ReadsExactly w (.event event)) (later : List Mark) :
    (step E w (.event event)).2.filterMap Call.handed ++ (step E w (.event event)).1.due later =
      w.due (mark w (.event event) ++ later) := by
  cases event with
  | host event => cases event <;> exact due_step_of_same rfl rfl rfl rfl later
  | gap event =>
      cases event with
      | connect connHandle status found attMtu =>
          cases status with
          | error e => exact due_step_of_same rfl rfl rfl rfl later
          | ok u => exact due_connect w connHandle u found attMtu later
      | disconnect connHandle reason => exact due_disconnect w connHandle reason later
      | mtu connHandle value => exact due_mtu w connHandle value later
      | other => exact due_step_of_same rfl rfl rfl rfl later
  | gatts event =>
      cases event with
      | register reg =>
          cases reg with
          | characteristic uuid valHandle =>
              have hstate : (step E w (.event (.gatts
                  (.register (.characteristic uuid valHandle))))).1.state = w.state := by
                simp only [step, hook, gattsHook]
                split <;> rfl
              exact due_step_of_same rfl rfl (by simp only [World.link, hstate]) (by rw [hstate])
                later
          | other => exact due_step_of_same rfl rfl rfl rfl later
      | write conn attr data => exact due_write w conn attr data hread later
      | read conn attr => exact due_step_of_same rfl rfl rfl rfl later
      | subscriptionChanged connHandle attrHandle curIndicate =>
          exact due_subscriptionChanged w connHandle attrHandle curIndicate later
      | notifyComplete conn attr indication status =>
          have hstate : (step E w (.event (.gatts
              (.notifyComplete conn attr indication status)))).1.state = w.state :=
            exec_notifyComplete w conn attr indication status
          exact due_step_of_same rfl rfl (by simp only [World.link, hstate]) (by rw [hstate]) later

/-! ### Pumps -/

theorem syncBtp_handed (E : Btp β) (w : World β) :
    (w.syncBtp E).2.filterMap Call.handed = [] := by
  unfold World.syncBtp State.syncBtp
  split <;> rfl

/-- An iteration of the incoming pump hands over what waits, or it finds nothing to do. -/
theorem processIncoming_cases (E : Btp β) (w : World β) :
    ((processIncoming E w).calls.filterMap Call.handed = [] ∧
        (processIncoming E w).world.state.inData = w.state.inData ∧
        (processIncoming E w).processed = .ok false) ∨
      ∃ mtu peer, (processIncoming E w).calls.filterMap Call.handed =
          [⟨mtu, peer, w.state.inData.toList⟩] ∧ w.state.inData.toList ≠ [] ∧
        (((processIncoming E w).world.state.inData = .empty ∧
          (processIncoming E w).processed = .ok true) ∨
          ∃ e, (processIncoming E w).processed = .error e) := by
  have hstate := World.syncBtp_state E w
  unfold processIncoming
  split
  · exact Or.inl ⟨rfl, rfl, rfl⟩
  · rename_i conn hconn
    dsimp only
    split
    · exact Or.inl ⟨syncBtp_handed E w, by rw [hstate], rfl⟩
    · rename_i hfull
      have hsome : w.state.inData.toList ≠ [] := by
        rw [hstate] at hfull
        exact fun h => hfull ((BoundedVec.isEmpty_iff _).mpr h)
      refine Or.inr ⟨conn.mtu, conn.peer, ?_⟩
      split
      · exact ⟨by simp [syncBtp_handed, Call.handed, hstate], hsome, Or.inr ⟨_, rfl⟩⟩
      · exact ⟨by simp [syncBtp_handed, Call.handed, hstate], hsome, Or.inl ⟨rfl, rfl⟩⟩

theorem due_incoming (E : Btp β) (w : World β)
    (htakes : ∀ e, (processIncoming E w).processed ≠ .error e) (later : List Mark) :
    (processIncoming E w).calls.filterMap Call.handed ++ (processIncoming E w).world.due later =
      w.due (.pump :: later) := by
  have hstate := World.syncBtp_state E w
  unfold processIncoming at htakes ⊢
  cases hconn : w.state.connection with
  | none => simp [World.due, World.waiting, World.link, due, hconn]
  | some conn =>
      simp only [hconn] at htakes ⊢
      by_cases hempty : (w.syncBtp E).1.state.inData.isEmpty = true
      · have hnone : w.state.inData.toList = [] := by
          rw [hstate] at hempty
          exact (BoundedVec.isEmpty_iff _).mp hempty
        simp only [if_pos hempty, syncBtp_handed]
        simp [World.due, World.waiting, World.link, due, hconn, hstate, hnone]
      · have hsome : w.state.inData.toList ≠ [] := by
          rw [hstate] at hempty
          exact fun h => hempty ((BoundedVec.isEmpty_iff _).mpr h)
        simp only [if_neg hempty] at htakes ⊢
        split at htakes
        · exact absurd rfl (htakes _)
        · simp [World.due, World.waiting, World.link, due, hconn, hstate, syncBtp_handed,
            dueFor_pump _ _ _ hsome, Call.handed]

theorem submit_handed (d : Driver) (conn c2 : Handle) (data : Bytes) (w : World β) :
    (submit d conn c2 data w).calls.filterMap Call.handed = [] := by
  unfold submit
  dsimp only
  split <;> rfl

/-- The outgoing pump hands nothing over, and leaves the link and the incoming buffer alone. -/
theorem processOutgoing_frame (E : Btp β) (d : Driver) (w : World β) :
    (processOutgoing E d w).calls.filterMap Call.handed = [] ∧
      (processOutgoing E d w).world.link = w.link ∧
      (processOutgoing E d w).world.state.inData = w.state.inData := by
  have hstate := World.syncBtp_state E w
  unfold processOutgoing
  split
  · exact ⟨rfl, rfl, rfl⟩
  split
  · exact ⟨rfl, rfl, rfl⟩
  dsimp only
  split
  · exact ⟨syncBtp_handed E w, by simp [World.link, hstate], by rw [hstate]⟩
  split
  · exact ⟨syncBtp_handed E w, by simp [World.link, hstate], by rw [hstate]⟩
  split
  · exact ⟨by simp [syncBtp_handed, Call.handed], by simp [World.link, hstate], by simp [hstate]⟩
  split
  · exact ⟨by simp [syncBtp_handed, Call.handed], by simp [World.link, hstate], by simp [hstate]⟩
  · refine ⟨?_, by simp [World.link, submit_state, hstate], by simp [submit_state, hstate]⟩
    simp only [List.filterMap_append, syncBtp_handed, submit_handed]
    rfl

theorem advertise_handed (d : Driver) (w : World β) :
    (advertise d w).1.filterMap Call.handed = [] := by
  unfold advertise
  repeat' split
  all_goals rfl

theorem outgoing_frame (E : Btp β) (d : Driver) (w : World β) :
    (iterateOutgoing E d w).calls.filterMap Call.handed = [] ∧
      (iterateOutgoing E d w).world.link = w.link ∧
      (iterateOutgoing E d w).world.state.inData = w.state.inData := by
  have hadvertised : (readvertise d w).2.filterMap Call.handed = [] ∧
      (readvertise d w).1.link = w.link ∧
      (readvertise d w).1.state.inData = w.state.inData := by
    unfold readvertise
    split
    · exact ⟨advertise_handed d w, rfl, rfl⟩
    · exact ⟨rfl, rfl, rfl⟩
  obtain ⟨hcalls, hlink, hdata⟩ := processOutgoing_frame E d (readvertise d w).1
  refine ⟨?_, hlink.trans hadvertised.2.1, hdata.trans hadvertised.2.2⟩
  simp only [iterateOutgoing, List.filterMap_append, hadvertised.1, hcalls, List.append_nil]

/-- **Every step hands over what is due.** -/
theorem due_step (E : Btp β) (w : World β) (s : Step β) (hs : Delivers E w s) (later : List Mark) :
    (step E w s).2.filterMap Call.handed ++ (step E w s).1.due later = w.due (mark w s ++ later) := by
  cases s with
  | event event => exact due_event E w event hs.1 later
  | incoming =>
      by_cases h : w.ended = none
      · have hdue := due_incoming E w (hs.2 rfl h) later
        simp only [step, mark, if_pos h, Iteration.finish]
        exact hdue
      · simp only [step, mark, if_neg h]
        rfl
  | outgoing d =>
      obtain ⟨hcalls, hlink, hdata⟩ := outgoing_frame E d w
      by_cases h : w.ended = none
      · have hstep : step E w (.outgoing d) = (iterateOutgoing E d w).finish := if_pos h
        refine due_step_of_same rfl ?_ ?_ ?_ later
        all_goals
          rw [hstep]
          assumption
      · have hstep : step E w (.outgoing d) = (w, []) := if_neg h
        refine due_step_of_same rfl ?_ ?_ ?_ later
        all_goals
          rw [hstep]
          try rfl
  | matter btp => exact due_step_of_same rfl rfl rfl rfl later

@[simp] theorem due_nil (link : Option (BtAddr × Option UInt16)) : due link [] = [] := by
  cases link <;> rfl

/-- Along a run, the engine is handed what is due. -/
theorem due_run (E : Btp β) (w : World β) (steps : List (Step β))
    (hrun : Along (step E) (Delivers E) w steps) : handed E w steps = w.due (marks E w steps) := by
  induction steps generalizing w with
  | nil =>
      have hwaiting : w.waiting [] = [] := by
        unfold World.waiting
        split
        · exact ite_self _
        · rfl
      simp only [marks, outputs_nil, World.due, hwaiting, due_nil, List.append_nil]
      rfl
  | cons s steps ih =>
      have hhead := due_step E w s hrun.1 (marks E (step E w s).1 steps)
      rw [← ih _ hrun.2] at hhead
      rw [handed, outputs_cons, List.filterMap_append]
      exact hhead

/-- An iteration of the incoming pump fails only if the engine does. -/
theorem processIncoming_ne_error {E : Btp β}
    (htakes : ∀ btp mtu peer data, (E.processIncoming btp mtu peer data).2 = .ok ()) (w : World β)
    (e : ErrorCode) : (processIncoming E w).processed ≠ .error e := by
  unfold processIncoming
  split
  · simp
  · rename_i conn hconn
    dsimp only
    split
    · simp
    · split
      · rename_i btp e' hanswer
        have hok := htakes (w.syncBtp E).1.btp conn.mtu conn.peer (w.syncBtp E).1.state.inData.toList
        rw [hanswer] at hok
        cases hok
      · simp

/-- **The accepted writes are delivered**: each of them once, as written and in order, with the peer
and the latest MTU of its connection, except those that a connection or a disconnection overtook. A
write that is refused for want of room changes nothing at all. -/
theorem writes_delivered (E : Btp β) (c : Context) (c2ValHandle : Handle) (btp : β)
    (steps : List (Step β))
    (hrun : Along (step E) (Delivers E) (.fresh c c2ValHandle btp) steps) :
    handed E (.fresh c c2ValHandle btp) steps =
        due none (marks E (.fresh c c2ValHandle btp) steps) ∧
      ∀ (w : World β) conn attr data, w.state.inData.isEmpty = false →
        (hook (.gatts (.write conn attr data))).exec w = (w, bleAttErrInsufficientRes) := by
  refine ⟨due_run E _ steps hrun, fun w conn attr data hfull => ?_⟩
  rw [exec_write, State.write_of_occupied data hfull]
  rfl

/-- Of three writes the second finds the buffer occupied, and a disconnection overtakes the third. -/
def deliveryRun : List (Step (List Buffer)) :=
  [.event (.gap (.connect 1 (.ok ()) (.ok ⟨.replicate 6 7⟩) (.ok 23))),
    .event (.gatts (.write 1 2 (.ofBytes [1, 2, 3]))),
    .event (.gatts (.write 1 2 (.ofBytes [4]))),
    .event (.gap (.mtu 1 247)),
    .incoming,
    .event (.gatts (.write 1 2 (.ofBytes [5]))),
    .event (.gap (.disconnect 1 0)),
    .incoming]

theorem writes_delivered_deliveryRun :
    handed .queue (.fresh .new 5 []) deliveryRun = [⟨some 247, ⟨.replicate 6 7⟩, [1, 2, 3]⟩] := by
  have htakes : ∀ (w : World (List Buffer)) e, (processIncoming .queue w).processed ≠ .error e :=
    processIncoming_ne_error fun _ _ _ _ => rfl
  refine (writes_delivered .queue .new 5 [] deliveryRun ?_).1.trans (by decide +kernel)
  have hone := Mbuf.copiesExactly_ofBytes [1, 2, 3] (by decide)
  have htwo := Mbuf.copiesExactly_ofBytes [4] (by decide)
  have hthree := Mbuf.copiesExactly_ofBytes [5] (by decide)
  refine ⟨⟨trivial, ?_⟩, ⟨fun _ => hone, ?_⟩, ⟨fun _ => htwo, ?_⟩, ⟨trivial, ?_⟩, ⟨trivial, ?_⟩,
    ⟨fun _ => hthree, ?_⟩, ⟨trivial, ?_⟩, ⟨trivial, ?_⟩, trivial⟩
  all_goals exact fun _ _ => htakes _

end EspIdfMatter.Nimble
