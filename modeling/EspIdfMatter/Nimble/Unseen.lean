import EspIdfMatter.Nimble.Pumps

/-! What no pump and no hook can see of a world: where the generations are counted from, and whether a
signal is raised already. -/

namespace EspIdfMatter.Nimble

open Library Library.Machine

variable {β : Type}

/-- Generations counted from elsewhere, and signals raised. -/
structure Unseen where
  connGen : Usize
  incoming : Bool
  outgoing : Bool

/-- The same state, with its generations counted from elsewhere. -/
def State.offset (k : Usize) (s : State) : State :=
  { s with connGen := s.connGen + k, btpGen := s.btpGen.map (· + k) }

/-- The same world, but for what cannot be seen of it. -/
def World.offset (u : Unseen) (w : World β) : World β :=
  { w with context :=
    { state := w.state.offset u.connGen
      outNack := w.outNack
      notifyProcessIncoming := w.context.notifyProcessIncoming || u.incoming
      notifyProcessOutgoing := w.context.notifyProcessOutgoing || u.outgoing } }

section State

variable (k : Usize)

/-- Generations are only compared with each other. -/
theorem State.add_btpGen_eq_iff (s : State) :
    (s.offset k).btpGen = some (s.offset k).connGen ↔ s.btpGen = some s.connGen := by
  rw [State.offset]
  cases s.btpGen with
  | none => simp
  | some g => simp

theorem State.syncBtp_offset (E : Btp β) (s : State) (btp : β) :
    (s.offset k).syncBtp E btp =
      ((s.syncBtp E btp).1.offset k, (s.syncBtp E btp).2.1, (s.syncBtp E btp).2.2) := by
  by_cases h : s.btpGen = some s.connGen
  · rw [State.syncBtp_of_synced E btp h,
      State.syncBtp_of_synced E btp ((State.add_btpGen_eq_iff k s).mpr h)]
  · rw [State.syncBtp_of_stale E btp h,
      State.syncBtp_of_stale E btp (fun h' => h ((State.add_btpGen_eq_iff k s).mp h'))]
    rfl

/-- A new connection starts the next generation, wherever they are counted from. -/
theorem State.connect_offset (peer : BtAddr) (connHandle : Handle) (mtu : Option UInt16) (s : State) :
    (s.offset k).connect peer connHandle mtu = (s.connect peer connHandle mtu).offset k := by
  have hgen : s.connGen + k + 1 = s.connGen + 1 + k := add_right_comm _ _ _
  simp only [State.connect, State.offset, hgen]

theorem State.modifyConn_offset (connHandle : Handle) (f : Connection → Connection) (s : State) :
    (s.offset k).modifyConn connHandle f = (s.modifyConn connHandle f).offset k := by
  cases hconn : s.connection with
  | none => simp only [State.modifyConn, State.offset, hconn]
  | some conn =>
      by_cases h : conn.connHandle = connHandle
      · simp only [State.modifyConn, State.offset, hconn, h, if_true]
      · simp only [State.modifyConn, State.offset, hconn, h, if_false]

theorem State.write_offset (data : Mbuf) (s : State) :
    (s.offset k).write data = ((s.write data).1.offset k, (s.write data).2) := by
  by_cases hroom : s.inData.isEmpty = true
  · simp only [State.write, State.offset, hroom, Bool.true_eq_false, if_false,
      BoundedVec.resizeDefault_of_le _ (le_refl maxMtuSize)]
    generalize data.read (s.inData.resize maxMtuSize le_rfl) = read
    cases read with
    | mk buf result =>
        cases result with
        | error e => rfl
        | ok len => rfl
  · rw [Bool.not_eq_true] at hroom
    simp only [State.write, State.offset, hroom, if_true]

end State

section World

variable (u : Unseen)

section Fields

variable (w : World β)

@[simp] theorem World.state_offset : (w.offset u).state = w.state.offset u.connGen := rfl

@[simp] theorem World.outNack_offset : (w.offset u).outNack = w.outNack := rfl

@[simp] theorem World.c2ValHandle_offset : (w.offset u).c2ValHandle = w.c2ValHandle := rfl

@[simp] theorem World.btp_offset : (w.offset u).btp = w.btp := rfl

@[simp] theorem World.ended_offset : (w.offset u).ended = w.ended := rfl

@[simp] theorem World.setState_offset (s : State) :
    (w.offset u).setState (s.offset u.connGen) = (w.setState s).offset u := rfl

@[simp] theorem World.setNack_offset (value : Bool) : (w.offset u).setNack value = (w.setNack value).offset u := rfl

@[simp] theorem World.wakeIncoming_offset : (w.offset u).wakeIncoming = w.wakeIncoming.offset u := rfl

@[simp] theorem World.wakeOutgoing_offset : (w.offset u).wakeOutgoing = w.wakeOutgoing.offset u := rfl

@[simp] theorem World.setBtp_offset (btp : β) : (w.offset u).setBtp btp = (w.setBtp btp).offset u := rfl

end Fields

/-- A hook does the same, and returns the same. -/
theorem exec_offset (event : Event) (w : World β) :
    (hook event).exec (w.offset u) = (((hook event).exec w).1.offset u, ((hook event).exec w).2) := by
  cases event with
  | host event => cases event <;> rfl
  | gap event =>
      cases event with
      | connect connHandle status found attMtu =>
          cases status with
          | error e => rfl
          | ok v => simp [hook, gapHook, Hook.exec, State.connect_offset]
      | disconnect connHandle reason => rfl
      | mtu connHandle value => simp [hook, gapHook, Hook.exec, State.setMtu, State.modifyConn_offset]
      | other => rfl
  | gatts event =>
      cases event with
      | register reg =>
          cases reg with
          | characteristic uuid valHandle =>
              simp only [hook, gattsHook]
              split
              · rfl
              · rfl
          | other => rfl
      | write connHandle attrHandle data =>
          simp only [hook, gattsHook, Hook.exec, World.state_offset, State.write_offset, World.setState_offset]
          cases (w.state.write data).2 with
          | error v => rfl
          | ok v => rfl
      | read connHandle attrHandle => rfl
      | subscriptionChanged connHandle attrHandle curIndicate =>
          simp only [hook, gattsHook, Hook.exec, World.c2ValHandle_offset]
          by_cases hc2 : attrHandle = w.c2ValHandle
          · simp [hc2, Hook.exec, State.setSubscribed, State.modifyConn_offset]
          · simp [hc2, Hook.exec]
      | notifyComplete connHandle attrHandle indication status =>
          simp only [hook, gattsHook]
          split
          · rfl
          · rfl

/-- The engine is reset in both worlds or in neither. -/
theorem World.syncBtp_offset (E : Btp β) (w : World β) :
    (w.offset u).syncBtp E = ((w.syncBtp E).1.offset u, (w.syncBtp E).2) := by
  simp only [World.syncBtp, World.state_offset, World.btp_offset, State.syncBtp_offset, World.setState_offset,
    World.setBtp_offset]

/-- The same iteration, in another world. -/
def Iteration.offset (it : Iteration β) : Iteration β :=
  { it with world := it.world.offset u }

@[simp] theorem State.connection_offset (k : Usize) (s : State) : (s.offset k).connection = s.connection := rfl

@[simp] theorem State.inData_offset (k : Usize) (s : State) : (s.offset k).inData = s.inData := rfl

@[simp] theorem State.outData_offset (k : Usize) (s : State) : (s.offset k).outData = s.outData := rfl

@[simp] theorem State.needAdvertise_offset (k : Usize) (s : State) :
    (s.offset k).needAdvertise = s.needAdvertise := rfl

theorem processIncoming_offset (E : Btp β) (w : World β) :
    processIncoming E (w.offset u) = (processIncoming E w).offset u := by
  unfold processIncoming
  rw [World.state_offset, State.connection_offset, World.syncBtp_offset]
  cases w.state.connection with
  | none => rfl
  | some conn =>
      dsimp only
      rw [World.state_offset, State.inData_offset, World.btp_offset]
      by_cases hempty : (w.syncBtp E).1.state.inData.isEmpty = true
      · rw [if_pos hempty, if_pos hempty]
        rfl
      · rw [if_neg hempty, if_neg hempty]
        generalize E.processIncoming (w.syncBtp E).1.btp conn.mtu conn.peer
          (w.syncBtp E).1.state.inData.toList = processed
        cases processed with
        | mk btp result =>
            cases result with
            | error e => rfl
            | ok u => rfl

/-- What completes during a submission sees as little. -/
theorem submit_offset (d : Driver) (conn c2 : Handle) (data : Bytes) (w : World β) :
    submit d conn c2 data (w.offset u) = (submit d conn c2 data w).offset u := by
  have hduring : ∀ (during : List (Bool × Int)) (w : World β),
      during.foldl (fun w completion =>
          ((gattsHook (.notifyComplete conn c2 completion.1 completion.2)).exec w).1) (w.offset u) =
        (during.foldl (fun w completion =>
          ((gattsHook (.notifyComplete conn c2 completion.1 completion.2)).exec w).1) w).offset u := by
    intro during
    induction during with
    | nil => exact fun _ => rfl
    | cons completion during ih =>
        intro w
        have h := congrArg Prod.fst
          (exec_offset u (.gatts (.notifyComplete conn c2 completion.1 completion.2)) w)
        rw [List.foldl_cons, List.foldl_cons, ← ih]
        exact congrArg (fun w => during.foldl _ w) h
  unfold submit
  dsimp only
  rw [World.setNack_offset, hduring]
  cases d.indicate with
  | error e => rfl
  | ok u => rfl

theorem processOutgoing_offset (E : Btp β) (d : Driver) (w : World β) :
    processOutgoing E d (w.offset u) = (processOutgoing E d w).offset u := by
  unfold processOutgoing
  rw [World.state_offset, State.connection_offset, World.syncBtp_offset]
  cases w.state.connection with
  | none => rfl
  | some conn =>
      dsimp only
      by_cases hsubscribed : conn.subscribed = false
      · rw [if_pos hsubscribed, if_pos hsubscribed]
        rfl
      · rw [if_neg hsubscribed, if_neg hsubscribed, World.outNack_offset, World.c2ValHandle_offset]
        by_cases hnack : (w.syncBtp E).1.outNack = true
        · rw [if_pos hnack, if_pos hnack]
          rfl
        · rw [if_neg hnack, if_neg hnack]
          by_cases hc2 : (w.syncBtp E).1.c2ValHandle = 0
          · rw [if_pos hc2, if_pos hc2]
            rfl
          · rw [if_neg hc2, if_neg hc2, World.btp_offset]
            generalize E.processOutgoing (w.syncBtp E).1.btp conn.mtu = processed
            cases processed with
            | mk btp result =>
                cases result with
                | error e => rfl
                | ok frame =>
                    dsimp only
                    by_cases hlen : frame.length = 0
                    · rw [if_pos hlen, if_pos hlen]
                      rfl
                    · rw [if_neg hlen, if_neg hlen]
                      have hw (w : World β) (buf : Buffer) :
                          ((w.offset u).setState { (w.offset u).state with outData := buf }).setBtp btp =
                            ((w.setState { w.state with outData := buf }).setBtp btp).offset u := rfl
                      rw [hw, World.state_offset, State.outData_offset, World.state_offset, State.outData_offset,
                        World.c2ValHandle_offset, submit_offset]
                      rfl

theorem readvertise_offset (d : Driver) (w : World β) :
    readvertise d (w.offset u) = ((readvertise d w).1.offset u, (readvertise d w).2) := by
  unfold readvertise
  rw [World.state_offset, State.needAdvertise_offset]
  split
  · rfl
  · rfl

theorem iterateOutgoing_offset (E : Btp β) (d : Driver) (w : World β) :
    iterateOutgoing E d (w.offset u) = (iterateOutgoing E d w).offset u := by
  unfold iterateOutgoing
  dsimp only
  rw [readvertise_offset, processOutgoing_offset]
  rfl

/-- **No step sees the difference.** -/
theorem step_offset (E : Btp β) (w : World β) (s : Step β) :
    step E (w.offset u) s = ((step E w s).1.offset u, (step E w s).2) := by
  cases s with
  | event event => rw [step, exec_offset, step]
  | incoming =>
      rw [step, step, World.ended_offset, processIncoming_offset]
      split
      · rfl
      · rfl
  | outgoing d =>
      rw [step, step, World.ended_offset, iterateOutgoing_offset]
      split
      · rfl
      · rfl
  | matter btp => rfl

/-- **Nor does a run**: it makes the same calls. -/
theorem outputs_offset (E : Btp β) (w : World β) (steps : List (Step β)) :
    outputs (step E) (w.offset u) steps = outputs (step E) w steps := by
  induction steps generalizing w with
  | nil => rfl
  | cons s steps ih => rw [outputs_cons, outputs_cons, step_offset, ih]

end World

end EspIdfMatter.Nimble
